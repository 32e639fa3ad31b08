import LoraLink.Radio.Airtime

/-!
# Time on air in words

`TransmitConfig.airtime` counts in whole numbers of any size, and what is less than nothing is
nothing. A device works the same out in words of 64 bits. Times are in words without a sign. The
bits of a payload are in words with one, since a short payload can have fewer bits than there is
room for in the first symbols.

A result that a word cannot hold would be a fault, and so would a division by zero. A word that is
taken for one of the other kind keeps its bits, which can make another number of it.
-/

namespace LoraLink

/-- What stops a computation in words. -/
inductive WordFault where
  | overflow
  | divisionByZero
deriving DecidableEq

namespace Word

/-- A result that goes into a word without a sign. -/
def unsigned (n : Nat) : Except WordFault Nat :=
  if n ≤ horizon then .ok n else .error .overflow

/-- A result that goes into a word with a sign. -/
def signed (n : Int) : Except WordFault Int :=
  if -9223372036854775808 ≤ n ∧ n ≤ 9223372036854775807 then .ok n else .error .overflow

/-- The quotient of words without a sign. -/
def quotient (n d : Nat) : Except WordFault Nat :=
  if d = 0 then .error .divisionByZero else .ok (n / d)

/-- The quotient of words with a sign, rounded toward zero. -/
def signedQuotient (n d : Int) : Except WordFault Int :=
  if d = 0 then .error .divisionByZero else signed (n.tdiv d)

/-- The word with a sign that has the bits of one without. -/
def toSigned (n : Nat) : Int := Int.bmod n 18446744073709551616

/-- The word without a sign that has the bits of one with a sign. -/
def toUnsigned (n : Int) : Nat := (n % 18446744073709551616).toNat

end Word

/-- The bits sent in addition to every four. -/
def CodingRate.extra : CodingRate → Nat
  | fourFifths => 1
  | fourSixths => 2
  | fourSevenths => 3
  | fourEighths => 4

open Word

/-- The microseconds one symbol takes. -/
def Modulation.symbolWord (m : Modulation) : Except WordFault Nat := do
  let chips ← unsigned (1 <<< m.spreadingFactor.bits)
  let scaled ← unsigned (chips * 1000000)
  quotient scaled m.bandwidth.hertz

namespace TransmitConfig

/-- The microseconds of the preamble, in which the symbols are counted in quarters. -/
def preambleWord (c : TransmitConfig) (symbol : Nat) : Except WordFault Nat := do
  let programmed ← unsigned (4 * c.preambleSymbols)
  let quarters ← unsigned (programmed + 17)
  quotient (← unsigned (quarters * symbol)) 4

/-- The bits of a payload that are left for coded blocks. -/
def codedBitsWord (c : TransmitConfig) (len : Nat) : Except WordFault Int := do
  let payload ← signed (8 * toSigned len)
  let inHeader ← signed (4 * c.modulation.spreadingFactor.bits)
  let left ← signed (payload - inHeader)
  let left ← signed (left + 28)
  let sum ← signed (16 * c.checksum.toNat)
  let left ← signed (left + sum)
  let header ← signed (20 * c.implicitHeader.toNat)
  signed (left - header)

/-- The bits that go into one block. -/
def blockBitsWord (c : TransmitConfig) : Except WordFault Int := do
  let lost ← signed (2 * c.lowDataRateOptimization.toNat)
  let kept ← signed (c.modulation.spreadingFactor.bits - lost)
  signed (4 * kept)

/-- The coded blocks. The division is rounded up by hand, and only where there is something. -/
def blocksWord (c : TransmitConfig) (len : Nat) : Except WordFault Int := do
  let bits ← c.codedBitsWord len
  let perBlock ← c.blockBitsWord
  if 0 < bits then
    let raised ← signed (bits + perBlock)
    signedQuotient (← signed (raised - 1)) perBlock
  else
    return 0

/-- How long a frame of `len` bytes is on air. -/
def timeOnAir (c : TransmitConfig) (len : Nat) : Except WordFault Duration := do
  let symbol ← c.modulation.symbolWord
  let preamble ← c.preambleWord symbol
  let blocks ← c.blocksWord len
  let perBlock ← signed (c.codingRate.extra + 4)
  let coded ← signed (blocks * perBlock)
  let symbols ← unsigned (8 + toUnsigned coded)
  let payload ← unsigned (symbols * symbol)
  return .ofMicros (← unsigned (preamble + payload))

end TransmitConfig

end LoraLink
