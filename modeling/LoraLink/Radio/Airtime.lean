import LoraLink.Radio.Modulation

/-!
# Time on air

How long a frame occupies the channel, by the modem's formula: the preamble of `n` programmed
symbols and 4.25 more, then 8 symbols and as many coded blocks as the payload needs.

A block of `SF - 2 DE` symbols' worth of payload, where `DE` is 1 under low data rate optimization,
takes one symbol per bit of the coding rate. The preamble is counted in quarter symbols, so that
all is done in whole numbers.
-/

namespace LoraLink

/-- Everything a radio needs to know for one transmission. -/
structure TransmitConfig where
  /-- In dBm. -/
  power : Int
  /-- Carrier in Hz. -/
  frequency : Nat
  codingRate : CodingRate
  modulation : Modulation
  /-- The programmed preamble, without the 4.25 symbols that follow it. -/
  preambleSymbols : Nat
  /-- Frames of fixed length carry no header of their own. -/
  implicitHeader : Bool
  /-- Does a checksum of the payload follow it? -/
  checksum : Bool
  lowDataRateOptimization : Bool

namespace TransmitConfig

/-- The blocks a payload of `len` bytes is coded into. -/
def payloadBlocks (c : TransmitConfig) (len : Nat) : Nat :=
  let sf := c.modulation.spreadingFactor.bits
  let bits := 8 * len + 28 + 16 * c.checksum.toNat - (4 * sf + 20 * c.implicitHeader.toNat)
  let perBlock := 4 * (sf - 2 * c.lowDataRateOptimization.toNat)
  (bits + perBlock - 1) / perBlock

/-- The microseconds a frame of `len` bytes is on air. -/
def airMicros (c : TransmitConfig) (len : Nat) : Nat :=
  let symbol := c.modulation.symbolMicros
  let preamble := (4 * c.preambleSymbols + 17) * symbol / 4
  let payload := 8 + c.payloadBlocks len * c.codingRate.denominator
  preamble + payload * symbol

/-- How long a payload of `len` bytes is on air. -/
def airtime (c : TransmitConfig) (len : Nat) : Duration := .ofMicros (c.airMicros len)

end TransmitConfig

end LoraLink
