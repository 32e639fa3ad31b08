import LoraLink.Byte

/-!
# Fields of command payloads

Two fields are wider than a byte. A channel mask has a bit for each of the 16 channel slots of a
device. A frequency is written in units of 100 Hz, in three bytes.
-/

namespace LoraLink

/-- The two bytes of a channel mask; bit `i` of the first is channel `i`, of the second `8 + i`. -/
structure ChannelMask where
  low : UInt8
  high : UInt8
deriving DecidableEq

namespace ChannelMask

/-- The mask of a number of 16 bits; the bits above are left out. -/
def ofNat (n : Nat) : ChannelMask := ⟨UInt8.ofNat n, UInt8.ofNat (n / 256)⟩

/-- The mask on air. -/
def bytes (m : ChannelMask) : List UInt8 := [m.low, m.high]

/-- Is the bit of channel `i` set? There is none past 15. -/
def isEnabled? (m : ChannelMask) (i : Nat) : Option Bool :=
  if i < 8 then some (Byte.flag m.low i)
  else if i < 16 then some (Byte.flag m.high (i - 8))
  else none

/-- All 16 bits, in the order of the channels. -/
def statuses (m : ChannelMask) : List Bool :=
  (List.range 16).map fun i => (m.isEnabled? i).getD false

end ChannelMask

/-- The three bytes of a frequency. -/
structure WireFrequency where
  low : UInt8
  middle : UInt8
  high : UInt8
deriving DecidableEq

namespace WireFrequency

/--
The wire form of a frequency in Hz. What is below 100 Hz is dropped, and so are bits past the third
byte.
-/
def ofHertz (hertz : Nat) : WireFrequency :=
  let units := hertz / 100
  ⟨UInt8.ofNat units, UInt8.ofNat (units / 256), UInt8.ofNat (units / 65536)⟩

/-- The frequency on air. -/
def bytes (f : WireFrequency) : List UInt8 := [f.low, f.middle, f.high]

/-- On air a frequency is counted in steps of 100 Hz. -/
def hertz (f : WireFrequency) : Nat := ofLittleEndian f.bytes * 100

end WireFrequency

end LoraLink
