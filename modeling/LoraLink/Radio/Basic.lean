import LoraLink.Radio.Airtime

/-!
# Radios

What a node asks of its radio, and what it can see of it. The outcome of a transmission or a
reception comes later and by another way: whoever runs the node tells it.
-/

namespace LoraLink

/-- What a radio is doing. -/
inductive RadioState where
  | sleep | standby | tx | rx
deriving DecidableEq

/-- How well a frame was heard. -/
structure Reception where
  /-- Signal strength in dBm. -/
  rssi : Int
  /-- Signal to noise ratio in dB. -/
  snr : Int
deriving DecidableEq

/-- A request to the radio, which it may refuse. -/
inductive RadioRequest where
  | send (config : TransmitConfig) (frame : List UInt8)
  /-- Listen on the frequency and spreading factor that are set. -/
  | standby
  /-- Stop listening. -/
  | sleep
  | setFrequency (frequency : Nat)
  | setSpreadingFactor (sf : SpreadingFactor)

end LoraLink
