import LoraLink.DataRate
import LoraLink.DutyCycle
import LoraLink.Time

/-!
# Settings

What a device is told when it is built, and what the network may change later. A setting that is
absent has the default of the region.
-/

namespace LoraLink

/-- The settings of an end device. -/
structure Settings where
  /-- Does the network control the data rate? -/
  adr : Bool := false
  /-- The share of time the device may transmit, over all sub-bands. -/
  aggregatedDutyCycle : DutyCycle := .ofFloat 1.0
  /-- In dBm. -/
  txPower : Option Int := none
  txDataRate : Option DataRate := none
  /-- How much slower than the uplink the first window is. -/
  rx1DataRateOffset : Option UInt8 := none
  /-- Seconds from the end of an uplink to the first window; the second opens a second later. -/
  rxDelay : Option UInt8 := none
  rx2DataRate : Option DataRate := none
  /-- In Hz. -/
  rx2Frequency : Option Nat := none
  /-- How often an unconfirmed uplink is sent. -/
  transmissions : UInt8 := 1
  /-- How often a confirmed uplink is sent at most. -/
  maxTransmissions : UInt8 := 8
  /-- The pause between an exchange without an answer and the next attempt. -/
  retransmitTimeout : Duration := .ofSeconds 5
  /-- The length of a receive window in symbols. -/
  rxWindowSymbols : UInt16 := 8
deriving DecidableEq

end LoraLink
