import LoraLink.DataRate
import LoraLink.DutyCycle
import LoraLink.Time

/-!
# Channels and sub-bands

A channel is a frequency a device may send on, with the data rates allowed there. A sub-band is a
range of frequencies that the regulator puts under one rule: how much power, and which share of
time. Each sub-band has a clock that says from when on it may be used again.
-/

namespace LoraLink

/-- A frequency for uplinks, and the frequency on which their replies come back. In Hz. -/
structure Channel where
  frequency : Nat
  replyFrequency : Nat
  minDataRate : DataRate
  maxDataRate : DataRate
  /-- May the channel be picked for an uplink? -/
  enabled : Bool
deriving DecidableEq

namespace Channel

/-- An enabled channel whose replies come back on its own frequency. -/
def ofFrequency (frequency : Nat) (lo hi : DataRate) : Channel :=
  { frequency, replyFrequency := frequency, minDataRate := lo, maxDataRate := hi, enabled := true }

/-- May the channel be used at a data rate? -/
def supports (c : Channel) (rate : DataRate) : Bool := rate.inRange c.minDataRate c.maxDataRate

end Channel

/-- Frequencies under one rule, their edges excluded. -/
structure SubBand where
  firstFrequency : Nat
  lastFrequency : Nat
  /-- The share of time the sub-band may be occupied. -/
  dutyCycle : DutyCycle
  /-- In dBm. -/
  maxPower : Int
  /-- The earliest start of the next transmission. -/
  nextStart : Instant := .zero
deriving DecidableEq

namespace SubBand

/-- Does a frequency lie strictly between the edges? -/
def contains (b : SubBand) (frequency : Nat) : Bool :=
  b.firstFrequency < frequency && frequency < b.lastFrequency

/-- Moves the clock of the sub-band; never back. -/
def postpone (b : SubBand) (start : Instant) : SubBand :=
  { b with nextStart := max b.nextStart start }

/-- How long the sub-band stays closed. -/
def waitingTime (b : SubBand) (now : Instant) : Duration := b.nextStart.since now

/-- The silence that a transmission leaves behind. -/
def offTime (b : SubBand) (airtime : Duration) : Duration :=
  airtime.divideBy b.dutyCycle.share - airtime

/--
Accounts for a transmission that starts now. Counted from its start, the sub-band stays closed for
the silence the transmission has to leave behind.
-/
def register (b : SubBand) (now : Instant) (airtime : Duration) : SubBand :=
  b.postpone (now + b.offTime airtime)

end SubBand

end LoraLink
