import LoraLink.Plan.Basic
import LoraLink.Radio.Airtime

/-!
# Regions

A region is a set of tables: the channels every device starts with, the sub-bands of its regulator,
what its data rates and power indices stand for, and the defaults of all settings a network may
change.
-/

namespace LoraLink

/-- A value that a region's tables do not have. -/
inductive RegionError where
  | invalidTxPower
  | invalidFrequency
  | dataRateNotSupported (rate : DataRate)
  | unsupportedRx1Offset (rate : DataRate) (offset : Nat)
deriving DecidableEq

/-- The tables of a region. -/
structure Region where
  /-- The frequencies of the channels every device has, in Hz. -/
  defaultFrequencies : List Nat
  /-- The data rates of those channels. -/
  defaultChannelRates : DataRate × DataRate
  subBands : List SubBand
  /-- The data rates of uplinks. -/
  uplinkRates : DataRate × DataRate
  /-- What the data rates stand for, from 0 on. -/
  modulations : List Modulation
  /-- The most bytes of payload, by data rate. -/
  maxPayloads : List Nat
  /-- What the power indices stand for, in dBm. -/
  powers : List Int
  /-- The data rate of the first window, by the data rate of the uplink and the offset. -/
  rx1Rates : List (List DataRate)
  defaultRate : DataRate
  codingRate : CodingRate
  defaultRx2Frequency : Nat
  defaultRx2Rate : DataRate
  defaultPower : Int
  minFrequency : Nat
  maxFrequency : Nat
  supportsTxParamSetup : Bool
  defaultRx1Offset : Nat
  /-- From the end of an uplink to the first window. -/
  defaultRxDelay : Duration := .ofSeconds 1
  preambleSymbols : Nat := 8
  /-- After so many uplinks without an answer the device asks for one. -/
  adrAckLimit : Nat := 64
  /-- After so many more it takes its next step towards a more robust link. -/
  adrAckDelay : Nat := 32

namespace Region

variable (r : Region)

/-- What a data rate stands for. -/
def modulation (rate : DataRate) : Except RegionError Modulation :=
  match r.modulations[rate.val]? with
  | some m => .ok m
  | none => .error (.dataRateNotSupported rate)

/-- The most bytes of payload at a data rate. -/
def maxPayload (rate : DataRate) : Except RegionError Nat :=
  match r.maxPayloads[rate.val]? with
  | some n => .ok n
  | none => .error (.dataRateNotSupported rate)

/-- What a power index stands for. -/
def power (index : Nat) : Except RegionError Int :=
  match r.powers[index]? with
  | some n => .ok n
  | none => .error .invalidTxPower

/-- The data rate of the first window after an uplink. -/
def rx1Rate (rate : DataRate) (offset : Nat) : Except RegionError DataRate :=
  match r.rx1Rates[rate.val]?.bind (·[offset]?) with
  | some d => .ok d
  | none => .error (.unsupportedRx1Offset rate offset)

/-- Does a data rate stand for anything? -/
def hasModulation (rate : DataRate) : Bool := rate.val < r.modulations.length

/-- The frequency of a default channel; past the last, they start over. -/
def defaultFrequency (index : Nat) : Nat :=
  r.defaultFrequencies.getD (index % r.defaultFrequencies.length) 0

/-- The plan every node of the region starts with. -/
def defaultPlan : Plan :=
  let channel (frequency : Nat) : Channel :=
    .ofFrequency frequency r.defaultChannelRates.1 r.defaultChannelRates.2
  let slots := r.defaultFrequencies.map (some ∘ channel)
  { channels := Vector.ofFn fun i => (slots[i.val]?).join
    subBands := r.subBands }

end Region

end LoraLink
