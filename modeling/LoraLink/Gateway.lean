import LoraLink.Host

/-!
# Gateways

A gateway hands on every uplink it can decode and sends downlinks on request, one at a time. It
keeps to the duty cycle of the sub-bands like a device does, but opens no windows and repeats
nothing.
-/

namespace LoraLink

/-- A gateway: where it may send, and whether it is sending. -/
structure Gateway where
  plan : Plan
  /-- Is a downlink on air? -/
  transmitting : Bool := false
deriving DecidableEq

namespace Gateway

/-- How long a frequency stays closed; never open, if it lies in no sub-band. -/
def waitingTime (g : Gateway) (now : Instant) (frequency : Nat) : Duration :=
  match g.plan.subBand? frequency with
  | some b => b.waitingTime now
  | none => .never

/-- How the radio has to send at a data rate on a frequency. -/
def transmitConfig (r : Region) (power : Int) (frequency : Nat) (modulation : Modulation) :
    TransmitConfig where
  power
  frequency
  codingRate := r.codingRate
  modulation
  preambleSymbols := r.preambleSymbols
  implicitHeader := false
  checksum := false
  lowDataRateOptimization := modulation.needsLowDataRateOptimization

variable {σ : Type} [Host σ]

/-- Sends a frame. -/
def send (r : Region) (frame : List UInt8) (rate : DataRate) (frequency : Nat) :
    Call Gateway σ Unit := do
  let now ← Call.now
  let g ← Call.node
  if g.transmitting then
    Call.refuse .transmissionInProgress
  let some band := g.plan.subBand? frequency | Call.fail (.region .invalidFrequency)
  unless (band.waitingTime now).isZero do
    Call.report .dutyCycleBlocked
    Call.refuse .noValidChannelFound
  let modulation ← Call.ofRegion (r.modulation rate)
  let config := transmitConfig r band.maxPower frequency modulation
  let airtime ← Call.airtime config frame.length
  Call.radio (.send config frame)
  let plan ← Call.ofPlan (g.plan.register now airtime frequency)
  Call.modifyNode fun g => { g with plan, transmitting := true }

/-- A frame was received. -/
def receive (bytes : List UInt8) (reception : Reception) : Call Gateway σ Unit :=
  match DataFrame.decode bytes with
  | .ok frame =>
    if frame.direction = .up then Call.report (.uplinkReceived bytes reception) else pure ()
  | .error _ => pure ()

/-- The last downlink has left the antenna. -/
def txFinished : Call Gateway σ Unit := do
  Call.modifyNode fun g => { g with transmitting := false }
  Call.radio .standby

/-- A reception ended without a frame. -/
def failedReception : Call Gateway σ Unit := pure ()

/-- A gateway waits for no alarms. -/
def alarm (_ : EventId) (_ : Alarm) : Call Gateway σ Unit := pure ()

end Gateway

end LoraLink
