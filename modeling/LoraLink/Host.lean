import LoraLink.Radio.Basic
import LoraLink.Random
import LoraLink.Region.Basic
import LoraLink.Frame.Draft
import LoraLink.Timeline

/-!
# Hosts and calls

A node never blocks and keeps no clock. It is called, it asks its host for what it needs (the time,
an alarm, the radio, the state of the battery), and it returns. Any request to the radio and any
alarm may be refused. The node knows nothing else of the host, so whatever is proved for all hosts
holds however radios and clocks behave.

A call changes the node, the host and the source of random numbers, leaves a trace of what it did,
and may fail. It is no transaction: what happened before the failure stays.
-/

namespace LoraLink

/-- The alarms a device sets for itself. -/
inductive Alarm where
  | openRx1 | closeRx1 | openRx2 | closeRx2 | retransmit
deriving DecidableEq

/-- What a node may ask of its host, whose state is of type `σ`. -/
class Host (σ : Type) where
  /-- The time on the host's clock, which starts at zero. -/
  now : σ → Instant
  /-- Sets an alarm some time from now, and says by which identifier, unless there is no room. -/
  schedule : Duration → Alarm → σ → Option EventId × σ
  /-- Passes a request to the radio, which says whether it accepts. -/
  request : RadioRequest → σ → Bool × σ
  /-- What the radio is doing. -/
  radioState : σ → RadioState
  /-- How long a frame of the given length would be on air. -/
  airtime : TransmitConfig → Nat → σ → Duration
  /-- The share of the battery that is left, if known. -/
  battery : σ → Option Float32
  /-- Is the node on external power, where it needs no battery? -/
  externalPower : σ → Bool

/-- What a node reports. -/
inductive Event where
  /-- A new uplink is on air. -/
  | sent (counter : UInt16) (channel : Nat) (rate : DataRate) (len : Nat)
  /-- An uplink is on air again. -/
  | retransmitted (counter : UInt16) (channel transmission : Nat)
  /-- No uplink while the receive windows of the last one are not over. -/
  | rxWindowsPending
  | payloadTooLarge (len max : Nat)
  | aggregatedDutyCycleBlocked (wait : Duration)
  /-- Every usable channel waits for its sub-band. -/
  | dutyCycleBlocked
  /-- A downlink for this device. -/
  | received (port : Option UInt8) (payload : List UInt8) (reception : Reception)
  /-- An uplink heard by a gateway. -/
  | uplinkReceived (frame : List UInt8) (reception : Reception)
  | acknowledged (transmissions : Nat)
  /-- A confirmed uplink was given up. -/
  | maxTransmissionsReached (transmissions : Nat)
  /-- An uplink was replaced by a new one before it was through. -/
  | retransmissionAbandoned (transmissions : Nat)
  | linkCheck (margin gatewayCount : UInt8)
  | dataRateChanged (before after : DataRate)
  | txPowerChanged (before after : Int)

/-- What a call does for others to see, in order. -/
inductive Action where
  | radio (request : RadioRequest) (accepted : Bool)
  | event (e : Event)
  /-- The answer to a link check is handed to the application. -/
  | linkChecked (gatewayCount margin : UInt8)

/-- Why a node refuses a call. -/
inductive Refusal where
  | rxWindowsPending
  | payloadTooLarge
  | aggregatedDutyCycle
  | noValidChannelFound
  | transmissionInProgress
  | optionsFull
  | invalidPayloadType
deriving DecidableEq

/-- Why a call fails. -/
inductive Failure where
  | refused (r : Refusal)
  | region (e : RegionError)
  | plan (e : PlanError)
  | encoding (e : EncodeError)
  | radio (request : RadioRequest)
  | random (e : Random.Error)
  | timelineFull
  /-- A frequency outside every sub-band: the plan was not built by its own operations. -/
  | fault (f : PlanFault)

/-- A node of type `ν` in the middle of a call. -/
structure Session (ν σ : Type) where
  node : ν
  host : σ
  random : Random
  trace : List Action := []

/-- A call of a node, or a part of one. -/
abbrev Call (ν σ α : Type) := ExceptT Failure (StateM (Session ν σ)) α

namespace Call

variable {ν σ α : Type}

/-- The node as it is now. -/
def node : Call ν σ ν := return (← get).node

/-- Changes the node. -/
def modifyNode (f : ν → ν) : Call ν σ Unit := modify fun s => { s with node := f s.node }

/-- Adds to the trace. -/
def record (actions : List Action) : Call ν σ Unit :=
  modify fun s => { s with trace := s.trace ++ actions }

/-- Reports one event. -/
def report (e : Event) : Call ν σ Unit := record [.event e]

/-- Ends the call. What was done up to here stays. -/
def fail (f : Failure) : Call ν σ α := throw f

/-- Ends the call because the node will not do what it is asked. -/
def refuse (r : Refusal) : Call ν σ α := throw (.refused r)

/-- What a plan says; a fault ends the call. -/
def ofPlan (r : Except PlanFault α) : Call ν σ α :=
  match r with
  | .ok a => pure a
  | .error f => throw (.fault f)

/-- What the tables of a region say; where they say nothing, the call ends. -/
def ofRegion (r : Except RegionError α) : Call ν σ α :=
  match r with
  | .ok a => pure a
  | .error e => throw (.region e)

/-- Brings a list into random order. -/
def shuffle {β : Type} (xs : List β) : Call ν σ (List β) := do
  let s ← get
  match Random.shuffle xs s.random with
  | (.ok (), xs, random) =>
    set { s with random }
    return xs
  | (.error e, _, random) =>
    set { s with random }
    throw (.random e)

variable [Host σ]

/-- Asks the host what time it is. -/
def now : Call ν σ Instant := return Host.now (← get).host

/-- Asks the host what the radio is doing. -/
def radioState : Call ν σ RadioState := return Host.radioState (← get).host

/-- Asks the host how long a frame would be on air. -/
def airtime (config : TransmitConfig) (len : Nat) : Call ν σ Duration :=
  return Host.airtime config len (← get).host

/-- Asks something of the radio, and fails if it refuses. -/
def radio (request : RadioRequest) : Call ν σ Unit := do
  let s ← get
  let (accepted, host) := Host.request request s.host
  set { s with host, trace := s.trace ++ [Action.radio request accepted] }
  unless accepted do throw (.radio request)

/-- Sets an alarm, and fails if the timeline is full. -/
def schedule (delay : Duration) (alarm : Alarm) : Call ν σ EventId := do
  let s ← get
  let (id?, host) := Host.schedule delay alarm s.host
  set { s with host }
  match id? with
  | some id => return id
  | none => throw .timelineFull

/-- Makes a call: its result, and how it leaves everything. -/
def run (call : Call ν σ α) (s : Session ν σ) : Except Failure α × Session ν σ :=
  (ExceptT.run call).run s

end Call

end LoraLink
