import LoraLink.Device.Adaptation

/-!
# Uplinks

An uplink goes out on a channel drawn at random from those that are enabled, support the data rate
and whose sub-band is open. The frame is put together anew for every transmission, since the flags
and the commands that go along may have changed; payload, port, counter and data rate stay.

The device changes only once the radio has accepted the frame.
-/

namespace LoraLink

/-- The channels an uplink may be sent on, as far as the plan goes. -/
def Plan.candidates (p : Plan) (rate : DataRate) : List Nat :=
  (p.definedChannels.filter fun (_, c) => c.enabled && c.supports rate).map (·.1)

/-- The first of some channels whose sub-band is open. -/
def Plan.firstOpen (p : Plan) (now : Instant) : List Nat → Except PlanFault (Option Nat)
  | [] => .ok none
  | index :: rest =>
    match p.channel? index with
    | none => p.firstOpen now rest
    | some c => do
      let wait ← p.waitingTime now c.frequency
      if wait.isZero then return some index else p.firstOpen now rest

/-- The shortest wait for one of some channels; never, if there are none. -/
def Plan.shortestWait (p : Plan) (now : Instant) : List Channel → Except PlanFault Duration
  | [] => .ok .never
  | c :: rest => do
    let wait ← p.waitingTime now c.frequency
    let others ← p.shortestWait now rest
    return min wait others

/-- The uplink after one more transmission. -/
def HeldUplink.next (u : HeldUplink) : HeldUplink :=
  { u with transmissions := u.transmissions + 1, attemptsLeft := u.attemptsLeft - 1 }

namespace EndDevice

/-- The longest payload any data rate allows. -/
def maxPayload : Nat := 242

/-- Enough for full options, a port and the longest payload. -/
def bufferCapacity : Nat := minFrameLength + maxOptionsLength + 1 + maxPayload

/-- The longest run of commands from the start of a queue that fits into the given bytes. -/
def fitting : (room : Nat) → List Command → List Command
  | _, [] => []
  | room, c :: rest => if c.size ≤ room then c :: fitting (room - c.size) rest else []

/-- Leaves out the first `sent` commands, those that are sticky excepted. -/
def dropSent : (sent : Nat) → List Command → List Command
  | 0, queue => queue
  | _, [] => []
  | sent + 1, c :: rest => if c.isSticky then c :: dropSent sent rest else dropSent sent rest

variable (r : Region)

/-! ## The frame -/

/-- The control byte of the next frame. -/
def control (d : EndDevice) : FrameControl :=
  let flags : FrameControl := ⟨0, .up⟩
  let flags :=
    if d.settings.adr then
      (flags.setAdr true).setAdrAckReq (r.adrAckLimit ≤ d.adrAckCount)
    else flags
  flags.setAck d.ackDue

/-- What the next frame of an uplink says besides its payload and its commands. -/
def draft (d : EndDevice) (u : HeldUplink) : Draft :=
  { direction := .up
    confirmed := u.confirmed
    address := d.address
    control := (d.control r).raw
    counter := u.counter
    port := if u.payload = [] then none else some u.port }

/-- The commands that go along with the next frame. -/
def nextOptions (d : EndDevice) : List Command := fitting maxOptionsLength d.queue

/-- The next frame of an uplink. -/
def frame (d : EndDevice) (u : HeldUplink) : Except EncodeError (List UInt8) :=
  match (d.draft r u).write u.payload d.nextOptions (.empty bufferCapacity) with
  | (.ok (), buffer) => .ok buffer.bytes
  | (.error e, _) => .error e

/-- How the radio has to send at a data rate on a channel. -/
def transmitConfig (d : EndDevice) (modulation : Modulation) (c : Channel) :
    Except PlanFault TransmitConfig := do
  let limit ← d.plan.maxPower c.frequency
  return {
    power := min (d.power r) limit
    frequency := c.frequency
    codingRate := r.codingRate
    modulation
    preambleSymbols := r.preambleSymbols
    implicitHeader := false
    checksum := true
    lowDataRateOptimization := modulation.needsLowDataRateOptimization }

/-! ## On air -/

/-- The device once a frame of an uplink is on air on a channel. -/
def onAir (d : EndDevice) (u : HeldUplink) (c : Channel) (plan : Plan) : EndDevice :=
  { d with
    plan
    transmitting := true
    queue := dropSent d.nextOptions.length d.queue
    ackDue := false
    lastUplink := some (c, u.rate)
    held := some u.next }

/-- What is reported once a frame of an uplink is on air. -/
def onAirEvent (u : HeldUplink) (index len : Nat) : Event :=
  if u.transmissions = 0 then .sent u.counter index u.rate len
  else .retransmitted u.counter index u.next.transmissions

section

variable {σ : Type} [Host σ]

/-- Puts an uplink on air on the channel in a slot, and holds it from then on. -/
def transmit (u : HeldUplink) (index : Nat) : Call EndDevice σ Unit := do
  let now ← Call.now
  let d ← Call.node
  let some c := d.plan.channel? index | Call.fail (.plan .invalidChannelIndex)
  let frame ←
    match d.frame r u with
    | .ok frame => pure frame
    | .error e => Call.fail (.encoding e)
  let modulation ← Call.ofRegion (r.modulation u.rate)
  let config ← Call.ofPlan (d.transmitConfig r modulation c)
  let airtime ← Call.airtime config frame.length
  Call.radio (.send config frame)
  let plan ← Call.ofPlan (d.plan.register now airtime c.frequency)
  Call.modifyNode fun d => d.onAir u c plan
  Call.report (onAirEvent u index frame.length)

/-- Draws a channel for an uplink, if there is one that is open. -/
def selectChannel (now : Instant) (rate : DataRate) : Call EndDevice σ (Option Nat) := do
  let d ← Call.node
  let order ← Call.shuffle (d.plan.candidates rate)
  Call.ofPlan (d.plan.firstOpen now order)

/-- The new uplink a device would hold. -/
def newUplink (d : EndDevice) (payload : List UInt8) (port : UInt8) (confirmed : Bool) :
    HeldUplink :=
  let attempts := if confirmed then d.settings.maxTransmissions else d.settings.transmissions
  { payload
    port
    counter := d.counter
    confirmed
    rate := d.dataRate r
    attemptsLeft := max attempts.toNat 1
    transmissions := 0 }

/-- Holds another uplink, or none. -/
def hold (held : Option HeldUplink) : Call EndDevice σ Unit :=
  Call.modifyNode fun d => { d with held }

/--
Puts a new uplink on air. It takes the place of the one that is held before its frame is written;
if anything goes wrong, the old one is held again.
-/
def launch (u : HeldUplink) (index : Nat) : Call EndDevice σ Unit := do
  let previous := (← Call.node).held
  hold (some u)
  tryCatch (transmit r u index) fun e => do
    hold previous
    throw e

/--
Sends a new uplink. A refusal changes nothing. An uplink that was still held is abandoned once the
new one is on air.
-/
def send (payload : List UInt8) (port : UInt8) (confirmed : Bool) : Call EndDevice σ Unit := do
  let now ← Call.now
  let d ← Call.node
  if d.rxWindowsPending then
    Call.report .rxWindowsPending
    Call.refuse .rxWindowsPending
  if port = 0 ∧ payload ≠ [] then
    Call.refuse .invalidPayloadType
  let rate := d.dataRate r
  let limit ← Call.ofRegion (r.maxPayload rate)
  if limit < payload.length then
    Call.report (.payloadTooLarge payload.length limit)
    Call.refuse .payloadTooLarge
  let wait := d.plan.aggregatedWait now d.settings.aggregatedDutyCycle
  unless wait.isZero do
    Call.report (.aggregatedDutyCycleBlocked wait)
    Call.refuse .aggregatedDutyCycle
  let some index ← selectChannel now rate
    | do
      Call.report .dutyCycleBlocked
      Call.refuse .noValidChannelFound
  -- The tables of a region may allow more than a device can hold.
  if maxPayload < payload.length then
    Call.refuse .payloadTooLarge
  launch r (d.newUplink r payload port confirmed) index
  Call.modifyNode fun d => { d with counter := d.counter + 1 }
  -- Only now is the old uplink gone: had the new one failed, it would still be held.
  if let some previous := d.held then
    Call.modifyNode fun d => { d with alarms := d.alarms.set .retransmit none }
    Call.report (.retransmissionAbandoned previous.transmissions)
  let (d, events) := (← Call.node).countUplink r
  Call.modifyNode fun _ => d
  Call.record (events.map .event)

/-- Queues a request to check the link. -/
def requestLinkCheck : Call EndDevice σ Unit := do
  match (← Call.node).enqueue? .linkCheckReq with
  | some d => Call.modifyNode fun _ => d
  | none => Call.refuse .optionsFull

end

end EndDevice

end LoraLink
