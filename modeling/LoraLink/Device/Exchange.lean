import LoraLink.Device.Downlink
import LoraLink.Device.Uplink

/-!
# Receive windows and repeats

When an uplink has left the antenna, the device sets the alarms for both receive windows. The first
listens on the reply frequency of the uplink's channel, the second on a fixed frequency a second
later. A window lasts a number of symbols. When it should close while a frame is being received, it
is closed after the reception; a window that should open meanwhile is skipped.

The exchange concludes with a downlink for the device, or when the last window has closed. Unless
the uplink is through, or has no attempts left, it is sent again after a pause, as soon as the duty
cycle allows. If it never will, the uplink is given up.
-/

namespace LoraLink

namespace EndDevice

variable (r : Region)

/-- The data rate of a window; for the first, by the data rate of the last uplink. -/
def windowRate (d : EndDevice) : Window → Except RegionError DataRate
  | .first => r.rx1Rate ((d.lastUplink.map (·.2)).getD (d.dataRate r)) (d.rx1Offset r)
  | .second => .ok (d.rx2Rate r)

/-- The frequency of a window; for the first, the reply frequency of the last uplink's channel. -/
def windowFrequency (d : EndDevice) : Window → Nat
  | .first => (d.lastUplink.map (·.1.replyFrequency)).getD (d.rx2Frequency r)
  | .second => d.rx2Frequency r

/-- How long the device waits until it may send at a data rate on some channel. -/
def earliestDelay (d : EndDevice) (now : Instant) (rate : DataRate) : Except PlanFault Duration := do
  let usable := d.plan.definedChannels.filter fun (_, c) => c.enabled && c.supports rate
  let wait ← d.plan.shortestWait now (usable.map (·.2))
  return max wait (d.plan.aggregatedWait now d.settings.aggregatedDutyCycle)

section

variable {σ : Type} [Host σ]

/-- Sets an alarm, and holds its identifier. -/
def setAlarm (delay : Duration) (alarm : Alarm) : Call EndDevice σ Unit := do
  let id ← Call.schedule delay alarm
  Call.modifyNode fun d => { d with alarms := d.alarms.set alarm (some id) }

/-- Tunes the radio to a window, without listening yet. Gives the modulation to listen for. -/
def tune (w : Window) : Call EndDevice σ Modulation := do
  let d ← Call.node
  let rate ← Call.ofRegion (d.windowRate r w)
  let modulation ← Call.ofRegion (r.modulation rate)
  Call.radio (.setFrequency (d.windowFrequency r w))
  Call.radio (.setSpreadingFactor modulation.spreadingFactor)
  return modulation

/-- The last uplink has left the antenna: parks the radio on the first window and schedules both. -/
def txFinished : Call EndDevice σ Unit := do
  if !(← Call.node).transmitting then return
  Call.modifyNode fun d => { d with transmitting := false }
  let _ ← tune r .first
  Call.radio .sleep
  setAlarm ((← Call.node).windowDelay r .first) .openRx1
  setAlarm ((← Call.node).windowDelay r .second) .openRx2

/-- What is reported when a confirmed uplink is through. -/
def outcome (u : HeldUplink) (ack : Bool) : List Event :=
  if !u.confirmed then []
  else if ack then [.acknowledged u.transmissions]
  else [.maxTransmissionsReached u.transmissions]

/--
Ends the exchange. The uplink is tried again if there are attempts left and it is not through:
nothing came back, or it is confirmed and what came back did not acknowledge it.
-/
def conclude (received ack : Bool) : Call EndDevice σ Unit := do
  let d ← Call.node
  let some u := d.held | return
  if (!received || (u.confirmed && !ack)) && 0 < u.attemptsLeft then
    setAlarm d.settings.retransmitTimeout .retransmit
  else
    Call.modifyNode fun d => { d with held := none, alarms := d.alarms.set .retransmit none }
    Call.record ((outcome u ack).map .event)

/-- Ends the exchange without a downlink, if no window is left. -/
def concludeIfOver : Call EndDevice σ Unit := do
  if !(← Call.node).rxWindowsPending then conclude false false

/-- Opens a window, unless a frame is being received. -/
def openWindow (w : Window) : Call EndDevice σ Unit := do
  if (← Call.radioState) = .rx then return
  let modulation ← tune r w
  Call.radio .standby
  let symbols := (← Call.node).settings.rxWindowSymbols.toNat
  let close := match w with
    | .first => Alarm.closeRx1
    | .second => Alarm.closeRx2
  setAlarm (modulation.symbolTime.scale symbols) close

/-- Closes a window, or defers that to the end of the reception in progress. -/
def closeWindow (w : Window) : Call EndDevice σ Unit := do
  if (← Call.radioState) = .rx then
    Call.modifyNode fun d => { d with deferredClose := some w }
  else
    Call.radio .sleep
    concludeIfOver

/-- A reception ended without a frame for this device: closes the window that waited for it. -/
def failedReception : Call EndDevice σ Unit := do
  if (← Call.node).deferredClose.isNone then return
  Call.modifyNode fun d => { d with deferredClose := none }
  Call.radio .sleep
  concludeIfOver

/-- A downlink for this device ends the exchange at once. -/
def endExchange (ack : Bool) : Call EndDevice σ Unit := do
  Call.modifyNode fun d => { d with alarms := d.alarms.cancelWindows, deferredClose := none }
  Call.radio .sleep
  conclude true ack

/-- A frame was received. -/
def receive (bytes : List UInt8) (reception : Reception) : Call EndDevice σ Unit := do
  let s ← get
  match s.node.downlink? bytes with
  | none => failedReception
  | some frame =>
    let status : Status :=
      { reception, battery := Host.battery s.host, externalPower := Host.externalPower s.host }
    let (d, actions) ← Call.ofPlan (s.node.takeDownlink r status frame)
    Call.modifyNode fun _ => d
    Call.record actions
    endExchange frame.header.control.ack

/-- Drops the uplink that is held. -/
def dropHeld : Call EndDevice σ Unit := Call.modifyNode fun d => { d with held := none }

/-- Gives up the uplink that is held: no channel will ever allow another attempt. -/
def giveUp (u : HeldUplink) : Call EndDevice σ Unit := do
  dropHeld
  Call.record [.event .dutyCycleBlocked, .event (.maxTransmissionsReached u.transmissions)]

/--
Sends the uplink that is held again, or waits until that is allowed. A transmission that fails drops
the uplink.
-/
def retransmit : Call EndDevice σ Unit := do
  let d ← Call.node
  let some u := d.held | return
  -- The alarm outlived its exchange: another uplink is under way.
  if d.rxWindowsPending then return
  let now ← Call.now
  let wait ← Call.ofPlan (d.earliestDelay now u.rate)
  if wait.isZero then
    match ← selectChannel now u.rate with
    | some index =>
      -- An attempt that fails is the last: the uplink is dropped.
      tryCatch (transmit r u index) fun e => do
        dropHeld
        throw e
    | none => giveUp u
  else if wait.isNever then
    giveUp u
  else
    setAlarm wait .retransmit

/-- An alarm went off. One that the device does not wait for means nothing. -/
def alarm (id : EventId) (alarm : Alarm) : Call EndDevice σ Unit := do
  if (← Call.node).alarms.get alarm ≠ some id then return
  Call.modifyNode fun d => { d with alarms := d.alarms.set alarm none }
  match alarm with
  | .openRx1 => openWindow r .first
  | .closeRx1 => closeWindow .first
  | .openRx2 => openWindow r .second
  | .closeRx2 => closeWindow .second
  | .retransmit => retransmit r

end

end EndDevice

end LoraLink
