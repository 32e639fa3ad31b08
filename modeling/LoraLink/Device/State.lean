import LoraLink.Host
import LoraLink.Settings

/-!
# The state of an end device

An uplink is followed by two receive windows. An exchange lasts from the start of an uplink until
the second window has closed or a downlink for the device has come, and no new uplink starts
before. A window in which a frame is just being received when it should close is closed later, once
it is known what became of the frame.

An uplink that may have to be sent again is held. So are the identifiers of the alarms that the
device still waits for: an alarm whose identifier is not held any more has been cancelled.
-/

namespace LoraLink

/-- The two receive windows of an exchange. -/
inductive Window where
  | first | second
deriving DecidableEq

/-- The alarms a device waits for. -/
structure AlarmSlots where
  openRx1 : Option EventId := none
  closeRx1 : Option EventId := none
  openRx2 : Option EventId := none
  closeRx2 : Option EventId := none
  retransmit : Option EventId := none
deriving DecidableEq

namespace AlarmSlots

/-- The identifier of an alarm, if the device waits for it. -/
def get (s : AlarmSlots) : Alarm → Option EventId
  | .openRx1 => s.openRx1
  | .closeRx1 => s.closeRx1
  | .openRx2 => s.openRx2
  | .closeRx2 => s.closeRx2
  | .retransmit => s.retransmit

/-- Holds another identifier for an alarm, or none. -/
def set (s : AlarmSlots) (alarm : Alarm) (id : Option EventId) : AlarmSlots :=
  match alarm with
  | .openRx1 => { s with openRx1 := id }
  | .closeRx1 => { s with closeRx1 := id }
  | .openRx2 => { s with openRx2 := id }
  | .closeRx2 => { s with closeRx2 := id }
  | .retransmit => { s with retransmit := id }

/-- Is a window scheduled or open? -/
def windowsPending (s : AlarmSlots) : Bool :=
  s.openRx1.isSome || s.closeRx1.isSome || s.openRx2.isSome || s.closeRx2.isSome

/-- Forgets all alarms but that for sending again. -/
def cancelWindows (s : AlarmSlots) : AlarmSlots := { retransmit := s.retransmit }

end AlarmSlots

/-- An uplink that may have to be sent again. -/
structure HeldUplink where
  payload : List UInt8
  port : UInt8
  counter : UInt16
  confirmed : Bool
  rate : DataRate
  attemptsLeft : Nat
  /-- How often it was on air. -/
  transmissions : Nat
deriving DecidableEq

/-- An end device: what it was told, what it has heard, and where it stands in its exchange. -/
structure EndDevice where
  address : DeviceAddress
  plan : Plan
  settings : Settings
  /-- The frame counter of the next new uplink. -/
  counter : UInt16 := 0
  /-- Answers and requests for the next uplinks. -/
  queue : List Command := []
  /-- Is a confirmed downlink to be acknowledged? -/
  ackDue : Bool := false
  /-- New uplinks since the last downlink, while the network controls the data rate. -/
  adrAckCount : Nat := 0
  held : Option HeldUplink := none
  /-- The channel of the last uplink, as it was then, and its data rate. -/
  lastUplink : Option (Channel × DataRate) := none
  alarms : AlarmSlots := {}
  /-- The window that closes when the reception in progress ends. -/
  deferredClose : Option Window := none
  /-- Is an uplink on air? -/
  transmitting : Bool := false
deriving DecidableEq

namespace EndDevice

/-- The most commands that can be queued. -/
def queueCapacity : Nat := 15

/-- The most a counter of uplinks without an answer can hold. -/
def maxAdrAckCount : Nat := 65535

/-- A device before its first uplink. -/
def initial (address : DeviceAddress) (settings : Settings) (plan : Plan) : EndDevice :=
  { address, plan, settings }

/-- Is an exchange still open? -/
def rxWindowsPending (d : EndDevice) : Bool :=
  d.transmitting || d.alarms.windowsPending || d.deferredClose.isSome

/-- Is an uplink held? -/
def retransmissionPending (d : EndDevice) : Bool := d.held.isSome

/-- Queues a command, unless the queue is full. -/
def enqueue? (d : EndDevice) (c : Command) : Option EndDevice :=
  if d.queue.length < queueCapacity then some { d with queue := d.queue ++ [c] } else none

/-! ## Settings in force -/

variable (r : Region) (d : EndDevice)

/-- The data rate of the next new uplink. -/
def dataRate : DataRate := d.settings.txDataRate.getD r.defaultRate

/-- In dBm, before the limit of the sub-band. -/
def power : Int := d.settings.txPower.getD r.defaultPower

/-- How much slower than the uplink the first window is. -/
def rx1Offset : Nat := (d.settings.rx1DataRateOffset.map UInt8.toNat).getD r.defaultRx1Offset

/-- The data rate of the second window. -/
def rx2Rate : DataRate := d.settings.rx2DataRate.getD r.defaultRx2Rate

/-- The frequency of the second window, in Hz. -/
def rx2Frequency : Nat := d.settings.rx2Frequency.getD r.defaultRx2Frequency

/-- From the end of an uplink to the first window. -/
def rx1Delay : Duration :=
  match d.settings.rxDelay with
  | some seconds => .ofSeconds seconds.toNat
  | none => r.defaultRxDelay

/-- From the end of an uplink to a window; the second opens a second after the first. -/
def windowDelay : Window → Duration
  | .first => d.rx1Delay r
  | .second => d.rx1Delay r + .ofSeconds 1

end EndDevice

end LoraLink
