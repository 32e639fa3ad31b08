import LoraLink.Proofs.Exchange
import LoraLink.Simulation.Generator
import LoraLink.Simulation.Node

/-!
# Runs of a device

A run is a sequence of calls, each of which finds its own host and its own random numbers: clocks
may jump, radios may refuse anything, alarms may be invented. So whatever holds of all runs holds
however a device is driven.
-/

namespace LoraLink

/-- What the caller of a device may do. -/
inductive Op where
  | send (payload : List UInt8) (port : UInt8) (confirmed : Bool)
  | txFinished
  | receive (bytes : List UInt8) (reception : Reception)
  | failedReception
  | alarm (id : EventId) (alarm : Alarm)
  | requestLinkCheck
  /-- Puts another plan in the place of the present one. -/
  | editPlan (plan : Plan)

/-- Does the caller put another plan in the place of the present one? -/
def Op.isEdit : Op → Bool
  | .editPlan _ => true
  | _ => false

/-- A call in a run, with the host and the random numbers it finds. -/
structure Turn (σ : Type) where
  op : Op
  host : σ
  random : Random

/-- A frame that the radio accepted, from when on, and for how long. -/
structure Transmission where
  start : Instant
  airtime : Duration
  config : TransmitConfig
  frame : List UInt8

variable {σ : Type} [Host σ]

/-- The transmission that an action starts. -/
def Action.transmission? (host : σ) : Action → Option Transmission
  | .radio (.send config frame) true =>
    some ⟨Host.now host, Host.airtime config frame.length host, config, frame⟩
  | _ => none

/-- A transmission is a signal. -/
theorem Action.transmission?_eq_none {host : σ} {a : Action} (h : a.isSignal = false) :
    a.transmission? host = none := by
  cases a with
  | radio q accepted =>
    cases q with
    | send config frame =>
      cases accepted with
      | true => cases h
      | false => rfl
    | _ => rfl
  | _ => rfl

variable (r : Region)

/-- What is called. -/
def Op.call : Op → Call EndDevice σ Unit
  | .send payload port confirmed => EndDevice.send r payload port confirmed
  | .txFinished => EndDevice.txFinished r
  | .receive bytes reception => EndDevice.receive r bytes reception
  | .failedReception => EndDevice.failedReception
  | .alarm id a => EndDevice.alarm r id a
  | .requestLinkCheck => EndDevice.requestLinkCheck
  | .editPlan plan => Call.modifyNode fun d => { d with plan }

/-- How a call can end, by what is called. -/
inductive EndDevice.Called (s : Session EndDevice σ) :
    Op → Except Failure Unit → Session EndDevice σ → Prop where
  | send {payload : List UInt8} {port : UInt8} {confirmed : Bool} {res : Except Failure Unit}
      {s' : Session EndDevice σ} (h : EndDevice.Sent r payload port confirmed s res s') :
      Called s (.send payload port confirmed) res s'
  | txFinished {res : Except Failure Unit} {s' : Session EndDevice σ}
      (h : EndDevice.Landed r s res s') : Called s .txFinished res s'
  | receive {bytes : List UInt8} {reception : Reception} {res : Except Failure Unit}
      {s' : Session EndDevice σ} (h : EndDevice.Received r bytes reception s res s') :
      Called s (.receive bytes reception) res s'
  | failedReception {res : Except Failure Unit} {s' : Session EndDevice σ}
      (h : EndDevice.Missed s res s') : Called s .failedReception res s'
  | alarm {id : EventId} {a : Alarm} {res : Except Failure Unit} {s' : Session EndDevice σ}
      (h : EndDevice.Rang r id s a res s') : Called s (.alarm id a) res s'
  | requestLinkCheck {res : Except Failure Unit} {s' : Session EndDevice σ}
      (h : EndDevice.Queued s res s') : Called s .requestLinkCheck res s'
  | editPlan {plan : Plan} : Called s (.editPlan plan) (.ok ()) (s.withNode { s.node with plan })

namespace Turn

/-- The session in which a device is called. -/
def session (t : Turn σ) (d : EndDevice) : Session EndDevice σ :=
  { node := d, host := t.host, random := t.random }

/-- The result of the call, and the session after it. -/
def made (t : Turn σ) (d : EndDevice) : Except Failure Unit × Session EndDevice σ :=
  (t.op.call r).run (t.session d)

def result (t : Turn σ) (d : EndDevice) : Except Failure Unit := (t.made r d).1

/-- The device after the call. -/
def after (t : Turn σ) (d : EndDevice) : EndDevice := (t.made r d).2.node

/-- What was done in the call. -/
def trace (t : Turn σ) (d : EndDevice) : List Action := (t.made r d).2.trace

/-- What was signalled in the call. -/
def signals (t : Turn σ) (d : EndDevice) : List Action := (t.made r d).2.signals

/-- The frames that the radio accepted in the call. -/
def transmissions (t : Turn σ) (d : EndDevice) : List Transmission :=
  (t.trace r d).filterMap (Action.transmission? t.host)

/-- What a call comes to, once it is known what is called. -/
theorem run_call {t : Turn σ} {op : Op} (hop : t.op = op) (d : EndDevice) :
    (op.call r).run (t.session d) = (t.result r d, (t.made r d).2) := by
  rw [← hop]
  rfl

/-- **There are no other ways for a call to end** than those of what is called. -/
theorem called (t : Turn σ) (d : EndDevice) :
    EndDevice.Called r (t.session d) t.op (t.result r d) (t.made r d).2 := by
  -- Each call is known by the cases of its own operation.
  cases hop : t.op with
  | send payload port confirmed => exact .send (EndDevice.send_cases r (run_call r hop d))
  | txFinished => exact .txFinished (EndDevice.txFinished_cases r (run_call r hop d))
  | receive bytes reception => exact .receive (EndDevice.receive_cases r (run_call r hop d))
  | failedReception => exact .failedReception (EndDevice.failedReception_cases (run_call r hop d))
  | alarm id a => exact .alarm (EndDevice.alarm_cases r (run_call r hop d))
  | requestLinkCheck =>
    exact .requestLinkCheck (EndDevice.requestLinkCheck_cases (run_call r hop d))
  | editPlan plan =>
    have hrun := run_call r hop d
    generalize t.result r d = res at hrun ⊢
    generalize (t.made r d).2 = s' at hrun ⊢
    cases hrun
    exact .editPlan

/-- What is read off the signals of a call is found in its trace, and nothing besides. -/
theorem filterMap_signals {β : Type} {f : Action → Option β}
    (hf : ∀ a, a.isSignal = false → f a = none) (t : Turn σ) (d : EndDevice) :
    (t.trace r d).filterMap f = (t.signals r d).filterMap f := by
  unfold trace signals Session.signals
  rw [List.filterMap_filter]
  congr 1
  funext a
  cases ha : a.isSignal with
  | true => rfl
  | false => exact hf a ha

theorem transmissions_eq (t : Turn σ) (d : EndDevice) :
    t.transmissions r d = (t.signals r d).filterMap (Action.transmission? t.host) :=
  filterMap_signals r (fun _ ha => Action.transmission?_eq_none ha) t d

end Turn

namespace EndDevice

/-- The device after a run. -/
def afterAll (d : EndDevice) : List (Turn σ) → EndDevice
  | [] => d
  | t :: rest => (t.after r d).afterAll rest

/-- The frames that the radio accepted in a run, first to last. -/
def transmissions (d : EndDevice) : List (Turn σ) → List Transmission
  | [] => []
  | t :: rest => t.transmissions r d ++ (t.after r d).transmissions rest

theorem afterAll_append (d : EndDevice) (ts us : List (Turn σ)) :
    d.afterAll r (ts ++ us) = (d.afterAll r ts).afterAll r us := by
  induction ts generalizing d with
  | nil => rfl
  | cons t rest ih => exact ih (t.after r d)

theorem transmissions_append (d : EndDevice) (ts us : List (Turn σ)) :
    d.transmissions r (ts ++ us) =
      d.transmissions r ts ++ (d.afterAll r ts).transmissions r us := by
  induction ts generalizing d with
  | nil => rfl
  | cons t rest ih =>
    rw [List.cons_append, transmissions, ih (t.after r d), ← List.append_assoc]
    rfl

end EndDevice

/-! ## A bench -/

/-- A call made some seconds after the start, where all that is asked of the host is granted. -/
def Turn.onBench (seconds : Nat) (op : Op) : Turn Simulation.View where
  op
  host :=
    { timeline := { capacity := 8, now := .ofSeconds seconds }
      index := 0
      radio := {}
      battery := none
      externalPower := false }
  random := .scripted [1, 2, 3, 4]

/--
A confirmed uplink that nobody answers, up to the moment from which on it waits to be repeated.
-/
def unansweredRun : List (Turn Simulation.View) :=
  [.onBench 0 (.send [1, 2, 3] 1 true), .onBench 1 .txFinished, .onBench 2 (.alarm ⟨0⟩ .openRx1),
    .onBench 3 (.alarm ⟨0⟩ .closeRx1), .onBench 4 (.alarm ⟨1⟩ .openRx2),
    .onBench 5 (.alarm ⟨0⟩ .closeRx2)]

/-- A downlink for the device on the bench, with bytes in its options. -/
def benchDownlink (counter : UInt8) (options : List UInt8) : Op :=
  .receive (0x60 :: [5, 0, 0, 0] ++ .ofNat options.length :: counter :: 0 :: options ++
    [0, 0, 0, 0]) ⟨-80, 5⟩

/-- The uplink is repeated, and then it is acknowledged. -/
def acknowledgedRun : List (Turn Simulation.View) :=
  [.onBench 200 (.alarm ⟨0⟩ .retransmit), .onBench 201 .txFinished,
    .onBench 202 (.receive [0x60, 5, 0, 0, 0, 0x20, 0, 0, 0, 0, 0, 0] ⟨-80, 5⟩)]

theorem unansweredRun_keeps : ∀ t ∈ unansweredRun, t.op.isEdit = false := by
  intro t ht
  simp only [unansweredRun, List.mem_cons, List.not_mem_nil, or_false] at ht
  rcases ht with rfl | rfl | rfl | rfl | rfl | rfl <;> rfl

end LoraLink
