import LoraLink.Simulation.Node

/-!
# The world of a simulation

The nodes, the timeline they share, and a log of what they did. A node is called with its view of
the world, and what the call changed is put back. Whenever a node has started to transmit, the end
of the transmission is put on the timeline, behind the alarms the node has set in the same call.
-/

namespace LoraLink

namespace Simulation

/-- What is logged. -/
inductive LogEntry where
  /-- The radio accepted a frame, which will be on air for some time. -/
  | sent (config : TransmitConfig) (frame : List UInt8) (airtime : Duration)
  /-- The radio accepted another request. -/
  | radio (q : RadioRequest)
  | event (e : Event)
  | linkChecked (gatewayCount margin : UInt8)
  /-- The timeline was full, so nobody will learn that the transmission has ended. -/
  | txDoneLost

/-- What is logged, and of which node. -/
structure LogItem where
  node : Nat
  entry : LogEntry

/-- What ends a run before its script does. -/
inductive Stop where
  | fault (f : PlanFault)
  /-- A random number was asked for within bounds that make no sense. -/
  | draw (e : Random.Error)
  /-- There is no such node, or it is not of the kind the script takes it for. -/
  | misuse

/-- All nodes with what they share. -/
structure World where
  timeline : Timeline SimEvent
  nodes : List Node
  log : List LogItem := []

/-- A gateway or a device does what it was called for, or why it does not. -/
abbrev Result := Except Failure Unit

namespace World

/-- Puts a node in its place. -/
def setNode (w : World) (i : Nat) (n : Node) : World := { w with nodes := w.nodes.set i n }

/-- What the log says of an action. -/
def logged? (n : Node) : Action → Option LogEntry
  | .radio _ false => none
  | .radio (.send config frame) true =>
    some (.sent config frame (n.radio.airtime config frame.length))
  | .radio q true => some (.radio q)
  | .event e => if n.bare then none else some (.event e)
  | .linkChecked gateways margin => if n.bare then none else some (.linkChecked gateways margin)

/-- The session of a call to a node. -/
def session {ν : Type} (w : World) (i : Nat) (n : Node) (node : ν) : Session ν View where
  node
  host := { timeline := w.timeline
            index := i
            radio := n.radio
            battery := if n.bare then none else n.battery
            externalPower := !n.bare && n.externalPower }
  random := n.random

/-- Puts back what a call has changed. -/
def settle {ν : Type} (w : World) (i : Nat) (n : Node) (machine : ν → Machine) (s : Session ν View) :
    World :=
  let node := { n with machine := machine s.node, radio := s.host.radio, random := s.random }
  let entries := s.trace.filterMap (logged? n)
  { (w.setNode i node) with
    timeline := s.host.timeline
    log := w.log ++ entries.map (⟨i, ·⟩) }

/-- The result of a call, unless it ends the run. -/
def checked (r : Result) (w : World) : Except Stop (Result × World) :=
  match r with
  | .error (.fault f) => .error (.fault f)
  | .error (.random .exhausted) => .ok (r, w)
  | .error (.random e) => .error (.draw e)
  | r => .ok (r, w)

/-- Calls an end device. -/
def callDevice (w : World) (i : Nat) (f : Region → Call EndDevice View Unit) :
    Except Stop (Result × World) :=
  match w.nodes[i]? with
  | some n =>
    match n.machine with
    | .device region d =>
      let (r, s) := (f region).run (w.session i n d)
      checked r (w.settle i n (.device region) s)
    | .gateway _ _ => .error .misuse
  | none => .error .misuse

/-- Calls a gateway. -/
def callGateway (w : World) (i : Nat) (f : Region → Call Gateway View Unit) :
    Except Stop (Result × World) :=
  match w.nodes[i]? with
  | some n =>
    match n.machine with
    | .gateway region g =>
      let (r, s) := (f region).run (w.session i n g)
      checked r (w.settle i n (.gateway region) s)
    | .device _ _ => .error .misuse
  | none => .error .misuse

/-- Calls a node of either kind. -/
def call (w : World) (i : Nat) (f : Region → Call EndDevice View Unit)
    (g : Region → Call Gateway View Unit) : Except Stop (Result × World) :=
  match w.nodes[i]? with
  | some n =>
    match n.machine with
    | .device _ _ => w.callDevice i f
    | .gateway _ _ => w.callGateway i g
  | none => .error .misuse

/-- Forgets that a node has started to transmit. -/
def forgetStarted (w : World) (i : Nat) : World :=
  match w.nodes[i]? with
  | some n => w.setNode i { n with radio := { n.radio with started := none } }
  | none => w

/-- Puts the end of a node's transmission on the timeline, if it has just started one. -/
def scheduleTxDone (w : World) (i : Nat) : World :=
  match w.nodes[i]?.bind (·.radio.started) with
  | none => w
  | some airtime =>
    let w := w.forgetStarted i
    match w.timeline.schedule airtime (.txDone i) with
    | some (_, timeline) => { w with timeline }
    | none => { w with log := w.log ++ [⟨i, .txDoneLost⟩] }

/--
Puts the ends of all transmissions that have just started on the timeline, in the order of nodes.
-/
def scheduleAllTxDone (w : World) : World :=
  (List.range w.nodes.length).foldl scheduleTxDone w

/-! ## Calls to any node -/

/-- A node receives a frame. -/
def receive (w : World) (i : Nat) (frame : List UInt8) (reception : Reception) :
    Except Stop (Result × World) :=
  w.call i (EndDevice.receive · frame reception) fun _ => Gateway.receive frame reception

/-- A node has heard something that was no frame. -/
def failedReception (w : World) (i : Nat) : Except Stop (Result × World) :=
  w.call i (fun _ => EndDevice.failedReception) fun _ => Gateway.failedReception

/-- The frame of a node has left the antenna. -/
def txFinished (w : World) (i : Nat) : Except Stop (Result × World) :=
  w.call i (EndDevice.txFinished ·) fun _ => Gateway.txFinished

/-- An alarm of a node goes off. -/
def alarm (w : World) (i : Nat) (id : EventId) (a : Alarm) : Except Stop (Result × World) :=
  w.call i (EndDevice.alarm · id a) fun _ => Gateway.alarm id a

/-! ## Events -/

/-- An event that was taken off the timeline, and what came of it. -/
structure Fired where
  event : SimEvent
  id : EventId
  firedAt : Instant
  result : Result

/-- Fires the next event, if there is one. -/
def fire (w : World) : Except Stop (Option Fired × World) :=
  match w.timeline.pop with
  | none => .ok (none, w)
  | some (entry, timeline) => do
    let w := { w with timeline }
    let (result, w) ←
      match entry.event with
      | .alarm i a => w.alarm i entry.id a
      | .txDone i => w.txFinished i
    let fired := { event := entry.event, id := entry.id, firedAt := timeline.now, result }
    return (some fired, w.scheduleAllTxDone)

/--
Fires events while the next one passes a test on the world before it, and until one has passed a
test on what was fired. The number bounds how many, and the list holds those fired before, last
first.
-/
def fireWhile (proceed : World → Bool) (last : Fired → Bool) :
    Nat → List Fired → World → Except Stop (List Fired × World)
  | 0, before, w => .ok (before.reverse, w)
  | fuel + 1, before, w =>
    if !proceed w then .ok (before.reverse, w)
    else
      match w.fire with
      | .error e => .error e
      | .ok (none, w) => .ok (before.reverse, w)
      | .ok (some fired, w) =>
        if last fired then .ok ((fired :: before).reverse, w)
        else fireWhile proceed last fuel (fired :: before) w

/-- More events than any run fires. -/
def patience : Nat := 4294967296

/-- Fires all events up to an instant, and moves the clock there. Says whether it could be moved. -/
def runUntil (w : World) (goal : Instant) : Except Stop (List Fired × Bool × World) := do
  let due (w : World) : Bool := w.timeline.nextDue?.any (· ≤ goal)
  let (fired, w) ← fireWhile due (fun _ => false) patience [] w
  match w.timeline.advanceTo goal with
  | some timeline => return (fired, true, { w with timeline })
  | none => return (fired, false, w)

/-- Fires events up to the first of a kind. -/
def runUntilEvent (w : World) (wanted : SimEvent → Bool) : Except Stop (List Fired × World) :=
  fireWhile (fun _ => true) (fun f => wanted f.event) patience [] w

end World

end Simulation

end LoraLink
