import LoraLink.Simulation.Generator
import LoraLink.Simulation.World
import LoraLink.Plan.Request

/-!
# Scripts

A script is a list of operations on a world. Each gives a reply and, with what was logged since the
one before, makes a step of the report. A fault ends the run at once.
-/

namespace LoraLink

namespace Simulation

/-- What a script may change about a node; what is absent stays. -/
structure Change where
  radioState : Option RadioState := none
  refusing : Option (List RadioFunction) := none
  fixedAirtime : Option (Option Duration) := none
  battery : Option (Option Float32) := none
  externalPower : Option Bool := none
  /-- Restarts the source of random numbers; how often it was asked is still counted. -/
  random : Option Random := none

/-- The node after a change. -/
def Change.apply (c : Change) (n : Node) : Node :=
  { n with
    radio := { n.radio with
      state := c.radioState.getD n.radio.state
      refusing := c.refusing.getD n.radio.refusing
      fixedAirtime := c.fixedAirtime.getD n.radio.fixedAirtime }
    battery := c.battery.getD n.battery
    externalPower := c.externalPower.getD n.externalPower
    random := match c.random with
      | some random => random.restarted n.random.asked
      | none => n.random }

/-- An operation on a world. Nodes go by their index. -/
inductive Op where
  | send (node : Nat) (payload : List UInt8) (port : UInt8) (confirmed : Bool)
  /-- Sends unconfirmed uplinks that leave the antenna at once, without a word in the log. -/
  | spin (node : Nat) (times : Nat) (payload : List UInt8) (port : UInt8)
  | gatewaySend (node : Nat) (frame : List UInt8) (rate : DataRate) (frequency : Nat)
  | gatewayWait (node : Nat) (frequency : Nat)
  | receive (node : Nat) (frame : List UInt8) (reception : Reception)
  /-- A node hears the last frame of another. -/
  | relay (node source : Nat) (reception : Reception)
  | failedReception (node : Nat)
  | txFinished (node : Nat)
  | requestLinkCheck (node : Nat)
  /-- Sets an alarm of which the node knows nothing. -/
  | strayAlarm (node : Nat) (alarm : Alarm) (delay : Duration)
  | step
  | runUntil (goal : Instant)
  | runFor (d : Duration)
  | runUntilEvent (wanted : SimEvent → Bool)
  | change (node : Nat) (c : Change)
  | plan (node : Nat) (q : PlanRequest)
  | inspect (node : Nat)

/-- An operation, or a script that is gone through several times. -/
inductive Script where
  | op (o : Op)
  | repeated (times : Nat) (body : List Script)

mutual

/-- The operations a script stands for. -/
def Script.flatten : Script → List Op
  | .op o => [o]
  | .repeated times body => (List.replicate times (Script.flattenAll body)).flatten

/-- The operations that scripts stand for, one after the other. -/
def Script.flattenAll : List Script → List Op
  | [] => []
  | s :: rest => s.flatten ++ Script.flattenAll rest

end

/-- What an operation gives. -/
inductive Reply where
  | result (r : Result)
  /-- How many uplinks were accepted. -/
  | count (n : Nat)
  | wait (d : Duration)
  | scheduled (id : Option EventId)
  | fired (f : Option World.Fired)
  | ran (fired : List World.Fired)
  | ranUntil (fired : List World.Fired) (advanced : Bool)
  | plan (a : PlanAnswer)
  | node (n : Node)
  | done

namespace World

/-- The node at an index. -/
def node (w : World) (i : Nat) : Except Stop Node :=
  match w.nodes[i]? with
  | some n => .ok n
  | none => .error .misuse

/-- Sends and ends one uplink after the other. Counts those that were accepted. -/
def spin (i : Nat) (payload : List UInt8) (port : UInt8) :
    Nat → Nat → World → Except Stop (Nat × World)
  | 0, accepted, w => .ok (accepted, w)
  | times + 1, accepted, w => do
    let (r, sent) ← w.callDevice i (EndDevice.send · payload port false)
    let (_, ended) ← (sent.forgetStarted i).callDevice i (EndDevice.txFinished ·)
    let accepted := if r.toBool then accepted + 1 else accepted
    spin i payload port times accepted { ended with log := w.log }

/-- How long a gateway has to wait for a frequency. -/
def gatewayWait (w : World) (i : Nat) (frequency : Nat) : Except Stop Duration := do
  match (← w.node i).machine with
  | .gateway _ g => return g.waitingTime w.timeline.now frequency
  | .device _ _ => throw .misuse

/-- Answers a request to the plan of a node. -/
def answerPlan (w : World) (i : Nat) (q : PlanRequest) : Except Stop (PlanAnswer × World) := do
  let n ← w.node i
  match n.machine.plan.answer q with
  | .ok (a, plan) => return (a, w.setNode i { n with machine := n.machine.setPlan plan })
  | .error f => throw (.fault f)

/-- The reply of a node that was called. -/
def replyOf (called : Except Stop (Result × World)) : Except Stop (Reply × World) :=
  called.map fun (r, w) => (.result r, w)

/-- Carries out an operation. -/
def perform (w : World) : Op → Except Stop (Reply × World)
  | .send i payload port confirmed =>
    replyOf (w.callDevice i (EndDevice.send · payload port confirmed))
  | .spin i times payload port => (spin i payload port times 0 w).map fun (n, w) => (.count n, w)
  | .gatewaySend i frame rate frequency =>
    replyOf (w.callGateway i (Gateway.send · frame rate frequency))
  | .gatewayWait i frequency => (w.gatewayWait i frequency).map fun d => (.wait d, w)
  | .receive i frame reception => replyOf (w.receive i frame reception)
  | .relay i source reception => do
    let n ← w.node source
    replyOf (w.receive i n.radio.lastFrame reception)
  | .failedReception i => replyOf (w.failedReception i)
  | .txFinished i => replyOf (w.txFinished i)
  | .requestLinkCheck i => replyOf (w.callDevice i fun _ => EndDevice.requestLinkCheck)
  | .strayAlarm i alarm delay =>
    match w.timeline.schedule delay (.alarm i alarm) with
    | some (id, timeline) => .ok (.scheduled (some id), { w with timeline })
    | none => .ok (.scheduled none, w)
  | .step => w.fire.map fun (f, w) => (.fired f, w)
  | .runUntil goal => (w.runUntil goal).map fun (fired, ok, w) => (.ranUntil fired ok, w)
  | .runFor d => (w.runUntil (w.timeline.now + d)).map fun (fired, ok, w) => (.ranUntil fired ok, w)
  | .runUntilEvent wanted => (w.runUntilEvent wanted).map fun (fired, w) => (.ran fired, w)
  | .change i c => do
    let n ← w.node i
    return (.done, w.setNode i (c.apply n))
  | .plan i q => (w.answerPlan i q).map fun (a, w) => (.plan a, w)
  | .inspect i => (w.node i).map fun n => (.node n, w)

end World

/-- A step of a report: the reply to an operation, and the world after it. -/
structure Step where
  reply : Reply
  now : Instant
  queued : Nat
  /-- What was logged since the step before. -/
  log : List LogItem
  nodes : List Node

/-- What came of a script: its steps, and the nodes at the end or what ended the run before. -/
structure Report where
  steps : List Step
  ending : Except Stop (List Node)

/-- Carries out operations one after the other. The list holds the steps before, last first. -/
def runOps (before : List Step) (w : World) : List Op → Report
  | [] => { steps := before.reverse, ending := .ok w.nodes }
  | o :: rest =>
    match w.perform o with
    | .error e => { steps := before.reverse, ending := .error e }
    | .ok (reply, w) =>
      -- Behind the alarms that the operation itself has set.
      let w := w.scheduleAllTxDone
      let step : Step :=
        { reply, now := w.timeline.now, queued := w.timeline.size, log := w.log, nodes := w.nodes }
      runOps (step :: before) { w with log := [] } rest

/-- Goes through a script. -/
def run (w : World) (script : List Script) : Report := runOps [] w (Script.flattenAll script)

end Simulation

end LoraLink
