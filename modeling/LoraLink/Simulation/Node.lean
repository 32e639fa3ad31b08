import LoraLink.Device.Exchange
import LoraLink.Gateway

/-!
# Nodes of a simulation

A simulated node is an end device or a gateway with a model of its radio. The model keeps the state
that is seen from outside, refuses the requests it was told to refuse, and remembers the last frame
it sent. All nodes share one timeline, on which their alarms and the ends of their transmissions
lie.
-/

namespace LoraLink

namespace Simulation

/-- The requests a radio has, without what they carry. -/
inductive RadioFunction where
  | send | standby | sleep | setFrequency | setSpreadingFactor
deriving DecidableEq

/-- What a request asks for. -/
def RadioFunction.ofRequest : RadioRequest → RadioFunction
  | .send _ _ => send
  | .standby => standby
  | .sleep => sleep
  | .setFrequency _ => setFrequency
  | .setSpreadingFactor _ => setSpreadingFactor

/-- A model of a radio. -/
structure RadioModel where
  state : RadioState := .sleep
  /-- What it refuses. -/
  refusing : List RadioFunction := []
  /-- The airtime of every frame, if it is not computed. -/
  fixedAirtime : Option Duration := none
  lastFrame : List UInt8 := []
  /-- The airtime of a transmission that has just started, until its end is put on the timeline. -/
  started : Option Duration := none

namespace RadioModel

/-- How long a frame is on air, as the model has it. -/
def airtime (m : RadioModel) (config : TransmitConfig) (len : Nat) : Duration :=
  m.fixedAirtime.getD (config.airtime len)

/-- What an accepted request does to the radio. -/
def accept (m : RadioModel) : RadioRequest → RadioModel
  | .send config frame =>
    { m with state := .tx, lastFrame := frame, started := some (m.airtime config frame.length) }
  | .standby => { m with state := .standby }
  | .sleep => { m with state := .sleep }
  | .setFrequency _ => m
  | .setSpreadingFactor _ => m

/-- Accepts a request, or refuses it and stays as it is. -/
def request (m : RadioModel) (q : RadioRequest) : Bool × RadioModel :=
  if RadioFunction.ofRequest q ∈ m.refusing then (false, m) else (true, m.accept q)

end RadioModel

/-- What lies on the timeline of a simulation. -/
inductive SimEvent where
  | alarm (node : Nat) (alarm : Alarm)
  /-- A frame leaves the antenna of a node. -/
  | txDone (node : Nat)

/-- A simulation as one node sees it while it is called. -/
structure View where
  timeline : Timeline SimEvent
  index : Nat
  radio : RadioModel
  battery : Option Float32
  externalPower : Bool

instance : Host View where
  now v := v.timeline.now
  schedule delay alarm v :=
    match v.timeline.schedule delay (.alarm v.index alarm) with
    | some (id, timeline) => (some id, { v with timeline })
    | none => (none, v)
  request q v :=
    let (accepted, radio) := v.radio.request q
    (accepted, { v with radio })
  radioState v := v.radio.state
  airtime config len v := v.radio.airtime config len
  battery v := v.battery
  externalPower v := v.externalPower

/-- What a node is. -/
inductive Machine where
  | device (region : Region) (d : EndDevice)
  | gateway (region : Region) (g : Gateway)

/-- A node with all that belongs to it alone. -/
structure Node where
  machine : Machine
  radio : RadioModel := {}
  random : Random
  battery : Option Float32 := none
  externalPower : Bool := false
  /-- A bare host offers a radio and random numbers, knows no battery, and hears no reports. -/
  bare : Bool := false

namespace Machine

def plan : Machine → Plan
  | device _ d => d.plan
  | gateway _ g => g.plan

def setPlan (plan : Plan) : Machine → Machine
  | device r d => device r { d with plan }
  | gateway r g => gateway r { g with plan }

end Machine

end Simulation

end LoraLink
