import LoraLink.Plan.Channel
import LoraLink.Command.Field

/-!
# Channel plans

A plan is all that decides whether a node may transmit: its 16 channel slots, its sub-bands, and
when it last transmitted for how long. A frequency belongs to the first sub-band that contains it.

A transmission has to wait for two clocks. One is that of its sub-band. The other is the aggregated
duty cycle, a share of time over all sub-bands together, which looks at the last transmission only.

Channels enter a plan only where some sub-band contains their frequency, so asking a plan about one
of its own channels finds a sub-band. Asking about any other frequency may not, and that is a
`Fault`: a mistake of the caller, not a condition to be handled.
-/

namespace LoraLink

/-- The slots for channels; a channel mask has a bit for each. -/
def channelSlots : Nat := 16

/-- The most sub-bands a plan can track. -/
def maxSubBands : Nat := 8

/-- A request that makes no sense for the plan it was made to. -/
inductive PlanFault where
  | outsideSubBands (frequency : Nat)
  | dutyCycleOutOfRange
  | tooManySubBands
  | noSuchSlot
deriving DecidableEq

/-- The text of a fault. That a slot does not exist goes without one. -/
def PlanFault.message : PlanFault → String
  | outsideSubBands frequency =>
    "frequency " ++ toString frequency ++ " Hz is not inside any sub-band"
  | dutyCycleOutOfRange => "sub-band duty cycle must be in (0, 1]"
  | tooManySubBands => "too many sub-bands"
  | noSuchSlot => ""

/-- Why a plan refuses a request. -/
inductive PlanError where
  | invalidChannelIndex
  | invalidMaskControl
deriving DecidableEq

/-- The channels, sub-bands and clocks of one node. -/
structure Plan where
  channels : Vector (Option Channel) channelSlots := Vector.replicate channelSlots none
  subBands : List SubBand := []
  lastStart : Instant := .zero
  lastAirtime : Duration := .zero
deriving DecidableEq

namespace Plan

/-- A plan without channels and sub-bands. -/
def empty : Plan := {}

/-! ## Sub-bands -/

/-- Adds a sub-band behind the others. -/
def addSubBand (p : Plan) (b : SubBand) : Except PlanFault Plan :=
  if !b.dutyCycle.isValid then .error .dutyCycleOutOfRange
  else if maxSubBands ≤ p.subBands.length then .error .tooManySubBands
  else .ok { p with subBands := p.subBands ++ [b] }

/-- The sub-band a frequency belongs to. -/
def subBand? (p : Plan) (frequency : Nat) : Option SubBand :=
  p.subBands.find? (·.contains frequency)

/-- The sub-band a frequency must belong to. -/
def subBand (p : Plan) (frequency : Nat) : Except PlanFault SubBand :=
  match p.subBand? frequency with
  | some b => .ok b
  | none => .error (.outsideSubBands frequency)

/-- Can a channel be put on this frequency? -/
def isValidFrequency (p : Plan) (frequency : Nat) : Bool := (p.subBand? frequency).isSome

/-! ## Channels -/

/-- The channel in a slot, if there is such a slot and it is taken. -/
def channel? (p : Plan) (index : Nat) : Option Channel := p.channels[index]?.join

/-- The taken slots in order, each with its index. -/
def definedChannels (p : Plan) : List (Nat × Channel) :=
  (List.range channelSlots).filterMap fun i => (p.channel? i).map (i, ·)

/-- The slots of the channels that may be picked for an uplink. -/
def enabledChannels (p : Plan) : List Nat :=
  (p.definedChannels.filter (·.2.enabled)).map (·.1)

/-- Writes a slot as it is; slots past the last are left out. -/
def putSlot (p : Plan) (index : Nat) (c : Option Channel) : Plan :=
  { p with channels := p.channels.setIfInBounds index c }

/-- Creates or replaces the channel in a slot. -/
def setChannel (p : Plan) (index : Nat) (c : Channel) : Except PlanFault Plan :=
  match p.subBand c.frequency with
  | .error e => .error e
  | .ok _ => if index < channelSlots then .ok (p.putSlot index (some c)) else .error .noSuchSlot

/-- The first slot that is not taken. -/
def freeSlot? (p : Plan) : Option Nat :=
  (List.range channelSlots).find? fun i => (p.channel? i).isNone

/-- Creates a channel in the first free slot, and says in which. -/
def addChannel (p : Plan) (c : Channel) : Except PlanFault (Except PlanError Nat × Plan) :=
  match p.freeSlot? with
  | none => .ok (.error .invalidChannelIndex, p)
  | some index => (p.setChannel index c).map fun p => (.ok index, p)

/-- Frees a slot. -/
def removeChannel (p : Plan) (index : Nat) : Plan := p.putSlot index none

/-- Changes the channel in a slot, if there is one. -/
def modifyChannel? (p : Plan) (index : Nat) (f : Channel → Channel) : Option Plan :=
  (p.channel? index).map fun c => p.putSlot index (some (f c))

/-- Moves the replies of a channel to another frequency. -/
def setReplyFrequency? (p : Plan) (index frequency : Nat) : Option Plan :=
  p.modifyChannel? index fun c => { c with replyFrequency := frequency }

/-- Lets a channel be picked for uplinks, or not. -/
def setEnabled (p : Plan) (index : Nat) (enabled : Bool) : Except PlanError Plan :=
  match p.modifyChannel? index fun c => { c with enabled } with
  | some p => .ok p
  | none => .error .invalidChannelIndex

/-! ## Clocks -/

/-- How long the sub-band of a frequency stays closed. -/
def waitingTime (p : Plan) (now : Instant) (frequency : Nat) : Except PlanFault Duration :=
  (p.subBand frequency).map (·.waitingTime now)

/-- How long the aggregated duty cycle forbids to transmit; never again if it is zero. -/
def aggregatedWait (p : Plan) (now : Instant) (dutyCycle : DutyCycle) : Duration :=
  if dutyCycle.share ≤ 0.0 then .never
  else (p.lastStart + p.lastAirtime.divideBy dutyCycle.share).since now

/-- The power limit at a frequency. -/
def maxPower (p : Plan) (frequency : Nat) : Except PlanFault Int :=
  (p.subBand frequency).map (·.maxPower)

/-- Applies a change to the first sub-band that contains a frequency. -/
def updateFirst (frequency : Nat) (f : SubBand → SubBand) : List SubBand → List SubBand
  | [] => []
  | b :: rest => if b.contains frequency then f b :: rest else b :: updateFirst frequency f rest

/-- Accounts for a transmission that starts now. -/
def register (p : Plan) (now : Instant) (airtime : Duration) (frequency : Nat) :
    Except PlanFault Plan :=
  (p.subBand frequency).map fun _ =>
    { p with
      lastStart := now
      lastAirtime := airtime
      subBands := updateFirst frequency (·.register now airtime) p.subBands }

/-! ## Channel masks -/

/-- Which slots are taken. -/
def definedStatuses (p : Plan) : List Bool :=
  (List.range channelSlots).map fun i => (p.channel? i).isSome

/--
What a mask asks for. Control 0 takes the mask by its bits, all of which must stand for defined
channels; control 6 takes all defined channels.
-/
def requestedStatuses (p : Plan) (mask : ChannelMask) (control : Nat) :
    Except PlanError (List Bool) :=
  if control = 0 then
    if (mask.statuses.zip p.definedStatuses).all fun (wanted, here) => !wanted || here then
      .ok mask.statuses
    else
      .error .invalidChannelIndex
  else if control = 6 then .ok p.definedStatuses
  else .error .invalidMaskControl

/-- Which channels a mask selects, without selecting them. A mask must select something. -/
def resolveMask (p : Plan) (mask : ChannelMask) (control : Nat) : Except PlanError (List Bool) :=
  match p.requestedStatuses mask control with
  | .error e => .error e
  | .ok statuses => if statuses.any id then .ok statuses else .error .invalidChannelIndex

/-- Enables exactly the channels whose status is set. -/
def selectChannels (p : Plan) (statuses : List Bool) : Plan :=
  { p with
    channels := p.channels.mapFinIdx fun i c _ =>
      c.map fun c => { c with enabled := statuses.getD i false } }

/-- Does any selected channel support a data rate? -/
def maskSupports (p : Plan) (statuses : List Bool) (rate : DataRate) : Bool :=
  p.definedChannels.any fun (i, c) => statuses.getD i false && c.supports rate

end Plan

end LoraLink
