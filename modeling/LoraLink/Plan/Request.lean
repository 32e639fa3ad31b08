import LoraLink.Plan.Basic

/-!
# Requests to a channel plan

The operations on a plan as values, so that a script can hold them. A request that needs a frequency
may name it directly, or by a channel of the plan, or by a channel that is not in the plan.
-/

namespace LoraLink

/-- How a request names a frequency. -/
inductive FrequencyChoice where
  | slot (index : Nat)
  | channel (c : Channel)
  | frequency (hertz : Nat)

/-- The frequency meant, unless it is that of a free slot. -/
def FrequencyChoice.resolve? (p : Plan) : FrequencyChoice → Option Nat
  | slot index => (p.channel? index).map (·.frequency)
  | channel c => some c.frequency
  | frequency hertz => some hertz

/-- A request to a plan. -/
inductive PlanRequest where
  | addSubBand (b : SubBand)
  | addChannel (c : Channel)
  | setChannel (index : Nat) (c : Channel)
  | removeChannel (index : Nat)
  | channel (index : Nat)
  | setReplyFrequency (index frequency : Nat)
  | setEnabled (index : Nat) (enabled : Bool)
  | enabledChannels
  | waitingTime (now : Instant) (choice : FrequencyChoice)
  | aggregatedWait (now : Instant) (dutyCycle : DutyCycle)
  | register (now : Instant) (airtime : Duration) (choice : FrequencyChoice)
  | maxPower (choice : FrequencyChoice)
  | isValidFrequency (frequency : Nat)
  | subBand (frequency : Nat)
  | channelMask (mask : ChannelMask) (control : Nat) (apply : Bool)
  | show

/-- What a plan answers; which request gets which is laid down in `Plan.answer`. -/
inductive PlanAnswer where
  | done
  | slot (r : Except PlanError Nat)
  /-- Whether a channel was enabled or disabled. -/
  | toggled (r : Except PlanError Unit)
  | channel (c : Option Channel)
  /-- Whether there was a channel to change. -/
  | found (b : Bool)
  | slots (indices : List Nat)
  | duration (d : Duration)
  | power (dbm : Int)
  | valid (b : Bool)
  | subBand (b : Option SubBand)
  /-- The channels selected, and for every data rate whether one of them supports it. -/
  | mask (r : Except PlanError (List Bool × List Bool))
  | plan (p : Plan)
  /-- The request names a free slot where it needs a channel. -/
  | noChannel

namespace Plan

/-- Answers a request whose answer depends on a frequency. -/
def withFrequency (p : Plan) (choice : FrequencyChoice)
    (f : Nat → Except PlanFault (PlanAnswer × Plan)) : Except PlanFault (PlanAnswer × Plan) :=
  match choice.resolve? p with
  | some frequency => f frequency
  | none => .ok (.noChannel, p)

/-- Answers a request, and gives the plan as it is afterwards. -/
def answer (p : Plan) : PlanRequest → Except PlanFault (PlanAnswer × Plan)
  | .addSubBand b => (p.addSubBand b).map (.done, ·)
  | .addChannel c => (p.addChannel c).map fun (r, p) => (.slot r, p)
  | .setChannel index c => (p.setChannel index c).map (.done, ·)
  | .removeChannel index => .ok (.channel (p.channel? index), p.removeChannel index)
  | .channel index => .ok (.channel (p.channel? index), p)
  | .setReplyFrequency index frequency =>
    match p.setReplyFrequency? index frequency with
    | some p => .ok (.found true, p)
    | none => .ok (.found false, p)
  | .setEnabled index enabled =>
    match p.setEnabled index enabled with
    | .ok p => .ok (.toggled (.ok ()), p)
    | .error e => .ok (.toggled (.error e), p)
  | .enabledChannels => .ok (.slots p.enabledChannels, p)
  | .waitingTime now choice =>
    p.withFrequency choice fun f => (p.waitingTime now f).map fun d => (.duration d, p)
  | .aggregatedWait now dutyCycle => .ok (.duration (p.aggregatedWait now dutyCycle), p)
  | .register now airtime choice =>
    p.withFrequency choice fun f => (p.register now airtime f).map (.done, ·)
  | .maxPower choice => p.withFrequency choice fun f => (p.maxPower f).map fun n => (.power n, p)
  | .isValidFrequency frequency => .ok (.valid (p.isValidFrequency frequency), p)
  | .subBand frequency => .ok (.subBand (p.subBand? frequency), p)
  | .channelMask mask control apply =>
    match p.resolveMask mask control with
    | .error e => .ok (.mask (.error e), p)
    | .ok statuses =>
      let supports := (List.finRange 16).map (p.maskSupports statuses)
      .ok (.mask (.ok (statuses, supports)), if apply then p.selectChannels statuses else p)
  | .show => .ok (.plan p, p)

end Plan

end LoraLink
