import LoraLink.Device.Adaptation
import LoraLink.Proofs.Call
import LoraLink.Proofs.Plan

/-!
# What adaptation can change

Counting an uplink takes at most one step towards a more robust link. No step says anything of an
uplink, and none touches a clock.
-/

namespace LoraLink

namespace EndDevice

variable (r : Region)

theorem setDataRate_quiet (d : EndDevice) (rate : DataRate) :
    ∀ e ∈ (d.setDataRate r rate).2, (Action.event e).isSignal = false := by
  intro e he
  unfold setDataRate at he
  dsimp only at he
  split at he
  · cases he
  · cases List.mem_singleton.mp he
    rfl

theorem setPower_quiet (d : EndDevice) (power : Int) :
    ∀ e ∈ (d.setPower r power).2, (Action.event e).isSignal = false := by
  intro e he
  unfold setPower at he
  dsimp only at he
  split at he
  · cases he
  · cases List.mem_singleton.mp he
    rfl

/-- What counting a new uplink can make of a device. -/
inductive Counted (d : EndDevice) : EndDevice → Prop where
  | uncounted : Counted d d
  | counted (n : Nat) : Counted d { d with adrAckCount := n }
  | strengthened (n : Nat) :
      Counted d { d with
        adrAckCount := n
        settings := { d.settings with txPower := some r.defaultPower } }
  | slowed (n : Nat) {rate : DataRate} (h : (d.dataRate r).lower? = some rate) :
      Counted d { d with
        adrAckCount := n
        settings := { d.settings with txDataRate := some rate } }
  | fellBack (n : Nat) :
      Counted d { d with
        adrAckCount := n
        plan := enableDefaults d.plan r.defaultFrequencies.length
        settings := { d.settings with transmissions := 1 } }

theorem countUplink_cases (d : EndDevice) : Counted r d (d.countUplink r).1 := by
  unfold countUplink
  split
  · unfold backOff
    dsimp only
    split
    · exact .counted _
    split
    · exact .strengthened _
    split
    · split
      · rename_i rate hlower
        exact .slowed _ hlower
      · exact .fellBack _
    · exact .counted _
  · exact .uncounted

/-- Counting an uplink reports at most another data rate or another power. -/
theorem countUplink_quiet (d : EndDevice) :
    ∀ e ∈ (d.countUplink r).2, (Action.event e).isSignal = false := by
  intro e he
  unfold countUplink at he
  split at he
  · unfold backOff at he
    dsimp only at he
    split at he
    · cases he
    split at he
    · exact setPower_quiet r _ _ e he
    split at he
    · split at he
      · exact setDataRate_quiet r _ _ e he
      · cases he
    · cases he
  · cases he

/-- Enabling the default channels is enabling channel after channel, if it is there. -/
theorem enableDefaults_induction {P : Plan → Prop}
    (step : ∀ p q i c, P p → p.channel? i = some c →
      q = p.putSlot i (some { c with enabled := true }) → P q)
    {p : Plan} (hp : P p) (n : Nat) : P (enableDefaults p n) := by
  unfold enableDefaults
  -- By induction on the slots gone through, one edit of the plan for each.
  induction List.range n generalizing p with
  | nil => exact hp
  | cons i rest ih =>
    rw [List.foldl_cons]
    refine ih ?_
    unfold Plan.setEnabled
    cases hq : p.modifyChannel? i fun c => { c with enabled := true } with
    | none => exact hp
    | some q =>
      obtain ⟨c, hc, rfl⟩ := Plan.modifyChannel?_eq_some hq
      exact step p _ i c hp hc rfl

theorem sameClocks_enableDefaults (p : Plan) (n : Nat) :
    Plan.SameClocks p (enableDefaults p n) := by
  refine enableDefaults_induction ?_ (Plan.SameClocks.refl p) n
  rintro q _ i c hq _ rfl
  exact hq.trans (Plan.sameClocks_putSlot q i _)

theorem Counted.sameClocks {d d' : EndDevice} (h : Counted r d d') :
    Plan.SameClocks d.plan d'.plan := by
  cases h with
  | fellBack n => exact sameClocks_enableDefaults d.plan _
  | _ => exact Plan.SameClocks.refl d.plan

/-- Counting an uplink is no part of its exchange. -/
theorem Counted.held {d d' : EndDevice} (h : Counted r d d') : d'.held = d.held := by
  cases h <;> rfl

theorem Counted.alarms {d d' : EndDevice} (h : Counted r d d') : d'.alarms = d.alarms := by
  cases h <;> rfl

theorem Counted.queue {d d' : EndDevice} (h : Counted r d d') : d'.queue = d.queue := by
  cases h <;> rfl

theorem Counted.ackDue {d d' : EndDevice} (h : Counted r d d') : d'.ackDue = d.ackDue := by
  cases h <;> rfl

theorem Counted.lastUplink {d d' : EndDevice} (h : Counted r d d') :
    d'.lastUplink = d.lastUplink := by
  cases h <;> rfl

theorem Counted.identity {d d' : EndDevice} (h : Counted r d d') :
    d'.address = d.address ∧ d'.counter = d.counter := by
  cases h <;> exact ⟨rfl, rfl⟩

end EndDevice

end LoraLink
