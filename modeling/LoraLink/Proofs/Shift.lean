import LoraLink.Proofs.Backoff

/-!
# Reports of another data rate or power

A device reports every change of its data rate and of its power. Unless the network asks for one,
such a change comes with a new uplink only: of everything a call can end in, only what puts a new
uplink on air counts it, and no other end touches the settings or reports one of the two.

So in a call that brings no downlink, the changes that are reported are just those that are there:
the value before against the value after.
-/

namespace LoraLink

/-- The report of another data rate or another power that an action is. -/
def Action.shift? : Action → Option Event
  | .event (.dataRateChanged before after) => some (.dataRateChanged before after)
  | .event (.txPowerChanged before after) => some (.txPowerChanged before after)
  | _ => none

namespace Session

variable {ν σ : Type}

/-- The reports of another data rate or another power so far. -/
def shifts (s : Session ν σ) : List Event := s.trace.filterMap Action.shift?

theorem shifts_did (s : Session ν σ) (actions : List Action) :
    (s.did actions).shifts = s.shifts ++ actions.filterMap Action.shift? :=
  List.filterMap_append

theorem shifts_did_of {s : Session ν σ} {actions : List Action}
    (h : actions.filterMap Action.shift? = []) : (s.did actions).shifts = s.shifts := by
  rw [shifts_did, h, List.append_nil]

theorem shifts_asked [Host σ] (s : Session ν σ) (q : RadioRequest) :
    (s.asked q).shifts = s.shifts := by
  have hnone : [Action.radio q (s.accepts q)].filterMap Action.shift? = [] := rfl
  exact (s.shifts_did _).trans (by rw [hnone, List.append_nil])

end Session

/-- What was reported in a call of another data rate or another power. -/
def Turn.shifts {σ : Type} [Host σ] (r : Region) (t : Turn σ) (d : EndDevice) : List Event :=
  (t.trace r d).filterMap Action.shift?

namespace EndDevice

/-! ## Calls that report no change -/

variable {σ : Type}

theorem Selected.shifts {now : Instant} {rate : DataRate} {s s' : Session EndDevice σ}
    {res : Except Failure (Option Nat)} (h : Selected now rate s res s') :
    s'.shifts = s.shifts := by
  obtain ⟨g, rfl⟩ := h.session
  rfl

theorem shift?_onAirEvent (u : HeldUplink) (index len : Nat) :
    (Action.event (onAirEvent u index len)).shift? = none := by
  unfold onAirEvent
  split <;> rfl

/-- How an uplink ended is reported, and nothing else. -/
theorem shifts_outcome (u : HeldUplink) (ack : Bool) :
    ((outcome u ack).map Action.event).filterMap Action.shift? = [] := by
  unfold outcome
  cases u.confirmed <;> cases ack <;> rfl

theorem shifts_abandoned (previous : Option HeldUplink) :
    ((abandoned previous).map Action.event).filterMap Action.shift? = [] := by
  cases previous <;> rfl

theorem shifts_givenUp (u : HeldUplink) (s : Session EndDevice σ) :
    (givenUp u s).shifts = s.shifts :=
  Session.shifts_did_of (s := dropped s) rfl

section

variable [Host σ] {r : Region}

theorem Transmitted.shifts {u : HeldUplink} {i : Nat} {s s' : Session EndDevice σ}
    {res : Except Failure Unit} (h : Transmitted r u i s res s') : s'.shifts = s.shifts := by
  cases h with
  | refused _ => exact Session.shifts_asked s _
  | onAir _ _ _ _ _ _ =>
    refine (Session.shifts_did_of ?_).trans (Session.shifts_asked s _)
    rw [List.filterMap_cons_none (shift?_onAirEvent _ _ _), List.filterMap_nil]
  | _ => rfl

/-- Only an uplink that goes on air is counted. -/
theorem Sent.shifts {payload : List UInt8} {port : UInt8} {confirmed : Bool}
    {s s' : Session EndDevice σ} {e : Failure}
    (h : Sent r payload port confirmed s (.error e) s') : s'.shifts = s.shifts := by
  cases h with
  | pending _ => exact Session.shifts_did_of rfl
  | tooLong _ _ => exact Session.shifts_did_of rfl
  | tooSoon _ _ => exact Session.shifts_did_of rfl
  | unselected hselect => exact hselect.shifts
  | blocked hselect => exact (Session.shifts_did_of rfl).trans hselect.shifts
  | oversized _ _ hselect _ => exact hselect.shifts
  | failed _ hselect hsend => exact hsend.shifts.trans hselect.shifts
  | _ => rfl

theorem Retried.shifts {s s' : Session EndDevice σ} {res : Except Failure Unit}
    (h : Retried r s res s') : s'.shifts = s.shifts := by
  cases h with
  | unselected _ _ hselect => exact hselect.shifts
  | blocked _ _ hselect => exact (shifts_givenUp _ _).trans hselect.shifts
  | failed _ _ hselect hsend => exact hsend.shifts.trans hselect.shifts
  | repeated _ _ hselect hsend => exact hsend.shifts.trans hselect.shifts
  | never _ _ _ => exact shifts_givenUp _ s
  | _ => rfl

theorem Tuned.shifts {w : Window} {s s' : Session EndDevice σ} {res : Except Failure Modulation}
    (h : Tuned r w s res s') : s'.shifts = s.shifts := by
  cases h with
  | noFrequency _ _ => exact Session.shifts_asked s _
  | noSpreading _ _ _ _ => exact (Session.shifts_asked _ _).trans (Session.shifts_asked s _)
  | tuned _ _ _ _ _ _ => exact (Session.shifts_asked _ _).trans (Session.shifts_asked s _)
  | _ => rfl

theorem Landed.shifts {s s' : Session EndDevice σ} {res : Except Failure Unit}
    (h : Landed r s res s') : s'.shifts = s.shifts := by
  -- However far the call gets, all it does is to ask the radio and to set alarms.
  cases h with
  | idle _ => rfl
  | untuned _ htune => exact htune.shifts
  | awake _ htune _ => exact (Session.shifts_asked _ _).trans htune.shifts
  | full _ htune _ h₂ _ =>
    subst h₂
    exact (Session.shifts_asked _ _).trans htune.shifts
  | halfFull _ htune _ h₂ _ h₃ _ =>
    subst h₂ h₃
    exact (Session.shifts_asked _ _).trans htune.shifts
  | scheduled _ htune _ h₂ _ h₃ _ =>
    subst h₂ h₃
    exact (Session.shifts_asked _ _).trans htune.shifts

theorem Opened.shifts {w : Window} {s s' : Session EndDevice σ} {res : Except Failure Unit}
    (h : Opened r w s res s') : s'.shifts = s.shifts := by
  cases h with
  | skipped _ => rfl
  | untuned htune => exact htune.shifts
  | asleep htune _ => exact (Session.shifts_asked _ _).trans htune.shifts
  | full htune _ h₂ _ =>
    subst h₂
    exact (Session.shifts_asked _ _).trans htune.shifts
  | opened _ htune _ h₂ _ =>
    subst h₂
    exact (Session.shifts_asked _ _).trans htune.shifts

theorem Concluded.shifts {received ack : Bool} {s s' : Session EndDevice σ}
    {res : Except Failure Unit} (h : Concluded received ack s res s') : s'.shifts = s.shifts := by
  cases h with
  | released _ _ => exact Session.shifts_did_of (shifts_outcome _ _)
  | _ => rfl

theorem Parked.shifts {s s' : Session EndDevice σ} {res : Except Failure Unit}
    (h : Parked s res s') : s'.shifts = s.shifts := by
  cases h with
  | closed _ _ h => exact h.shifts.trans (Session.shifts_asked s _)
  | _ => exact Session.shifts_asked s _

theorem Closed.shifts {w : Window} {s s' : Session EndDevice σ} {res : Except Failure Unit}
    (h : Closed w s res s') : s'.shifts = s.shifts := by
  cases h with
  | deferred _ => rfl
  | parked _ h => exact h.shifts

theorem Missed.shifts {s s' : Session EndDevice σ} {res : Except Failure Unit}
    (h : Missed s res s') : s'.shifts = s.shifts := by
  cases h with
  | nothing _ => rfl
  | parked _ h => exact h.shifts

theorem Rang.shifts {id : EventId} {a : Alarm} {s s' : Session EndDevice σ}
    {res : Except Failure Unit} (h : Rang r id s a res s') : s'.shifts = s.shifts := by
  cases h with
  | stale _ => rfl
  | openRx1 _ h => exact h.shifts
  | closeRx1 _ h => exact h.shifts
  | openRx2 _ h => exact h.shifts
  | closeRx2 _ h => exact h.shifts
  | retransmit _ h => exact h.shifts

theorem shifts_unmoved {t : Turn σ} {d : EndDevice} (hnot : t.launches r d = false)
    (hdeaf : t.downlink? d = none) : t.shifts r d = [] := by
  have hcalled := t.called r d
  have hshifts : t.shifts r d = (t.made r d).2.shifts := rfl
  -- A send that succeeds would be a launch.
  have hok : t.op.isSend = true → t.result r d ≠ .ok () := by
    intro hop hok
    rw [Turn.launches, hop, hok] at hnot
    cases hnot
  rw [hshifts]
  unfold Turn.downlink? at hdeaf
  generalize t.result r d = res at hcalled hok
  generalize (t.made r d).2 = s' at hcalled ⊢
  generalize t.op = op at hcalled hok hdeaf
  cases hcalled with
  | send h =>
    cases res with
    | ok _ => exact absurd rfl (hok rfl)
    | error e => exact h.shifts
  | txFinished h => exact h.shifts
  | receive h =>
    cases h with
    | foreign _ hmissed => exact hmissed.shifts
    | heard hframe _ => cases hframe.symm.trans hdeaf
  | failedReception h => exact h.shifts
  | alarm h => exact h.shifts
  | requestLinkCheck h => cases h <;> rfl
  | editPlan => rfl

end

/-! ## Counting an uplink -/

variable (r : Region)

/-- What there is to report when one device has become another: another data rate, and another
power. -/
def changes (d d' : EndDevice) : List Event :=
  (if d.dataRate r = d'.dataRate r then []
    else [.dataRateChanged (d.dataRate r) (d'.dataRate r)]) ++
  (if d.power r = d'.power r then [] else [.txPowerChanged (d.power r) (d'.power r)])

theorem changes_of_same {d d' : EndDevice} (hrate : d.dataRate r = d'.dataRate r)
    (hpower : d.power r = d'.power r) : changes r d d' = [] := by
  unfold changes
  rw [if_pos hrate, if_pos hpower]
  rfl

theorem setDataRate_changes (d : EndDevice) (rate : DataRate) :
    (d.setDataRate r rate).2 = changes r d (d.setDataRate r rate).1 := by
  have hrate : (d.setDataRate r rate).1.dataRate r = rate := rfl
  have hpower : d.power r = (d.setDataRate r rate).1.power r := rfl
  unfold changes
  rw [if_pos hpower, hrate, List.append_nil]
  rfl

theorem setPower_changes (d : EndDevice) (power : Int) :
    (d.setPower r power).2 = changes r d (d.setPower r power).1 := by
  have hrate : d.dataRate r = (d.setPower r power).1.dataRate r := rfl
  have hpower : (d.setPower r power).1.power r = power := rfl
  unfold changes
  rw [if_pos hrate, hpower, List.nil_append]
  rfl

theorem backOff_changes (d : EndDevice) : (d.backOff r).2 = changes r d (d.backOff r).1 := by
  unfold backOff
  dsimp only
  split
  · exact (changes_of_same r rfl rfl).symm
  split
  · exact setPower_changes r d _
  split
  · split
    · exact setDataRate_changes r d _
    · exact (changes_of_same r rfl rfl).symm
  · exact (changes_of_same r rfl rfl).symm

theorem countUplink_changes (d : EndDevice) :
    (d.countUplink r).2 = changes r d (d.countUplink r).1 := by
  unfold countUplink
  split
  · exact backOff_changes r _
  · exact (changes_of_same r rfl rfl).symm

/-- It does not matter what else there is to the first device. -/
theorem changes_of_settings {d x : EndDevice} (h : x.settings = d.settings) (d' : EndDevice) :
    changes r x d' = changes r d d' := by
  unfold changes EndDevice.dataRate EndDevice.power
  rw [h]

theorem shifts_changes (d d' : EndDevice) :
    ((changes r d d').map Action.event).filterMap Action.shift? = changes r d d' := by
  unfold changes
  split <;> split <;> rfl

/-- With an uplink on air, the step is reported that is then due. -/
theorem shifts_launched (previous : Option HeldUplink) (s : Session EndDevice σ) :
    (launched r previous s).shifts =
      s.shifts ++ changes r s.node (launched r previous s).node := by
  have hsettings : (s.node.supersede previous).settings = s.node.settings := rfl
  have hcounted := countUplink_changes r (s.node.supersede previous)
  rw [changes_of_settings r hsettings] at hcounted
  unfold launched
  rw [Session.shifts_did, hcounted, shifts_changes]
  change (s.did ((abandoned previous).map .event)).shifts ++ _ = _
  rw [Session.shifts_did_of (shifts_abandoned previous)]
  rfl

variable {r} [Host σ]

theorem Transmitted.settings {u : HeldUplink} {i : Nat} {s s' : Session EndDevice σ}
    {res : Except Failure Unit} (h : Transmitted r u i s res s') :
    s'.node.settings = s.node.settings := by
  cases h <;> rfl

theorem shifts_of_launches {t : Turn σ} {d : EndDevice} (h : t.launches r d = true) :
    t.shifts r d = changes r d (t.after r d) := by
  obtain ⟨hsend, hok⟩ := t.result_of_launches r h
  have hcalled := t.called r d
  change (t.made r d).2.shifts = changes r d (t.made r d).2.node
  rw [hok] at hcalled
  generalize (t.made r d).2 = s' at hcalled ⊢
  generalize t.op = op at hcalled hsend
  cases hcalled with
  | send h =>
    cases h with
    | sent _ hselect hair =>
      rename_i s₁ s₂ _
      have hnode : s₁.node = d := hselect.node
      have hsettings : s₂.node.settings = d.settings := hair.settings.trans (by rw [hnode])
      -- Selecting a channel and putting the frame on air report no change.
      have hsilent : s₂.shifts = [] := hair.shifts.trans hselect.shifts
      rw [shifts_launched, hsilent, changes_of_settings r hsettings]
      rfl
  | _ => cases hsend

/--
**In a call that brings no downlink, the changes of data rate and power that are reported are just
those that are there.**

Whatever is called, by a host that may behave in any way, and however the call ends: if the call
brings no downlink, the reports of another data rate and of another power in it are one for each of
the two that is not the same after the call, with the value before and the value after.
-/
theorem shifts_of_deaf {t : Turn σ} {d : EndDevice} (hdeaf : t.downlink? d = none) :
    t.shifts r d = changes r d (t.after r d) := by
  by_cases h : t.launches r d = true
  · exact shifts_of_launches h
  · have hnot : t.launches r d = false := Bool.eq_false_iff.mpr h
    have hunmoved := unmoved hnot hdeaf
    rw [shifts_unmoved hnot hdeaf, changes_of_same r hunmoved.dataRate.symm]
    exact (power_of_settings hunmoved.settings).symm

end EndDevice

end LoraLink
