import LoraLink.Proofs.Closing
import LoraLink.Proofs.History

/-!
# Alarms that are waited for

A device has a timeline to itself. A call only adds to that timeline, so an alarm stays there until
it is due. And as long as no downlink comes, the device goes on waiting for the alarms of its
windows, whatever it is called for: only an alarm that goes off itself is not waited for any more.
-/

namespace LoraLink

/-! ## What a call does to the timeline -/

namespace Timeline

variable {ε : Type}

/-- The second timeline is the first one with more to come. -/
structure Extended (t t' : Timeline ε) : Prop where
  kept : t.Kept → t'.Kept
  now : t'.now = t.now
  mem : ∀ e ∈ t.pending, e ∈ t'.pending

theorem Extended.refl (t : Timeline ε) : Extended t t := ⟨id, rfl, fun _ he => he⟩

theorem Extended.of_eq {t t' : Timeline ε} (h : t' = t) : Extended t t' := by
  rw [h]
  exact .refl t

theorem Extended.trans {t t' t'' : Timeline ε} (h : Extended t t') (h' : Extended t' t'') :
    Extended t t'' :=
  ⟨fun hkept => h'.kept (h.kept hkept), h'.now.trans h.now, fun e he => h'.mem e (h.mem e he)⟩

theorem extended_schedule {t t' : Timeline ε} {delay : Duration} {event : ε} {id : EventId}
    (h : t.schedule delay event = some (id, t')) : Extended t t' := by
  refine ⟨fun hkept => ?_, ?_, (mem_schedule h).1⟩
  · have hacted := acted t (.schedule delay event)
    rw [act, h] at hacted
    exact kept_step hkept hacted
  · rw [(schedule_eq_some h).2]

/-- The clock may stay where it is. -/
theorem advanceTo_now {t : Timeline ε} (h : t.Kept) : t.advanceTo t.now = some t := by
  unfold advanceTo
  rw [if_neg]
  intro hrefused
  -- To the present the clock can always be set: nothing pending is overdue.
  rcases Bool.or_eq_true_iff.mp hrefused with hback | hpast
  · exact Nat.lt_irrefl _ (of_decide_eq_true hback)
  · unfold nextDue? at hpast
    cases hpending : t.pending with
    | nil =>
      rw [hpending] at hpast
      cases hpast
    | cons e rest =>
      rw [hpending] at hpast
      have hahead := h.ahead e (by rw [hpending]; exact List.mem_cons_self)
      exact Nat.not_lt.mpr hahead (of_decide_eq_true hpast)

end Timeline

namespace EndDevice

section

variable {σ : Type} [Host σ] [OwnTimeline σ]

/-- Nothing is scheduled for an uplink. -/
theorem Selected.timeline {now : Instant} {rate : DataRate} {s s' : Session EndDevice σ}
    {res : Except Failure (Option Nat)} (h : Selected now rate s res s') :
    s'.timeline = s.timeline := by
  obtain ⟨g, rfl⟩ := h.session
  rfl

variable {r : Region}

theorem Transmitted.timeline {u : HeldUplink} {i : Nat} {s s' : Session EndDevice σ}
    {res : Except Failure Unit} (h : Transmitted r u i s res s') : s'.timeline = s.timeline := by
  cases h with
  | refused _ => exact Session.timeline_asked _ _
  | onAir _ _ _ _ _ _ => exact Session.timeline_asked s _
  | _ => rfl

theorem Sent.timeline {payload : List UInt8} {port : UInt8} {confirmed : Bool}
    {s s' : Session EndDevice σ} {res : Except Failure Unit}
    (h : Sent r payload port confirmed s res s') : s'.timeline = s.timeline := by
  cases h with
  | unselected hselect => exact hselect.timeline
  | blocked hselect => exact hselect.timeline
  | oversized _ _ hselect _ => exact hselect.timeline
  | failed _ hselect hsend => exact hsend.timeline.trans hselect.timeline
  | sent _ hselect hsend => exact hsend.timeline.trans hselect.timeline
  | _ => rfl

theorem Tuned.timeline {w : Window} {s s' : Session EndDevice σ} {res : Except Failure Modulation}
    (h : Tuned r w s res s') : s'.timeline = s.timeline := by
  cases h with
  | noRate _ => rfl
  | unmodulated _ _ => rfl
  | noFrequency _ _ => exact Session.timeline_asked s _
  | noSpreading _ _ _ _ => exact (Session.timeline_asked _ _).trans (Session.timeline_asked s _)
  | tuned _ _ _ _ _ _ => exact (Session.timeline_asked _ _).trans (Session.timeline_asked s _)

theorem Tuned.timeline_asked {w : Window} {s s' : Session EndDevice σ}
    {res : Except Failure Modulation} (h : Tuned r w s res s') (q : RadioRequest) :
    (s'.asked q).timeline = s.timeline :=
  (Session.timeline_asked s' q).trans h.timeline

/-- To set an alarm adds it to the timeline. -/
theorem extended_armed {s : Session EndDevice σ} {delay : Duration} {a : Alarm} {id : EventId}
    (h : s.alarmId? delay a = some id) :
    s.timeline.Extended (armed delay a id s).timeline :=
  Timeline.extended_schedule (Session.schedule_timeline h)

theorem Landed.extended {s s' : Session EndDevice σ} {res : Except Failure Unit}
    (h : Landed r s res s') (hroom : res ≠ .error .timelineFull) :
    s.timeline.Extended s'.timeline := by
  cases h with
  | idle _ => exact .refl _
  | untuned _ htune => exact .of_eq htune.timeline
  | awake _ htune _ => exact .of_eq (htune.timeline_asked .sleep)
  | full _ _ _ _ _ => exact absurd rfl hroom
  | halfFull _ _ _ _ _ _ _ => exact absurd rfl hroom
  | scheduled _ htune _ h₂ hi h₃ hj =>
    subst h₂ h₃
    have hasleep := Timeline.Extended.of_eq (htune.timeline_asked .sleep)
    exact (hasleep.trans (extended_armed hi)).trans (extended_armed hj)

theorem Opened.extended {w : Window} {s s' : Session EndDevice σ} {res : Except Failure Unit}
    (h : Opened r w s res s') (hroom : res ≠ .error .timelineFull) :
    s.timeline.Extended s'.timeline := by
  cases h with
  | skipped _ => exact .refl _
  | untuned htune => exact .of_eq htune.timeline
  | asleep htune _ => exact .of_eq (htune.timeline_asked .standby)
  | full _ _ _ _ => exact absurd rfl hroom
  | opened _ htune _ h₂ hid =>
    subst h₂
    have hstandby := Timeline.Extended.of_eq (htune.timeline_asked .standby)
    exact hstandby.trans (extended_armed hid)

theorem Concluded.extended {received ack : Bool} {s s' : Session EndDevice σ}
    {res : Except Failure Unit} (h : Concluded received ack s res s')
    (hroom : res ≠ .error .timelineFull) : s.timeline.Extended s'.timeline := by
  cases h with
  | nothing _ => exact .refl _
  | again _ _ hid => exact extended_armed hid
  | full _ _ _ => exact absurd rfl hroom
  | released _ _ => exact .refl _

theorem Parked.extended {s s' : Session EndDevice σ} {res : Except Failure Unit}
    (h : Parked s res s') (hroom : res ≠ .error .timelineFull) :
    s.timeline.Extended s'.timeline := by
  have hasleep := Timeline.Extended.of_eq (Session.timeline_asked s .sleep)
  cases h with
  | awake _ => exact hasleep
  | waiting _ _ => exact hasleep
  | closed _ _ h => exact hasleep.trans (h.extended hroom)

theorem Closed.extended {w : Window} {s s' : Session EndDevice σ} {res : Except Failure Unit}
    (h : Closed w s res s') (hroom : res ≠ .error .timelineFull) :
    s.timeline.Extended s'.timeline := by
  cases h with
  | deferred _ => exact .refl _
  | parked _ h => exact h.extended hroom

theorem Missed.extended {s s' : Session EndDevice σ} {res : Except Failure Unit}
    (h : Missed s res s') (hroom : res ≠ .error .timelineFull) :
    s.timeline.Extended s'.timeline := by
  cases h with
  | nothing _ => exact .refl _
  | parked _ h =>
    have hparked := h.extended hroom
    exact hparked

theorem Answered.extended {ack : Bool} {s s' : Session EndDevice σ} {res : Except Failure Unit}
    (h : Answered ack s res s') (hroom : res ≠ .error .timelineFull) :
    s.timeline.Extended s'.timeline := by
  have hasleep := Timeline.Extended.of_eq (Session.timeline_asked (windowless s) .sleep)
  cases h with
  | awake _ => exact hasleep
  | concluded _ h => exact hasleep.trans (h.extended hroom)

theorem Received.extended {bytes : List UInt8} {reception : Reception} {s s' : Session EndDevice σ}
    {res : Except Failure Unit} (h : Received r bytes reception s res s')
    (hroom : res ≠ .error .timelineFull) : s.timeline.Extended s'.timeline := by
  cases h with
  | foreign _ h => exact h.extended hroom
  | heard _ h =>
    have hanswered := h.extended hroom
    exact hanswered

theorem Retried.extended {s s' : Session EndDevice σ} {res : Except Failure Unit}
    (h : Retried r s res s') (hroom : res ≠ .error .timelineFull) :
    s.timeline.Extended s'.timeline := by
  cases h with
  | unselected _ _ hselect => exact .of_eq hselect.timeline
  | blocked _ _ hselect => exact .of_eq hselect.timeline
  | failed _ _ hselect hsend => exact .of_eq (hsend.timeline.trans hselect.timeline)
  | repeated _ _ hselect hsend => exact .of_eq (hsend.timeline.trans hselect.timeline)
  | postponed _ _ hid => exact extended_armed hid
  | full _ _ _ => exact absurd rfl hroom
  | _ => exact .refl _

theorem Rang.extended {id : EventId} {a : Alarm} {s s' : Session EndDevice σ}
    {res : Except Failure Unit} (h : Rang r id s a res s') (hroom : res ≠ .error .timelineFull) :
    s.timeline.Extended s'.timeline := by
  cases h with
  | stale _ => exact .refl _
  | openRx1 _ h =>
    have hopened := h.extended hroom
    exact hopened
  | closeRx1 _ h =>
    have hclosed := h.extended hroom
    exact hclosed
  | openRx2 _ h =>
    have hopened := h.extended hroom
    exact hopened
  | closeRx2 _ h =>
    have hclosed := h.extended hroom
    exact hclosed
  | retransmit _ h =>
    have hretried := h.extended hroom
    exact hretried

/-- **A call only adds to the timeline**, as long as the timeline takes what it is given. -/
theorem Called.extended {op : Op} {s s' : Session EndDevice σ} {res : Except Failure Unit}
    (h : Called r s op res s') (hroom : res ≠ .error .timelineFull) :
    s.timeline.Extended s'.timeline := by
  cases h with
  | send h => exact .of_eq h.timeline
  | txFinished h => exact h.extended hroom
  | receive h => exact h.extended hroom
  | failedReception h => exact h.extended hroom
  | alarm h => exact h.extended hroom
  | requestLinkCheck h =>
    cases h with
    | full _ => exact .refl _
    | queued _ => exact .refl _
  | editPlan => exact .refl _

/-! ### The alarms of the windows -/

/-- When a frame has left the antenna, the alarms for both windows are set. -/
theorem Landed.schedules {s s' : Session EndDevice σ} (h : Landed r s (.ok ()) s')
    (hon : s.node.transmitting = true) :
    ∃ i j, s'.node.alarms.get .openRx1 = some i ∧ s'.node.alarms.get .openRx2 = some j ∧
      ⟨s.timeline.now + s.node.windowDelay r .first, i, .openRx1⟩ ∈ s'.timeline.pending ∧
      ⟨s.timeline.now + s.node.windowDelay r .second, j, .openRx2⟩ ∈ s'.timeline.pending := by
  cases h with
  | idle hoff =>
    rw [hon] at hoff
    cases hoff
  | scheduled hon htune hsleep h₂ hi h₃ hj =>
    rename_i m i j s₁ s₂ s₃
    have hdelay : ∀ w, s₂.node.windowDelay r w = s.node.windowDelay r w := by
      intro w
      rw [h₂]
      change s₁.node.windowDelay r w = _
      rw [htune.node]
      rfl
    have hdelay' : s₃.node.windowDelay r .second = s.node.windowDelay r .second := by
      rw [h₃]
      exact hdelay .second
    -- Neither the tuning nor the first alarm takes any time.
    have hnow : s₂.timeline.now = s.timeline.now := by
      rw [h₂, htune.timeline_asked .sleep]
      rfl
    have hnow' : s₃.timeline.now = s.timeline.now := by
      rw [h₃]
      exact (extended_armed hi).now.trans hnow
    have hfirst : ⟨s.timeline.now + s.node.windowDelay r .first, i, .openRx1⟩ ∈
        s₃.timeline.pending := by
      rw [h₃, ← hnow, ← hdelay]
      exact Timeline.mem_of_schedule (Session.schedule_timeline hi)
    have hsecond := Timeline.mem_of_schedule (Session.schedule_timeline hj)
    rw [hnow', hdelay'] at hsecond
    refine ⟨i, j, ?_, rfl, (extended_armed hj).mem _ hfirst, ?_⟩
    · subst h₃
      rfl
    · rw [hdelay']
      exact hsecond

/-- Unless a frame is being received, the radio is tuned to a window that is opened, and the alarm
that closes it is set. -/
theorem Opened.listens {w : Window} {s s' : Session EndDevice σ} (h : Opened r w s (.ok ()) s')
    (hfree : Host.radioState s.host ≠ .rx) :
    ∃ rate m id, s.node.windowRate r w = .ok rate ∧ r.modulation rate = .ok m ∧
      s'.trace = s.trace ++ [.radio (.setFrequency (s.node.windowFrequency r w)) true,
        .radio (.setSpreadingFactor m.spreadingFactor) true, .radio .standby true] ∧
      s'.node.alarms.get (closeAlarm w) = some id ∧
      ⟨s.timeline.now + windowLength m s, id, closeAlarm w⟩ ∈ s'.timeline.pending := by
  cases h with
  | skipped hrx => exact absurd hrx hfree
  | opened hfree htune hstandby h₂ hid =>
    rename_i m id s₁ s₂
    have hpending := Timeline.mem_of_schedule (Session.schedule_timeline hid)
    -- Tuning leaves the settings alone, so the length is that of the device before.
    have hlength : windowLength m s₂ = windowLength m s := by
      rw [h₂]
      change m.symbolTime.scale s₁.node.settings.rxWindowSymbols.toNat = _
      rw [htune.node]
      rfl
    have hnow : s₂.timeline.now = s.timeline.now := by
      rw [h₂, htune.timeline_asked .standby]
    rw [hnow, hlength] at hpending
    have hslot : (armed (windowLength m s₂) (closeAlarm w) id s₂).node.alarms.get (closeAlarm w) =
        some id := by
      change (s₂.node.alarms.set (closeAlarm w) (some id)).get (closeAlarm w) = some id
      rw [AlarmSlots.get_set, if_pos rfl]
    cases htune with
    | tuned hrate hm hq hq' haccepted haccepted' =>
      rename_i q q' rate
      refine ⟨rate, m, id, hrate, hm, ?_, hslot, hlength ▸ hpending⟩
      change s₂.trace = _
      rw [h₂]
      change ((s.trace ++ [Action.radio q (s.accepts q)]) ++
        [Action.radio q' ((s.asked q).accepts q')]) ++
          [Action.radio .standby (((s.asked q).asked q').accepts .standby)] = _
      rw [haccepted, haccepted', hstandby, hq, hq', List.append_assoc, List.append_assoc]
      rfl

end

/-! ## What a device goes on waiting for -/

section

variable {σ : Type} [Host σ] {r : Region}

theorem Concluded.slot {received ack : Bool} {a : Alarm} {s s' : Session EndDevice σ}
    {res : Except Failure Unit} (h : Concluded received ack s res s') (ha : a ≠ .retransmit) :
    s'.node.alarms.get a = s.node.alarms.get a := by
  cases h with
  | again _ _ _ => exact AlarmSlots.get_set_of_ne ha
  | released _ _ => exact AlarmSlots.get_set_of_ne ha
  | _ => rfl

theorem Parked.slot {a : Alarm} {s s' : Session EndDevice σ} {res : Except Failure Unit}
    (h : Parked s res s') (ha : a ≠ .retransmit) :
    s'.node.alarms.get a = s.node.alarms.get a := by
  cases h with
  | closed _ _ h => exact h.slot ha
  | _ => rfl

theorem Closed.slot {w : Window} {a : Alarm} {s s' : Session EndDevice σ}
    {res : Except Failure Unit} (h : Closed w s res s') (ha : a ≠ .retransmit) :
    s'.node.alarms.get a = s.node.alarms.get a := by
  cases h with
  | deferred _ => rfl
  | parked _ h => exact h.slot ha

theorem Missed.slot {a : Alarm} {s s' : Session EndDevice σ} {res : Except Failure Unit}
    (h : Missed s res s') (ha : a ≠ .retransmit) :
    s'.node.alarms.get a = s.node.alarms.get a := by
  cases h with
  | nothing _ => rfl
  | parked _ h => exact h.slot ha

/-- An alarm that goes off is not waited for any more; the other ones of the windows are. -/
theorem Rang.slot {a b : Alarm} {id i : EventId} {s s' : Session EndDevice σ}
    {res : Except Failure Unit} (h : Rang r i s b res s') (hstaged : Staged s.node)
    (ha : a ≠ .retransmit) (hid : s.node.alarms.get a = some id) (hother : i = id → b ≠ a) :
    s'.node.alarms.get a = some id := by
  have hne : s.node.alarms.get b = some i → a ≠ b := by
    rintro hi rfl
    exact hother (Option.some.inj (hi.symm.trans hid)) rfl
  have hdisarmed : s.node.alarms.get b = some i →
      (disarmed b s).node.alarms.get a = some id := by
    intro hi
    rw [← hid]
    exact AlarmSlots.get_set_of_ne (hne hi)
  have hopened : ∀ {w : Window}, b = openAlarm w → s.node.alarms.get b = some i →
      Opened r w (disarmed b s) res s' → s'.node.alarms.get a = some id := by
    rintro w rfl hi hopen
    refine (hopen.slot ?_).trans (hdisarmed hi)
    -- A window that is still to open is not open.
    rintro rfl
    rw [hstaged.once w i hi] at hid
    cases hid
  cases h with
  | stale _ => exact hid
  | openRx1 hi h => exact hopened (w := .first) rfl hi h
  | closeRx1 hi h => exact (h.slot ha).trans (hdisarmed hi)
  | openRx2 hi h => exact hopened (w := .second) rfl hi h
  | closeRx2 hi h => exact (h.slot ha).trans (hdisarmed hi)
  | retransmit hi h =>
    have hpending := rxWindowsPending_of_alarm ha (hdisarmed hi)
    rw [h.eq_of_pending hpending]
    exact hdisarmed hi

/-- While an exchange is open, a new uplink is refused. -/
theorem Sent.node_of_pending {payload : List UInt8} {port : UInt8} {confirmed : Bool}
    {s s' : Session EndDevice σ} {res : Except Failure Unit}
    (h : Sent r payload port confirmed s res s') (hpending : s.node.rxWindowsPending = true) :
    s'.node = s.node := by
  cases h with
  | unselected hselect => exact hselect.node
  | blocked hselect => exact hselect.node
  | oversized _ _ hselect _ => exact hselect.node
  | failed _ hselect hsend => exact hsend.node.trans hselect.node
  | sent hclear _ _ =>
    rw [hclear.closed] at hpending
    cases hpending
  | _ => rfl

/-- **A device goes on waiting for an alarm of a window** until that goes off or a downlink comes. -/
theorem slot_step {d : EndDevice} (h : Staged d) {t : Turn σ} {a : Alarm} {id : EventId}
    (ha : a ≠ .retransmit) (hid : d.alarms.get a = some id) (hdeaf : t.downlink? d = none)
    (hop : t.op ≠ .alarm id a) : (t.after r d).alarms.get a = some id := by
  have hpending : d.rxWindowsPending = true := rxWindowsPending_of_alarm ha hid
  -- A window that is set excludes a frame on air.
  have hoff : d.transmitting = false := by
    refine Bool.eq_false_iff.mpr fun hon => ?_
    rw [(h.apart hon).slots a ha] at hid
    cases hid
  have hcalled := t.called r d
  unfold Turn.downlink? at hdeaf
  change (t.made r d).2.node.alarms.get a = some id
  generalize t.result r d = res at hcalled
  generalize (t.made r d).2 = s' at hcalled ⊢
  generalize t.op = op at hcalled hop hdeaf
  -- Of all calls only the alarm itself and a downlink would clear this slot.
  cases hcalled with
  | send hsent =>
    rw [hsent.node_of_pending hpending]
    exact hid
  | txFinished hlanded =>
    rw [hlanded.eq_of_off hoff]
    exact hid
  | receive hreceived =>
    cases hreceived with
    | foreign _ hmissed => exact (hmissed.slot ha).trans hid
    | heard hframe _ => exact absurd (hframe.symm.trans hdeaf) nofun
  | failedReception hmissed => exact (hmissed.slot ha).trans hid
  | alarm hrang => exact hrang.slot h ha hid (fun hi hb => hop (by rw [hi, hb]))
  | requestLinkCheck hqueued =>
    cases hqueued with
    | full _ => exact hid
    | queued _ => exact hid
  | editPlan => exact hid

/-- While an exchange is open, no frame goes on air. -/
theorem quiet_of_pending {d : EndDevice} (h : d.rxWindowsPending = true) (t : Turn σ) :
    t.transmissions r d = [] := by
  cases t.offering r d with
  | silent offers _ => exact Turn.transmissions_of_silent offers
  | offered _ _ _ before _ _ _ =>
    rw [before.over] at h
    cases h

/-- A call that neither puts a frame on air nor brings a downlink leaves the settings alone. -/
theorem settings_of_quiet {d : EndDevice} {t : Turn σ} (hquiet : t.transmissions r d = [])
    (hdeaf : t.downlink? d = none) : (t.after r d).settings = d.settings := by
  rcases t.link_cases r d with ⟨_, x, hx, hlink⟩ | ⟨u, a, hone, _⟩
  · have hsettings : (t.after r d).settings = x.settings := (congrArg EndDevice.settings hlink :)
    rw [hsettings]
    cases hx with
    | heard _ hop hframe =>
      unfold Turn.downlink? at hdeaf
      rw [hop] at hdeaf
      exact absurd (hframe.symm.trans hdeaf) nofun
    | _ => rfl
  · rw [hquiet] at hone
    cases hone

/-- No call for the windows is refused by the device. -/
theorem Tuned.not_refused {w : Window} {s s' : Session EndDevice σ} {q : Refusal}
    (h : Tuned r w s (.error (.refused q)) s') : False := by
  cases h

theorem Landed.not_refused {s s' : Session EndDevice σ} {q : Refusal}
    (h : Landed r s (.error (.refused q)) s') : False := by
  cases h with
  | untuned _ htune => exact htune.not_refused

theorem Opened.not_refused {w : Window} {s s' : Session EndDevice σ} {q : Refusal}
    (h : Opened r w s (.error (.refused q)) s') : False := by
  cases h with
  | untuned htune => exact htune.not_refused

/-- The alarm that opens a window makes the device try just that. -/
theorem opened_of_alarm {d : EndDevice} {t : Turn σ} {w : Window} {id : EventId}
    (hop : t.op = .alarm id (openAlarm w)) (hid : d.alarms.get (openAlarm w) = some id) :
    Opened r w (disarmed (openAlarm w) (t.session d)) (t.result r d) (t.made r d).2 := by
  have hrun := Turn.run_call r hop d
  have hrang := alarm_cases r hrun
  generalize t.result r d = res at hrang ⊢
  generalize (t.made r d).2 = s' at hrang ⊢
  cases w with
  | first =>
    cases hrang with
    | stale h => exact absurd hid h
    | openRx1 _ h => exact h
  | second =>
    cases hrang with
    | stale h => exact absurd hid h
    | openRx2 _ h => exact h

end

end EndDevice

end LoraLink
