import LoraLink.Proofs.Listening

/-!
# A downlink closes the exchange for good

When a downlink has come, the device waits for no window any more. The alarms of its windows are
still on the timeline, though, and go off one after the other; the end of a reception may come that
a window has waited for, and the alarm for the next attempt may be live. None of this opens the
exchange again. An alarm the device does not wait for means nothing, whatever the radio is doing
just then, and an idle device sets the alarm of a window only once a frame has left the antenna.

So until the next frame is on air, the radio is not made ready to listen, and no window waits for
the end of a reception.
-/

namespace LoraLink

/-- Is the radio asked to get ready for a reception, whether it obeys or not? -/
def Action.isTuning : Action → Bool
  | .radio (.setFrequency _) _ => true
  | .radio (.setSpreadingFactor _) _ => true
  | .radio .standby _ => true
  | _ => false

theorem Action.isTuning_of_report {a : Action} (h : a.isRequest = false) : a.isTuning = false := by
  cases a with
  | radio _ _ => cases h
  | _ => rfl

namespace Session

variable {ν σ : Type}

/-- Was the radio asked so far to get ready for a reception? -/
def tuned (s : Session ν σ) : Bool := s.trace.any Action.isTuning

theorem tuned_did {s : Session ν σ} {actions : List Action}
    (h : ∀ a ∈ actions, a.isTuning = false) : (s.did actions).tuned = s.tuned := by
  have hnone : actions.any Action.isTuning = false := by
    refine List.any_eq_false.mpr fun a ha => ?_
    simp [h a ha]
  change (s.trace ++ actions).any Action.isTuning = s.tuned
  rw [List.any_append, hnone]
  exact Bool.or_false _

theorem tuned_events (s : Session ν σ) (es : List Event) :
    (s.did (es.map .event)).tuned = s.tuned :=
  tuned_did fun _ ha => Action.isTuning_of_report (EndDevice.isRequest_of_mem_events ha)

variable [Host σ]

theorem tuned_asked {s : Session ν σ} {q : RadioRequest}
    (h : (Action.radio q (s.accepts q)).isTuning = false) : (s.asked q).tuned = s.tuned :=
  tuned_did fun a ha => by
    rw [List.mem_singleton.mp ha]
    exact h

end Session

namespace EndDevice

variable {σ : Type}

/-! ## Calls that do not tune -/

theorem Selected.untuned {now : Instant} {rate : DataRate} {s s' : Session EndDevice σ}
    {res : Except Failure (Option Nat)} (h : Selected now rate s res s') : s'.tuned = s.tuned := by
  obtain ⟨g, rfl⟩ := h.session
  rfl

theorem untuned_launched (r : Region) (previous : Option HeldUplink) (s : Session EndDevice σ) :
    (launched r previous s).tuned = s.tuned :=
  (Session.tuned_events _ _).trans (Session.tuned_events s _)

theorem untuned_givenUp (u : HeldUplink) (s : Session EndDevice σ) :
    (givenUp u s).tuned = s.tuned :=
  Session.tuned_events (dropped s) [.dutyCycleBlocked, .maxTransmissionsReached u.transmissions]

theorem noWindows_windowless (s : Session EndDevice σ) : NoWindows (windowless s).node := by
  refine ⟨fun a ha => ?_, rfl⟩
  cases a with
  | retransmit => exact absurd rfl ha
  | _ => rfl

variable [Host σ] {r : Region}

theorem Transmitted.untuned {u : HeldUplink} {i : Nat} {s s' : Session EndDevice σ}
    {res : Except Failure Unit} (h : Transmitted r u i s res s') : s'.tuned = s.tuned := by
  cases h with
  | refused _ => exact Session.tuned_asked rfl
  | onAir _ _ _ _ _ _ => exact (Session.tuned_events _ [_]).trans (Session.tuned_asked rfl)
  | _ => rfl

theorem Sent.untuned {payload : List UInt8} {port : UInt8} {confirmed : Bool}
    {s s' : Session EndDevice σ} {res : Except Failure Unit}
    (h : Sent r payload port confirmed s res s') : s'.tuned = s.tuned := by
  cases h with
  | pending _ => exact Session.tuned_events s [_]
  | tooLong _ _ => exact Session.tuned_events s [_]
  | tooSoon _ _ => exact Session.tuned_events s [_]
  | unselected hselect => exact hselect.untuned
  | blocked hselect => exact (Session.tuned_events _ [_]).trans hselect.untuned
  | oversized _ _ hselect _ => exact hselect.untuned
  | failed _ hselect hsend => exact hsend.untuned.trans hselect.untuned
  | sent _ hselect hsend =>
    exact (untuned_launched r _ _).trans (hsend.untuned.trans hselect.untuned)
  | _ => rfl

theorem Retried.untuned {s s' : Session EndDevice σ} {res : Except Failure Unit}
    (h : Retried r s res s') : s'.tuned = s.tuned := by
  cases h with
  | unselected _ _ hselect => exact hselect.untuned
  | blocked _ _ hselect => exact (untuned_givenUp _ _).trans hselect.untuned
  | failed _ _ hselect hsend => exact hsend.untuned.trans hselect.untuned
  | repeated _ _ hselect hsend => exact hsend.untuned.trans hselect.untuned
  | never _ _ _ => exact untuned_givenUp _ s
  | _ => rfl

theorem Concluded.untuned {received ack : Bool} {s s' : Session EndDevice σ}
    {res : Except Failure Unit} (h : Concluded received ack s res s') : s'.tuned = s.tuned := by
  cases h with
  | released _ _ => exact Session.tuned_events _ _
  | _ => rfl

theorem Answered.untuned {ack : Bool} {s s' : Session EndDevice σ} {res : Except Failure Unit}
    (h : Answered ack s res s') : s'.tuned = s.tuned := by
  have hsleep : ((windowless s).asked .sleep).tuned = s.tuned :=
    Session.tuned_asked (s := windowless s) rfl
  cases h with
  | awake _ => exact hsleep
  | concluded _ h => exact h.untuned.trans hsleep

theorem untuned_heard (reception : Reception) (frame : DataFrame) (s : Session EndDevice σ) :
    (heard r reception frame s).tuned = s.tuned :=
  Session.tuned_did fun a ha => Action.isTuning_of_report (heeded_reports r _ _ _ a ha)

/-! ## An idle device -/

theorem Idle.noWindows {d : EndDevice} (h : Idle d) : NoWindows d := by
  refine ⟨fun a ha => ?_, h.deferred⟩
  cases a with
  | openRx1 => exact h.openRx1
  | closeRx1 => exact h.closeRx1
  | openRx2 => exact h.openRx2
  | closeRx2 => exact h.closeRx2
  | retransmit => exact absurd rfl ha

theorem NoWindows.idle {d : EndDevice} (h : NoWindows d) (hoff : d.transmitting = false) :
    Idle d where
  silent := hoff
  openRx1 := h.slots .openRx1 Alarm.noConfusion
  closeRx1 := h.slots .closeRx1 Alarm.noConfusion
  openRx2 := h.slots .openRx2 Alarm.noConfusion
  closeRx2 := h.slots .closeRx2 Alarm.noConfusion
  deferred := h.deferred

/-- A frame that the radio accepts goes on air in the call. -/
theorem transmissions_of_accepted {t : Turn σ} {d : EndDevice} {config : TransmitConfig}
    {frame : List UInt8}
    (h : t.offers r d = [.radio (.send config frame) ((t.session d).accepts (.send config frame))])
    (haccepted : (t.session d).accepts (.send config frame) = true) : t.transmissions r d ≠ [] := by
  rw [haccepted] at h
  have hmem : Action.radio (.send config frame) true ∈ t.offers r d := by
    rw [h]
    exact List.mem_singleton_self _
  have hair : (⟨Host.now t.host, Host.airtime config frame.length t.host, config, frame⟩ :
      Transmission) ∈ t.transmissions r d :=
    List.mem_filterMap.mpr ⟨_, (List.mem_filter.mp hmem).1, rfl⟩
  exact List.ne_nil_of_mem hair

/-- A device that is not sending does not begin to unless the radio accepts a frame. -/
theorem transmitting_of_quiet {t : Turn σ} {d : EndDevice} (hoff : d.transmitting = false)
    (hquiet : t.transmissions r d = []) : (t.after r d).transmitting = false := by
  cases t.offering r d with
  | silent _ transmitting =>
    rcases transmitting with hop | hsame
    · have hrun := Turn.run_call r hop d
      exact (txFinished_cases r hrun).silent.transmitting
    · exact hsame.trans hoff
  | offered _ _ _ _ offers _ transmitting =>
    rw [transmitting]
    exact Bool.eq_false_iff.mpr fun haccepted => transmissions_of_accepted offers haccepted hquiet

/-- No call opens a window of an idle device, or lets one wait for the end of a reception. -/
theorem noWindows_step {d : EndDevice} (h : Idle d) (t : Turn σ) : NoWindows (t.after r d) := by
  cases moved r t d with
  | receded hrecede => exact h.noWindows.receding hrecede
  | launched hnone => exact hnone
  | scheduled hon _ _ =>
    rw [h.silent] at hon
    cases hon
  | opened _ hi _ _ =>
    rw [h.noWindows.slots _ (openAlarm_ne_retransmit _)] at hi
    cases hi
  | deferred _ hi _ _ =>
    rw [h.noWindows.slots _ (closeAlarm_ne_retransmit _)] at hi
    cases hi

theorem idle_step {d : EndDevice} (h : Idle d) {t : Turn σ} (hquiet : t.transmissions r d = []) :
    Idle (t.after r d) :=
  (noWindows_step h t).idle (transmitting_of_quiet h.silent hquiet)

theorem idle_run {d : EndDevice} (h : Idle d) {ts : List (Turn σ)}
    (hquiet : d.transmissions r ts = []) : Idle (d.afterAll r ts) := by
  induction ts generalizing d with
  | nil => exact h
  | cons t rest ih =>
    obtain ⟨hnow, hlater⟩ := List.append_eq_nil_iff.mp hquiet
    exact ih (idle_step h hnow) hlater

/-- An idle device has no window that could wait for the end of a reception. -/
theorem Missed.eq_of_idle {s s' : Session EndDevice σ} {res : Except Failure Unit}
    (h : Missed s res s') (hidle : Idle s.node) : s' = s := by
  cases h with
  | nothing _ => rfl
  | parked hw _ =>
    rw [hidle.deferred] at hw
    cases hw

/-- To an idle device, no alarm means anything but the one for the next attempt. -/
theorem Rang.untuned {id : EventId} {a : Alarm} {s s' : Session EndDevice σ}
    {res : Except Failure Unit} (h : Rang r id s a res s') (hidle : Idle s.node) :
    s'.tuned = s.tuned := by
  -- An idle device has no window set, so any alarm of one is stale.
  cases h with
  | stale _ => rfl
  | retransmit _ h => exact h.untuned
  | openRx1 hid _ =>
    rw [hidle.openRx1] at hid
    cases hid
  | closeRx1 hid _ =>
    rw [hidle.closeRx1] at hid
    cases hid
  | openRx2 hid _ =>
    rw [hidle.openRx2] at hid
    cases hid
  | closeRx2 hid _ =>
    rw [hidle.closeRx2] at hid
    cases hid

/-- **An idle device does not make the radio ready to listen**, whatever is called. -/
theorem Called.untuned {op : Op} {s s' : Session EndDevice σ} {res : Except Failure Unit}
    (h : Called r s op res s') (hidle : Idle s.node) : s'.tuned = s.tuned := by
  cases h with
  | send h => exact h.untuned
  | txFinished h => rw [h.eq_of_off hidle.silent]
  | receive h =>
    cases h with
    | foreign _ hmissed => rw [hmissed.eq_of_idle hidle]
    | heard _ hanswered => exact hanswered.untuned.trans (untuned_heard _ _ _)
  | failedReception h => rw [h.eq_of_idle hidle]
  | alarm h => exact h.untuned hidle
  | requestLinkCheck h =>
    cases h with
    | full _ => rfl
    | queued _ => rfl
  | editPlan => rfl

/-! ## After a downlink -/

/-- Whether the radio goes to sleep or refuses to, the windows are over. -/
theorem Answered.noWindows {ack : Bool} {s s' : Session EndDevice σ} {res : Except Failure Unit}
    (h : Answered ack s res s') : NoWindows s'.node := by
  cases h with
  | awake _ => exact noWindows_windowless s
  | concluded _ h => exact (noWindows_windowless s).receding h.receding

/-- A downlink leaves a device idle that is not sending. -/
theorem idle_of_downlink {d : EndDevice} {t : Turn σ} {frame : DataFrame}
    (hoff : d.transmitting = false) (hheard : t.downlink? d = some frame) :
    Idle (t.after r d) := by
  unfold Turn.downlink? at hheard
  cases hop : t.op with
  | receive bytes reception =>
    rw [hop] at hheard
    have hrun := Turn.run_call r hop d
    have hreceived := receive_cases r hrun
    have hquiet : (t.after r d).transmitting = false := hreceived.silent.transmitting.trans hoff
    cases hreceived with
    | foreign hframe _ => exact absurd (hframe.symm.trans hheard) nofun
    | heard _ hanswered => exact hanswered.noWindows.idle hquiet
  | _ =>
    rw [hop] at hheard
    cases hheard

/--
**A downlink closes the exchange for good.**

A device that is not sending hears a downlink for it, whether or not the call then succeeds. After
it come any calls: alarms of any kind, those of the exchange among them and with any identifiers,
receptions in vain or not, ends of transmissions, refused uplinks, by hosts of any kind. As long as
none of them puts a frame on air, no call and not even the one that does asks the radio for another
frequency or spreading factor or to stand by, and after it no window waits for the end of a
reception.
-/
theorem closed_after_downlink (r : Region) {d : EndDevice} {t : Turn σ} {frame : DataFrame}
    (hoff : d.transmitting = false) (hheard : t.downlink? d = some frame) (before : List (Turn σ))
    (hquiet : (t.after r d).transmissions r before = []) (u : Turn σ) :
    let d' := (t.after r d).afterAll r before
    (∀ a ∈ u.trace r d', a.isTuning = false) ∧ (u.after r d').deferredClose = none := by
  intro d'
  have hidle : Idle d' := idle_run (idle_of_downlink hoff hheard) hquiet
  refine ⟨fun a ha => ?_, (noWindows_step hidle u).deferred⟩
  have huntuned : (u.trace r d').any Action.isTuning = false := (u.called r d').untuned hidle
  exact Bool.eq_false_iff.mpr (List.any_eq_false.mp huntuned a ha)

/-- A call on the bench while a frame is being received. -/
def receivingTurn (seconds : Nat) (op : Op) : Turn Simulation.View :=
  let t := Turn.onBench seconds op
  { t with host := { t.host with radio := { t.host.radio with state := .rx } } }

/--
A confirmed uplink is sent, and in its first window a downlink comes that does not acknowledge it.
The alarm that should have closed that window goes off while the radio is receiving, and so does
that of the second window. Then the alarm for the next attempt comes, and the frame is on air again.
-/
theorem closed_after_downlink_stale :
    let init := initial ⟨5⟩ {} Region.eu868.defaultPlan
    let d := init.afterAll .eu868 (unansweredRun.take 3)
    let t := Turn.onBench 3 (benchDownlink 0 [])
    let before := [receivingTurn 4 (.alarm ⟨0⟩ .closeRx1), .onBench 5 (.alarm ⟨1⟩ .openRx2),
      .onBench 6 .failedReception]
    let u := Turn.onBench 200 (.alarm ⟨0⟩ .retransmit)
    let d' := (t.after .eu868 d).afterAll .eu868 before
    d.alarms.closeRx1 = some ⟨0⟩ ∧ d.alarms.openRx2 = some ⟨1⟩ ∧
      (∀ a ∈ u.trace .eu868 d', a.isTuning = false) ∧ (u.after .eu868 d').deferredClose = none ∧
      (u.transmissions .eu868 d').length = 1 := by
  intro init d t before u d'
  -- The stale alarms are those of the windows the downlink has closed.
  have hheard : (t.downlink? d).isSome = true := by decide +kernel
  obtain ⟨frame, hframe⟩ := Option.isSome_iff_exists.mp hheard
  obtain ⟨huntuned, hdeferred⟩ := closed_after_downlink .eu868 (d := d) (t := t) (by decide +kernel)
    hframe before (by decide +kernel) u
  exact ⟨by decide +kernel, by decide +kernel, huntuned, hdeferred, by decide +kernel⟩

end EndDevice

end LoraLink
