import LoraLink.Proofs.Closing

/-!
# Uplinks that are stranded

A held uplink waits for something: for the end of its transmission, for a window to open or to
close, for the end of a reception, or for the alarm that has it sent again. A call notes first that
what it is about has come, so nobody waits for that any more, and then does what it can to have
something else to wait for.

What it can do may fail, and it is no transaction. If the radio, the source of random numbers or the
timeline refuses, the call ends there, and what it has noted stays noted. The one attempt that cleans
up after itself is the one to put the frame on air again: if that fails, the uplink is dropped. In
all other places an uplink that had nothing else to wait for is stranded. So is one whose last window
should open while a frame is being received, though nothing fails there: the window is skipped.
-/

namespace LoraLink

/-- The device once a call has noted what it is about. -/
def Turn.noted {σ : Type} (t : Turn σ) (d : EndDevice) : EndDevice :=
  match t.op with
  | .txFinished => { d with transmitting := false }
  | .receive bytes _ =>
    if (d.downlink? bytes).isSome then
      { d with alarms := d.alarms.cancelWindows, deferredClose := none }
    else { d with deferredClose := none }
  | .failedReception => { d with deferredClose := none }
  | .alarm id a => if d.alarms.get a = some id then { d with alarms := d.alarms.set a none } else d
  | _ => d

namespace EndDevice

/-- An uplink is held, and nothing will come that would resume or conclude it. -/
structure Stranded (d : EndDevice) : Prop where
  held : d.held.isSome = true
  silent : d.transmitting = false
  slots : ∀ a, d.alarms.get a = none
  deferred : d.deferredClose = none

theorem not_stranded_of_alarm {d : EndDevice} {a : Alarm} {id : EventId}
    (h : d.alarms.get a = some id) : ¬Stranded d := by
  intro hs
  rw [hs.slots a] at h
  cases h

theorem not_stranded_of_transmitting {d : EndDevice} (h : d.transmitting = true) :
    ¬Stranded d := by
  intro hs
  rw [hs.silent] at h
  cases h

theorem not_stranded_of_deferred {d : EndDevice} {w : Window} (h : d.deferredClose = some w) :
    ¬Stranded d := by
  intro hs
  rw [hs.deferred] at h
  cases h

theorem not_stranded_of_free {d : EndDevice} (h : d.held = none) : ¬Stranded d := by
  intro hs
  have hheld := hs.held
  rw [h] at hheld
  cases hheld

/-- Being stranded is a matter of the exchange. -/
theorem stranded_congr {d d' : EndDevice} (hheld : d'.held = d.held)
    (hon : d'.transmitting = d.transmitting) (halarms : d'.alarms = d.alarms)
    (hdeferred : d'.deferredClose = d.deferredClose) : Stranded d' ↔ Stranded d := by
  constructor
  · rintro ⟨held, silent, slots, deferred⟩
    exact ⟨hheld ▸ held, hon ▸ silent, halarms ▸ slots, hdeferred ▸ deferred⟩
  · rintro ⟨held, silent, slots, deferred⟩
    exact ⟨hheld ▸ held, hon ▸ silent, halarms ▸ slots, hdeferred ▸ deferred⟩

theorem Stranded.idle {d : EndDevice} (h : Stranded d) : Idle d :=
  NoWindows.idle ⟨fun a _ => h.slots a, h.deferred⟩ h.silent

theorem not_stranded_of_pending {d : EndDevice} (h : d.rxWindowsPending = true) :
    ¬Stranded d := by
  intro hs
  rw [hs.idle.over] at h
  cases h

variable {σ : Type}

/-- A call that leaves the exchange as it was strands the uplink if something is missing. -/
theorem stranded_iff_of_same {d d' : EndDevice} {missing : Prop} (h : d' = d) (hmissing : missing) :
    Stranded d' ↔ Stranded d ∧ missing := by
  rw [h]
  exact (and_iff_left hmissing).symm

/-- A call that leaves something to wait for does not strand the uplink if nothing is missing. -/
theorem stranded_iff_of_not {d d' : EndDevice} {missing : Prop} (h : ¬Stranded d')
    (hmissing : ¬missing) : Stranded d' ↔ Stranded d ∧ missing :=
  iff_of_false h fun hs => hmissing hs.2

/-- Where an uplink waits for something before and after, it does not matter what is missing. -/
theorem stranded_iff_of_both {d d' : EndDevice} {missing : Prop} (h : ¬Stranded d')
    (hbefore : ¬Stranded d) : Stranded d' ↔ Stranded d ∧ missing :=
  iff_of_false h fun hs => hbefore hs.1

theorem not_error_of_ok : ¬∃ e, (.ok () : Except Failure Unit) = .error e := by
  rintro ⟨e, he⟩
  cases he

theorem not_stranded_released (u : HeldUplink) (ack : Bool) (s : Session EndDevice σ) :
    ¬Stranded (released u ack s).node := not_stranded_of_free rfl

theorem not_stranded_dropped (s : Session EndDevice σ) : ¬Stranded (dropped s).node :=
  not_stranded_of_free rfl

theorem not_stranded_givenUp (u : HeldUplink) (s : Session EndDevice σ) :
    ¬Stranded (givenUp u s).node := not_stranded_of_free rfl

/-- To note the end of a transmission, or of a reception, that nobody waited for changes nothing. -/
theorem landed_of_off {s : Session EndDevice σ} (h : s.node.transmitting = false) :
    (landed s).node = s.node := by
  obtain ⟨⟨⟩, host, random, trace⟩ := s
  cases h
  rfl

theorem resumed_of_none {s : Session EndDevice σ} (h : s.node.deferredClose = none) :
    (resumed s).node = s.node := by
  obtain ⟨⟨⟩, host, random, trace⟩ := s
  cases h
  rfl

variable [Host σ] {r : Region}

theorem not_stranded_armed (delay : Duration) (a : Alarm) (id : EventId)
    (s : Session EndDevice σ) : ¬Stranded (armed delay a id s).node := by
  have hset : (s.node.alarms.set a (some id)).get a = some id := by
    rw [AlarmSlots.get_set, if_pos rfl]
  exact not_stranded_of_alarm (d := (armed delay a id s).node) hset

/-! ## Each part of a call -/

/-- After a transmission the uplink waits as soon as the first window is scheduled. -/
theorem Landed.stranded_iff {s s' : Session EndDevice σ} {res : Except Failure Unit}
    (h : Landed r s res s') (hs : ¬Stranded s.node) :
    Stranded s'.node ↔
      Stranded (landed s).node ∧ (∃ e, res = .error e) ∧ s'.node.alarms.openRx1 = none := by
  -- Where nothing is scheduled, nothing has changed since the end of the transmission was noted.
  have hleft : ∀ {e : Failure} {d' : EndDevice}, d' = (landed s).node →
      (Stranded d' ↔ Stranded (landed s).node ∧
        (∃ e', (.error e : Except Failure Unit) = .error e') ∧ d'.alarms.openRx1 = none) := by
    intro e d' hd
    rw [hd]
    exact ⟨fun hs => ⟨hs, ⟨e, rfl⟩, hs.slots .openRx1⟩, fun hs => hs.1⟩
  cases h with
  | idle hoff => exact stranded_iff_of_both hs (by rwa [landed_of_off hoff])
  | untuned _ htune => exact hleft htune.node
  | awake _ htune _ => exact hleft htune.node
  | full _ htune _ h₂ _ =>
    subst h₂
    exact hleft htune.node
  | halfFull _ _ _ _ _ h₃ _ =>
    subst h₃
    rename_i m i s₁ s₂ _ _ _ _ _ _
    have hslot : (armed (s₂.node.windowDelay r .first) .openRx1 i s₂).node.alarms.get .openRx1 =
        some i := rfl
    refine stranded_iff_of_not (not_stranded_of_alarm hslot) ?_
    rintro ⟨_, hnone⟩
    cases hslot.symm.trans hnone
  | scheduled _ _ _ _ _ _ _ =>
    refine stranded_iff_of_not (not_stranded_armed _ _ _ _) ?_
    exact fun hfails => not_error_of_ok hfails.1

theorem Opened.stranded_iff {w : Window} {s s' : Session EndDevice σ} {res : Except Failure Unit}
    (h : Opened r w s res s') :
    Stranded s'.node ↔
      Stranded s.node ∧ (Host.radioState s.host = .rx ∨ ∃ e, res = .error e) := by
  cases h with
  | skipped hrx => exact stranded_iff_of_same rfl (Or.inl hrx)
  | untuned htune => exact stranded_iff_of_same htune.node (Or.inr ⟨_, rfl⟩)
  | asleep htune _ => exact stranded_iff_of_same htune.node (Or.inr ⟨_, rfl⟩)
  | full htune _ h₂ _ =>
    subst h₂
    exact stranded_iff_of_same htune.node (Or.inr ⟨_, rfl⟩)
  | opened hfree _ _ _ _ =>
    refine stranded_iff_of_not (not_stranded_armed _ _ _ _) ?_
    exact fun hmissing => hmissing.elim hfree not_error_of_ok

theorem Concluded.stranded_iff {received ack : Bool} {s s' : Session EndDevice σ}
    {res : Except Failure Unit} (h : Concluded received ack s res s') :
    Stranded s'.node ↔ Stranded s.node ∧ ∃ e, res = .error e := by
  cases h with
  | nothing hnone =>
    exact stranded_iff_of_both (not_stranded_of_free hnone) (not_stranded_of_free hnone)
  | again _ _ _ => exact stranded_iff_of_not (not_stranded_armed _ _ _ _) not_error_of_ok
  | full _ _ _ => exact stranded_iff_of_same rfl ⟨_, rfl⟩
  | released _ _ => exact stranded_iff_of_not (not_stranded_released _ _ _) not_error_of_ok

theorem Parked.stranded_iff {s s' : Session EndDevice σ} {res : Except Failure Unit}
    (h : Parked s res s') : Stranded s'.node ↔ Stranded s.node ∧ ∃ e, res = .error e := by
  cases h with
  | awake _ => exact stranded_iff_of_same rfl ⟨_, rfl⟩
  | waiting _ hpending =>
    exact stranded_iff_of_both (not_stranded_of_pending hpending) (not_stranded_of_pending hpending)
  | closed _ _ h => exact h.stranded_iff

theorem Closed.stranded_iff {w : Window} {s s' : Session EndDevice σ} {res : Except Failure Unit}
    (h : Closed w s res s') : Stranded s'.node ↔ Stranded s.node ∧ ∃ e, res = .error e := by
  cases h with
  | deferred _ => exact stranded_iff_of_not (not_stranded_of_deferred (w := w) rfl) not_error_of_ok
  | parked _ h => exact h.stranded_iff

theorem Answered.stranded_iff {ack : Bool} {s s' : Session EndDevice σ}
    {res : Except Failure Unit} (h : Answered ack s res s') :
    Stranded s'.node ↔ Stranded (windowless s).node ∧ ∃ e, res = .error e := by
  cases h with
  | awake _ => exact stranded_iff_of_same rfl ⟨_, rfl⟩
  | concluded _ h => exact h.stranded_iff

/-- A failure before the attempt to put the frame on air again. -/
def Untried (e : Failure) : Prop := e = .random .exhausted ∨ (∃ f, e = .fault f) ∨ e = .timelineFull

/-- The attempt itself fails in other ways. -/
theorem Transmitted.tried {now : Instant} {rate : DataRate} {u : HeldUplink} {i : Nat} {e : Failure}
    {s s₁ s₂ : Session EndDevice σ} (h : Transmitted r u i s₁ (.error e) s₂)
    (hselect : Selected now rate s (.ok (some i)) s₁) : ¬Untried e := by
  obtain ⟨c, b, hc, _, _, hb, _⟩ := hselect.usable
  rw [← hselect.node] at hc hb
  cases h with
  | fault hc' hnone =>
    -- The channel that was drawn has a sub-band.
    rw [hc] at hc'
    cases hc'
    rw [hb] at hnone
    cases hnone
  | _ => rintro (he | ⟨f, he⟩ | he) <;> cases he

theorem Retried.stranded_iff {s s' : Session EndDevice σ} {res : Except Failure Unit}
    (h : Retried r s res s') :
    Stranded s'.node ↔ Stranded s.node ∧ ∃ e, res = .error e ∧ Untried e := by
  have hok : ¬∃ e, (.ok () : Except Failure Unit) = .error e ∧ Untried e := by
    rintro ⟨e, he, _⟩
    exact not_error_of_ok ⟨e, he⟩
  cases h with
  | nothing hnone =>
    exact stranded_iff_of_both (not_stranded_of_free hnone) (not_stranded_of_free hnone)
  -- While a window is pending the device is not stranded, neither before nor after.
  | late hpending =>
    exact stranded_iff_of_both (not_stranded_of_pending hpending) (not_stranded_of_pending hpending)
  | fault _ _ => exact stranded_iff_of_same rfl ⟨_, rfl, Or.inr (Or.inl ⟨_, rfl⟩)⟩
  | unselected _ _ hselect =>
    refine stranded_iff_of_same hselect.node ⟨_, rfl, ?_⟩
    rcases hselect.failure with hrandom | ⟨f, _, _, hfault, _⟩
    · exact Or.inl hrandom
    · exact Or.inr (Or.inl ⟨f, hfault⟩)
  | blocked _ _ _ => exact stranded_iff_of_not (not_stranded_givenUp _ _) hok
  -- A failed attempt drops the uplink, so there is nothing that could be stranded.
  | failed _ _ hselect hsend =>
    refine stranded_iff_of_not (not_stranded_dropped _) ?_
    rintro ⟨e, he, huntried⟩
    cases he
    exact hsend.tried hselect huntried
  | repeated _ _ _ hsend =>
    have hon : s'.node.transmitting = true := by
      cases hsend with
      | onAir _ _ _ _ _ _ => rfl
    exact stranded_iff_of_not (not_stranded_of_transmitting hon) hok
  | never _ _ _ => exact stranded_iff_of_not (not_stranded_givenUp _ _) hok
  | postponed _ _ _ => exact stranded_iff_of_not (not_stranded_armed _ _ _ _) hok
  | full _ _ _ => exact stranded_iff_of_same rfl ⟨.timelineFull, rfl, Or.inr (Or.inr rfl)⟩

/-- A new uplink is on air, or the device is as it was. -/
theorem Sent.same_or_sending {payload : List UInt8} {port : UInt8} {confirmed : Bool}
    {s s' : Session EndDevice σ} {res : Except Failure Unit}
    (h : Sent r payload port confirmed s res s') :
    s'.node = s.node ∨ s'.node.transmitting = true := by
  cases h with
  | unselected hselect => exact Or.inl hselect.node
  | blocked hselect => exact Or.inl hselect.node
  | oversized _ _ hselect _ => exact Or.inl hselect.node
  | failed _ hselect hsend => exact Or.inl (hsend.node.trans hselect.node)
  | sent _ _ hsend =>
    refine Or.inr ((silent_launched r _ _).transmitting.trans ?_)
    cases hsend with
    | onAir _ _ _ _ _ _ => rfl
  | _ => exact Or.inl rfl

/-- An alarm that means something is waited for. -/
theorem Rang.same_or_live {id : EventId} {a : Alarm} {s s' : Session EndDevice σ}
    {res : Except Failure Unit} (h : Rang r id s a res s') :
    s' = s ∨ s.node.alarms.get a = some id := by
  cases h with
  | stale _ => exact Or.inl rfl
  | openRx1 hid | closeRx1 hid | openRx2 hid | closeRx2 hid | retransmit hid => exact Or.inr hid

/-- A downlink that is taken in is no part of the exchange. -/
theorem stranded_windowless_heard (reception : Reception) (frame : DataFrame)
    (s : Session EndDevice σ) :
    Stranded (windowless (heard r reception frame s)).node ↔ Stranded (windowless s).node := by
  obtain ⟨plan, settings, queue, heq⟩ := heeded_eq r
    ⟨reception, Host.battery s.host, Host.externalPower s.host⟩ s.node frame
  have hheard : (heard r reception frame s).node = _ := heq
  refine stranded_congr ?_ ?_ ?_ rfl
  · exact (congrArg EndDevice.held hheard :)
  · exact (congrArg EndDevice.transmitting hheard :)
  · have halarms : (heard r reception frame s).node.alarms = s.node.alarms :=
      (congrArg EndDevice.alarms hheard :)
    exact congrArg AlarmSlots.cancelWindows halarms

theorem Missed.stranded_iff {s s' : Session EndDevice σ} {res : Except Failure Unit}
    (h : Missed s res s') (hs : ¬Stranded s.node) :
    Stranded s'.node ↔ Stranded (resumed s).node ∧ ∃ e, res = .error e := by
  cases h with
  | nothing hnone => exact stranded_iff_of_both hs (by rwa [resumed_of_none hnone])
  | parked _ h => exact h.stranded_iff

theorem Received.stranded_iff {bytes : List UInt8} {reception : Reception}
    {s s' : Session EndDevice σ} {res : Except Failure Unit}
    (h : Received r bytes reception s res s') (hs : ¬Stranded s.node) :
    Stranded s'.node ↔
      Stranded (if (s.node.downlink? bytes).isSome then (windowless s).node else (resumed s).node) ∧
        ∃ e, res = .error e := by
  cases h with
  | foreign hframe h =>
    rw [hframe, if_neg nofun]
    exact h.stranded_iff hs
  | heard hframe h =>
    rw [hframe, Option.isSome_some, if_pos rfl, h.stranded_iff, stranded_windowless_heard]

end EndDevice

/-! ## Whole calls -/

variable {σ : Type} [Host σ] (r : Region)

/-- Does the call end with an error? -/
def Turn.Fails (t : Turn σ) (d : EndDevice) : Prop := ∃ e, t.result r d = .error e

/--
What is missing when a call leaves an uplink with nothing to wait for. After a transmission it is
the alarm for the first window that counts: if only the second is refused, the uplink still waits.
-/
def Turn.Lapses (t : Turn σ) (d : EndDevice) : Prop :=
  match t.op with
  | .txFinished => t.Fails r d ∧ (t.after r d).alarms.openRx1 = none
  | .receive _ _ => t.Fails r d
  | .failedReception => t.Fails r d
  | .alarm _ .openRx1 => Host.radioState t.host = .rx ∨ t.Fails r d
  | .alarm _ .openRx2 => Host.radioState t.host = .rx ∨ t.Fails r d
  | .alarm _ .closeRx1 => t.Fails r d
  | .alarm _ .closeRx2 => t.Fails r d
  | .alarm _ .retransmit => ∃ e, t.result r d = .error e ∧ EndDevice.Untried e
  | _ => False

namespace EndDevice

/--
**What strands an uplink in a call.** What the call is about was the last thing the uplink waited
for, and then something was missing.
-/
theorem stranded_call_iff {d : EndDevice} (h : ¬Stranded d) (t : Turn σ) :
    Stranded (t.after r d) ↔ Stranded (t.noted d) ∧ t.Lapses r d := by
  have hcalled := t.called r d
  have hafter : t.after r d = (t.made r d).2.node := rfl
  have hstart : ¬Stranded (t.session d).node := h
  -- All of this is about the result and the device after the call, not about the call.
  unfold Turn.Lapses Turn.noted Turn.Fails
  rw [hafter]
  generalize t.result r d = res at hcalled ⊢
  generalize (t.made r d).2 = s' at hcalled ⊢
  generalize t.op = op at hcalled ⊢
  cases hcalled with
  | send hsent =>
    refine stranded_iff_of_both ?_ h
    rcases hsent.same_or_sending with hsame | hon
    · rw [hsame]
      exact hstart
    · exact not_stranded_of_transmitting hon
  | txFinished hlanded => exact hlanded.stranded_iff hstart
  | receive hreceived => exact hreceived.stranded_iff hstart
  | failedReception hmissed => exact hmissed.stranded_iff hstart
  | alarm hrang =>
    rename_i id a
    dsimp only
    -- A stale alarm leaves the device alone; a live one comes with its cases.
    by_cases hid : d.alarms.get a = some id
    · rw [if_pos hid]
      cases hrang with
      | stale hstale => exact absurd hid hstale
      | openRx1 _ h => exact h.stranded_iff
      | closeRx1 _ h => exact h.stranded_iff
      | openRx2 _ h => exact h.stranded_iff
      | closeRx2 _ h => exact h.stranded_iff
      | retransmit _ h => exact h.stranded_iff
    · rw [if_neg hid]
      rw [hrang.same_or_live.resolve_right hid]
      exact stranded_iff_of_both hstart h
  | requestLinkCheck hqueued =>
    cases hqueued with
    | full _ => exact stranded_iff_of_both h h
    | queued _ =>
      exact stranded_iff_of_both (fun hs => h ⟨hs.held, hs.silent, hs.slots, hs.deferred⟩) h
  | editPlan =>
    exact stranded_iff_of_both (fun hs => h ⟨hs.held, hs.silent, hs.slots, hs.deferred⟩) h

/-- After a run the uplink is stranded only if a call of that run has stranded it. -/
theorem stranded_run {d : EndDevice} (h : ¬Stranded d) {ts : List (Turn σ)}
    (hs : Stranded (d.afterAll r ts)) :
    ∃ pre t post, ts = pre ++ t :: post ∧ ¬Stranded (d.afterAll r pre) ∧
      Stranded (t.noted (d.afterAll r pre)) ∧ t.Lapses r (d.afterAll r pre) := by
  induction ts generalizing d with
  | nil => exact absurd hs h
  | cons t rest ih =>
    by_cases hnow : Stranded (t.after r d)
    · obtain ⟨hnoted, hlapse⟩ := (stranded_call_iff r h t).mp hnow
      exact ⟨[], t, rest, rfl, h, hnoted, hlapse⟩
    · obtain ⟨pre, u, post, rfl, hbefore, hnoted, hlapse⟩ := ih hnow hs
      exact ⟨t :: pre, u, post, rfl, hbefore, hnoted, hlapse⟩

/--
**What strands an uplink.**

The device may be in any state in which a held uplink waits for something, and be called in any
order by hosts of any kind. At some point of the run an uplink is held with nothing to wait for just
if the run has a call of this kind in it: before the call the uplink waited for something; what the
call is about was the last such thing; and the call failed before there was another, or it skipped
a window.
-/
theorem ever_stranded_iff {d : EndDevice} (h : ¬Stranded d) (ts : List (Turn σ)) :
    (∃ pre post, ts = pre ++ post ∧ Stranded (d.afterAll r pre)) ↔
      ∃ pre t post, ts = pre ++ t :: post ∧ ¬Stranded (d.afterAll r pre) ∧
        Stranded (t.noted (d.afterAll r pre)) ∧ t.Lapses r (d.afterAll r pre) := by
  constructor
  · rintro ⟨pre, post, rfl, hs⟩
    obtain ⟨pre', t, post', rfl, hbefore, hnoted, hlapse⟩ := stranded_run r h hs
    refine ⟨pre', t, post' ++ post, ?_, hbefore, hnoted, hlapse⟩
    rw [List.append_assoc, List.cons_append]
  · rintro ⟨pre, t, post, rfl, hbefore, hnoted, hlapse⟩
    refine ⟨pre ++ [t], post, (List.append_cons pre t post), ?_⟩
    rw [afterAll_append]
    exact (stranded_call_iff r hbefore t).mpr ⟨hnoted, hlapse⟩

/--
The first window is over when the second should open while a frame is being received: the uplink is
stranded though the call succeeds.
-/
theorem stranded_after_skipped_window :
    let d := (initial ⟨5⟩ {} Region.eu868.defaultPlan).afterAll .eu868 (unansweredRun.take 4)
    let t := receivingTurn 4 (.alarm ⟨1⟩ .openRx2)
    ¬Stranded d ∧ ¬t.Fails .eu868 d ∧
      ∃ pre post, [t] = pre ++ post ∧ Stranded (d.afterAll .eu868 pre) := by
  intro d t
  have hwaits : d.alarms.get .openRx2 = some ⟨1⟩ := by decide +kernel
  have hbefore : ¬Stranded d := not_stranded_of_alarm hwaits
  have hok : t.result .eu868 d = .ok () := eq_ok_of_toBool (by decide +kernel)
  have hnoted : Stranded (t.noted d) := by
    have halarms : (t.noted d).alarms = {} := by decide +kernel
    refine ⟨by decide +kernel, by decide +kernel, fun a => ?_, by decide +kernel⟩
    rw [halarms]
    cases a <;> rfl
  have hskipped : t.Lapses .eu868 d := Or.inl rfl
  -- From here on it does not matter which device and which call these are.
  clear_value d t
  refine ⟨hbefore, ?_, (ever_stranded_iff .eu868 hbefore [t]).mpr
    ⟨[], t, [], rfl, hbefore, hnoted, hskipped⟩⟩
  rintro ⟨e, he⟩
  rw [he] at hok
  cases hok

/--
The radio refuses to sleep at the end of a transmission: no window is scheduled, and the uplink is
stranded.
-/
theorem stranded_by_refused_sleep :
    let d := (initial ⟨5⟩ {} Region.eu868.defaultPlan).afterAll .eu868 (unansweredRun.take 1)
    let u := Turn.onBench 1 .txFinished
    let t := { u with host := { u.host with radio := { state := .tx, refusing := [.sleep] } } }
    ¬Stranded d ∧ t.Fails .eu868 d ∧ Stranded (t.after .eu868 d) := by
  intro d u t
  have hon : d.transmitting = true := by decide +kernel
  have hfails : (t.result .eu868 d).toBool = false := by decide +kernel
  -- The alarms are evaluated as a whole, and that each slot is empty is read off them.
  have halarms : (t.after .eu868 d).alarms = {} := by decide +kernel
  refine ⟨not_stranded_of_transmitting hon, ?_, by decide +kernel, by decide +kernel, ?_,
    by decide +kernel⟩
  · exact exists_error_of_toBool hfails
  · intro a
    rw [halarms]
    cases a <;> rfl

/-! ## What becomes of a stranded uplink -/

variable {r}

/--
A stranded uplink stays stranded. Only a downlink for the device, or a new uplink in its place, puts
an end to that.
-/
theorem stranded_step {d : EndDevice} (h : Stranded d) {t : Turn σ} (hdeaf : t.downlink? d = none)
    (hquiet : t.transmissions r d = []) : Stranded (t.after r d) := by
  have hoff : (t.after r d).transmitting = false := transmitting_of_quiet h.silent hquiet
  have hcalled := t.called r d
  have hstart : Stranded (t.session d).node := h
  unfold Turn.downlink? at hdeaf
  change (t.made r d).2.node.transmitting = false at hoff
  change Stranded (t.made r d).2.node
  generalize t.result r d = res at hcalled
  generalize (t.made r d).2 = s' at hcalled hoff ⊢
  generalize t.op = op at hcalled hdeaf
  cases hcalled with
  | send hsent =>
    rcases hsent.same_or_sending with hsame | hon
    · rwa [hsame]
    · rw [hoff] at hon
      cases hon
  | txFinished hlanded => rwa [hlanded.eq_of_off hstart.silent]
  | receive hreceived =>
    cases hreceived with
    | foreign _ hmissed => rwa [hmissed.eq_of_idle hstart.idle]
    | heard hframe _ => exact absurd (hframe.symm.trans hdeaf) nofun
  | failedReception hmissed => rwa [hmissed.eq_of_idle hstart.idle]
  -- No alarm is live while the device is stranded, so the one that goes off is stale.
  | alarm hrang =>
    rcases hrang.same_or_live with rfl | hlive
    · exact h
    · exact absurd hstart (not_stranded_of_alarm hlive)
  | requestLinkCheck hqueued =>
    cases hqueued with
    | full _ => exact h
    | queued _ => exact ⟨h.held, h.silent, h.slots, h.deferred⟩
  | editPlan => exact ⟨h.held, h.silent, h.slots, h.deferred⟩

theorem stranded_while_deaf {d : EndDevice} (h : Stranded d) {ts : List (Turn σ)}
    (hdeaf : d.downlinks r ts = []) (hquiet : d.transmissions r ts = []) :
    Stranded (d.afterAll r ts) := by
  induction ts generalizing d with
  | nil => exact h
  | cons t rest ih =>
    obtain ⟨hnow, hlater⟩ := List.append_eq_nil_iff.mp hquiet
    obtain ⟨hnone, hrest⟩ := List.append_eq_nil_iff.mp hdeaf
    exact ih (stranded_step h (Option.toList_eq_nil_iff.mp hnone) hnow) hrest hlater

end EndDevice

end LoraLink
