import LoraLink.Proofs.Liveness

/-!
# Half duplex

A radio cannot send and listen at once, so a frame is offered to it only between exchanges: when
nothing is on air, no window is scheduled or open, and no window waits for the end of a reception.
Frames come from two places, the call that sends a new uplink and the alarm that asks for the next
attempt. Both look at the exchange first. In between they do nothing that is part of an exchange,
so what they have seen is still so when they pass the frame on.

A frame that the radio accepts opens an exchange, and only the call at the end of a transmission
says that it is over. So there is such a call between any two frames.
-/

namespace LoraLink

/-! ## Frames that are offered -/

/-- Is a frame offered to the radio, whether it accepts it or not? -/
def Action.isOffer : Action → Bool
  | .radio (.send _ _) _ => true
  | _ => false

/-- Is anything asked of the radio? -/
def Action.isRequest : Action → Bool
  | .radio _ _ => true
  | _ => false

/-- A frame is offered by a request. -/
theorem Action.isOffer_of_report {a : Action} (h : a.isRequest = false) : a.isOffer = false := by
  cases a with
  | radio _ _ => cases h
  | _ => rfl

/-- A frame on air was offered. -/
theorem Action.isOffer_of_transmission? {σ : Type} [Host σ] {host : σ} {a : Action}
    {x : Transmission} (h : a.transmission? host = some x) :
    a = .radio (.send x.config x.frame) true := by
  unfold Action.transmission? at h
  split at h
  · cases h
    rfl
  · cases h

namespace Session

variable {ν σ : Type}

/-- The frames that were offered so far. -/
def offers (s : Session ν σ) : List Action := s.trace.filter Action.isOffer

theorem offers_did_of {s : Session ν σ} {actions : List Action}
    (h : ∀ a ∈ actions, a.isOffer = false) : (s.did actions).offers = s.offers := by
  have hnone : actions.filter Action.isOffer = [] := by
    rw [List.filter_eq_nil_iff]
    intro a ha
    simp [h a ha]
  show (s.trace ++ actions).filter Action.isOffer = s.offers
  rw [List.filter_append, hnone, List.append_nil]
  rfl

variable [Host σ]

theorem offers_asked_of {s : Session ν σ} {q : RadioRequest}
    (h : (Action.radio q (s.accepts q)).isOffer = false) : (s.asked q).offers = s.offers :=
  offers_did_of fun a ha => by
    rw [List.mem_singleton.mp ha]
    exact h

end Session

namespace EndDevice

/-- No window is scheduled or open, and none waits for the end of a reception. -/
structure NoWindows (d : EndDevice) : Prop where
  slots : ∀ a, a ≠ .retransmit → d.alarms.get a = none
  deferred : d.deferredClose = none

theorem noWindows_of_over {d : EndDevice} (h : d.rxWindowsPending = false) : NoWindows d := by
  refine ⟨?_, (apart_of_over h).2⟩
  intro a ha
  refine Option.eq_none_iff_forall_ne_some.mpr fun id hid => ?_
  rw [rxWindowsPending_of_alarm ha hid] at h
  cases h

/-- No exchange is open. -/
structure Idle (d : EndDevice) : Prop where
  silent : d.transmitting = false
  openRx1 : d.alarms.openRx1 = none
  closeRx1 : d.alarms.closeRx1 = none
  openRx2 : d.alarms.openRx2 = none
  closeRx2 : d.alarms.closeRx2 = none
  deferred : d.deferredClose = none

theorem idle_of_over {d : EndDevice} (h : d.rxWindowsPending = false) : Idle d := by
  have hnone := noWindows_of_over h
  refine
    { silent := ?_
      openRx1 := hnone.slots .openRx1 Alarm.noConfusion
      closeRx1 := hnone.slots .closeRx1 Alarm.noConfusion
      openRx2 := hnone.slots .openRx2 Alarm.noConfusion
      closeRx2 := hnone.slots .closeRx2 Alarm.noConfusion
      deferred := hnone.deferred }
  refine Bool.eq_false_iff.mpr fun hon => ?_
  rw [rxWindowsPending_of_transmitting hon] at h
  cases h

/-- Between exchanges a new uplink may be sent. -/
theorem Idle.over {d : EndDevice} (h : Idle d) : d.rxWindowsPending = false := by
  unfold rxWindowsPending AlarmSlots.windowsPending
  rw [h.silent, h.openRx1, h.closeRx1, h.openRx2, h.closeRx2, h.deferred]
  rfl

/-- To wait for the next attempt is no part of an exchange. -/
theorem Idle.of_set_retransmit {d : EndDevice} {id : Option EventId}
    (h : Idle { d with alarms := d.alarms.set .retransmit id }) : Idle d :=
  ⟨h.silent, h.openRx1, h.closeRx1, h.openRx2, h.closeRx2, h.deferred⟩

variable {σ : Type}

/-! ## Nothing is offered -/

/-- No frame was offered in between, and what is on air still is. -/
structure Silent (s s' : Session EndDevice σ) : Prop where
  offers : s'.offers = s.offers
  transmitting : s'.node.transmitting = s.node.transmitting

theorem Silent.refl (s : Session EndDevice σ) : Silent s s := ⟨rfl, rfl⟩

theorem Silent.trans {s s' s'' : Session EndDevice σ} (h : Silent s s') (h' : Silent s' s'') :
    Silent s s'' :=
  ⟨h'.offers.trans h.offers, h'.transmitting.trans h.transmitting⟩

theorem silent_did {s : Session EndDevice σ} {actions : List Action}
    (h : ∀ a ∈ actions, a.isOffer = false) : Silent s (s.did actions) :=
  ⟨Session.offers_did_of h, rfl⟩

/-- An event is a report, and nothing is asked with it. -/
theorem isRequest_of_mem_events {a : Action} {es : List Event} (h : a ∈ es.map Action.event) :
    a.isRequest = false := by
  obtain ⟨e, _, rfl⟩ := List.mem_map.mp h
  rfl

theorem silent_events (s : Session EndDevice σ) (es : List Event) :
    Silent s (s.did (es.map .event)) :=
  silent_did fun _ ha => Action.isOffer_of_report (isRequest_of_mem_events ha)

theorem silent_event (s : Session EndDevice σ) (e : Event) : Silent s (s.did [.event e]) :=
  silent_events s [e]

theorem silent_givenUp (u : HeldUplink) (s : Session EndDevice σ) : Silent s (givenUp u s) :=
  ⟨(silent_events (dropped s)
    [.dutyCycleBlocked, .maxTransmissionsReached u.transmissions]).offers, rfl⟩

theorem Selected.silent {now : Instant} {rate : DataRate} {s s' : Session EndDevice σ}
    {res : Except Failure (Option Nat)} (h : Selected now rate s res s') : Silent s s' := by
  obtain ⟨g, rfl⟩ := h.session
  exact ⟨rfl, rfl⟩

/-- To count an uplink is no part of its exchange. -/
theorem silent_launched (r : Region) (previous : Option HeldUplink) (s : Session EndDevice σ) :
    Silent s (launched r previous s) := by
  have hcounted := (countUplink_cases r (s.node.supersede previous)).exchange
  refine ⟨?_, hcounted.2.1⟩
  unfold launched
  exact (silent_events _ _).offers.trans (silent_events s _).offers

variable (r : Region)

/-- No command asks anything of the radio. -/
theorem handled_reports (status : Status) (d : EndDevice) (c : Command) :
    ∀ a ∈ (d.handled r status c).actions, a.isRequest = false := by
  intro a ha
  -- Only the answer to a link check and a change of data rate or power are reported.
  cases c with
  | linkCheckAns p =>
    rcases List.mem_cons.mp ha with rfl | ha
    · rfl
    · rw [List.mem_singleton.mp ha]
      rfl
  | linkADRReq p =>
    have ha : a ∈ (d.handleLinkADR r p).actions := ha
    unfold handleLinkADR at ha
    dsimp only at ha
    split at ha
    · split at ha
      · exact isRequest_of_mem_events ha
      · cases ha
    · cases ha
  | newChannelReq p =>
    rw [handled_newChannel] at ha
    cases ha
  | _ => cases ha

theorem handledAll_reports (status : Status) (d : EndDevice) (cs : List Command) :
    ∀ a ∈ (d.handledAll r status cs).2, a.isRequest = false := by
  induction cs generalizing d with
  | nil =>
    intro a ha
    cases ha
  | cons c rest ih =>
    intro a ha
    rcases List.mem_append.mp ha with ha | ha
    · exact handled_reports r status d c a ha
    · exact ih _ a ha

theorem heeded_reports (status : Status) (d : EndDevice) (frame : DataFrame) :
    ∀ a ∈ (d.heeded r status frame).2, a.isRequest = false := by
  intro a ha
  rcases List.mem_append.mp ha with ha | ha
  · exact handledAll_reports r status _ _ a ha
  · rw [List.mem_singleton.mp ha]
    rfl

variable [Host σ] {r}

theorem silent_heard (reception : Reception) (frame : DataFrame) (s : Session EndDevice σ) :
    Silent s (heard r reception frame s) := by
  let status : Status := ⟨reception, Host.battery s.host, Host.externalPower s.host⟩
  obtain ⟨plan, settings, queue, heq⟩ := heeded_eq r status s.node frame
  refine ⟨Session.offers_did_of (s := s.withNode _) fun a ha => ?_, ?_⟩
  · exact Action.isOffer_of_report (heeded_reports r status s.node frame a ha)
  · show (s.node.heeded r status frame).1.transmitting = s.node.transmitting
    rw [heq]

theorem silent_asked {s : Session EndDevice σ} {q : RadioRequest}
    (h : (Action.radio q (s.accepts q)).isOffer = false) : Silent s (s.asked q) :=
  ⟨Session.offers_asked_of h, rfl⟩

theorem silent_armed (delay : Duration) (a : Alarm) (id : EventId) (s : Session EndDevice σ) :
    Silent s (armed delay a id s) := ⟨rfl, rfl⟩

theorem silent_scheduled (delay : Duration) (a : Alarm) (s : Session EndDevice σ) :
    Silent s (s.scheduled delay a) := ⟨rfl, rfl⟩

theorem Tuned.silent {w : Window} {s s' : Session EndDevice σ} {res : Except Failure Modulation}
    (h : Tuned r w s res s') : Silent s s' := by
  have hasked : ∀ {q q' : RadioRequest} {m : Modulation},
      q = .setFrequency (s.node.windowFrequency r w) →
      q' = .setSpreadingFactor m.spreadingFactor → Silent s ((s.asked q).asked q') := by
    rintro _ _ m rfl rfl
    exact (silent_asked rfl).trans (silent_asked rfl)
  cases h with
  | noRate _ => exact Silent.refl s
  | unmodulated _ _ => exact Silent.refl s
  | noFrequency hq _ =>
    subst hq
    exact silent_asked rfl
  | noSpreading hq hq' _ _ => exact hasked hq hq'
  | tuned _ _ hq hq' _ _ => exact hasked hq hq'

/-- The end of a transmission is noted before anything else is done. -/
theorem Landed.silent {s s' : Session EndDevice σ} {res : Except Failure Unit}
    (h : Landed r s res s') : Silent (landed s) s' := by
  cases h with
  | idle hoff => exact ⟨rfl, hoff⟩
  | untuned _ htune => exact htune.silent
  | awake _ htune _ => exact htune.silent.trans (silent_asked rfl)
  | full _ htune _ h₂ _ =>
    subst h₂
    exact (htune.silent.trans (silent_asked rfl)).trans (silent_scheduled _ _ _)
  | halfFull _ htune _ h₂ _ h₃ _ =>
    subst h₂ h₃
    exact ((htune.silent.trans (silent_asked rfl)).trans (silent_armed _ _ _ _)).trans
      (silent_scheduled _ _ _)
  | scheduled _ htune _ h₂ _ h₃ _ =>
    subst h₂ h₃
    exact ((htune.silent.trans (silent_asked rfl)).trans (silent_armed _ _ _ _)).trans
      (silent_armed _ _ _ _)

theorem Opened.silent {w : Window} {s s' : Session EndDevice σ} {res : Except Failure Unit}
    (h : Opened r w s res s') : Silent s s' := by
  cases h with
  | skipped _ => exact Silent.refl s
  | untuned htune => exact htune.silent
  | asleep htune _ => exact htune.silent.trans (silent_asked rfl)
  | full htune _ h₂ _ =>
    subst h₂
    exact (htune.silent.trans (silent_asked rfl)).trans (silent_scheduled _ _ _)
  | opened _ htune _ h₂ _ =>
    subst h₂
    exact (htune.silent.trans (silent_asked rfl)).trans (silent_armed _ _ _ _)

theorem Concluded.silent {received ack : Bool} {s s' : Session EndDevice σ}
    {res : Except Failure Unit} (h : Concluded received ack s res s') : Silent s s' := by
  cases h with
  | nothing _ => exact Silent.refl s
  | again _ _ _ => exact silent_armed _ _ _ s
  | full _ _ _ => exact silent_scheduled _ _ s
  | released _ _ => exact ⟨(silent_events s _).offers, rfl⟩

theorem Parked.silent {s s' : Session EndDevice σ} {res : Except Failure Unit}
    (h : Parked s res s') : Silent s s' := by
  cases h with
  | awake _ => exact silent_asked rfl
  | waiting _ _ => exact silent_asked rfl
  | closed _ _ h => exact (silent_asked rfl).trans h.silent

theorem Closed.silent {w : Window} {s s' : Session EndDevice σ} {res : Except Failure Unit}
    (h : Closed w s res s') : Silent s s' := by
  cases h with
  | deferred _ => exact ⟨rfl, rfl⟩
  | parked _ h => exact h.silent

theorem Missed.silent {s s' : Session EndDevice σ} {res : Except Failure Unit}
    (h : Missed s res s') : Silent s s' := by
  cases h with
  | nothing _ => exact Silent.refl s
  | parked _ h => exact ⟨h.silent.offers, h.silent.transmitting⟩

theorem Answered.silent {ack : Bool} {s s' : Session EndDevice σ} {res : Except Failure Unit}
    (h : Answered ack s res s') : Silent s s' := by
  have hwindowless : Silent s ((windowless s).asked .sleep) :=
    ⟨Session.offers_asked_of (s := windowless s) rfl, rfl⟩
  cases h with
  | awake _ => exact hwindowless
  | concluded _ h => exact hwindowless.trans h.silent

theorem Received.silent {bytes : List UInt8} {reception : Reception} {s s' : Session EndDevice σ}
    {res : Except Failure Unit} (h : Received r bytes reception s res s') : Silent s s' := by
  cases h with
  | foreign _ h => exact h.silent
  | heard _ h => exact (silent_heard reception _ s).trans h.silent

/-! ## A frame is offered -/

variable (r)

/--
In the session `s`, a frame is offered to the radio: the device begins to put an uplink on air
there, and this is the first thing that is done at all.
-/
structure Offers (s : Session EndDevice σ) (config : TransmitConfig) (frame : List UInt8) :
    Prop where
  fresh : s.trace = []
  sends : ∃ u index res s', Transmitted r u index s res s' ∧
    s'.trace.head? = some (.radio (.send config frame) (s.accepts (.send config frame)))

/-- What comes of a call that might offer a frame. -/
inductive Passed (s s' : Session EndDevice σ) : Prop where
  | silent (h : Silent s s')
  /--
  Only random numbers were used up before, and the exchange was seen to be over. The host is asked
  for nothing else.
  -/
  | offered (g : Random) {config : TransmitConfig} {frame : List UInt8}
      (hover : s.node.rxWindowsPending = false) (hoffer : Offers r (s.withRandom g) config frame)
      (offers : s'.offers = [.radio (.send config frame) (s.accepts (.send config frame))])
      (host : s'.host = (s.asked (.send config frame)).host)
      (transmitting : s'.node.transmitting = s.accepts (.send config frame))

variable {r}

theorem Passed.trans {s s' s'' : Session EndDevice σ} (h : Passed r s s') (h' : Silent s' s'')
    (hhost : s''.host = s'.host) : Passed r s s'' := by
  cases h with
  | silent h => exact .silent (h.trans h')
  | offered g hover hoffer offers host transmitting =>
    exact .offered g hover hoffer (h'.offers.trans offers) (hhost.trans host)
      (h'.transmitting.trans transmitting)

theorem Offers.passed {u : HeldUplink} {i : Nat} {s s' : Session EndDevice σ} {g : Random}
    {res : Except Failure Unit} {config : TransmitConfig} {frame : List UInt8} (es : List Event)
    (h : Transmitted r u i (s.withRandom g) res s') (hfresh : s.trace = [])
    (hover : s.node.rxWindowsPending = false)
    (htrace : s'.trace = s.trace ++
      .radio (.send config frame) (s.accepts (.send config frame)) :: es.map .event)
    (hhost : s'.host = (s.asked (.send config frame)).host)
    (hon : s'.node.transmitting = s.accepts (.send config frame)) : Passed r s s' := by
  rw [hfresh, List.nil_append] at htrace
  have hoffer : Offers r (s.withRandom g) config frame := by
    refine ⟨hfresh, u, i, res, s', h, ?_⟩
    rw [htrace]
    rfl
  refine .offered g hover hoffer ?_ hhost hon
  -- Whatever is reported besides is no offer.
  have hevents : (es.map Action.event).filter Action.isOffer = [] := by
    rw [List.filter_eq_nil_iff]
    intro a ha
    simp [Action.isOffer_of_report (isRequest_of_mem_events ha)]
  unfold Session.offers
  rw [htrace, List.filter_cons_of_pos rfl, hevents]

/-- Where the exchange is over, an uplink may be put on air on the channel that was drawn. -/
theorem Transmitted.passed {now : Instant} {rate : DataRate} {u : HeldUplink} {i : Nat}
    {s s₁ s₂ : Session EndDevice σ} {res : Except Failure Unit} (h : Transmitted r u i s₁ res s₂)
    (hselect : Selected now rate s (.ok (some i)) s₁) (hfresh : s.trace = [])
    (hover : s.node.rxWindowsPending = false) : Passed r s s₂ := by
  obtain ⟨g, rfl⟩ := hselect.session
  have hsend := h
  cases h with
  | refused hq =>
    -- The device was not transmitting before, and is not now.
    exact Offers.passed [] hsend hfresh hover rfl rfl
      ((idle_of_over hover).silent.trans hq.symm)
  | onAir hc hf hm hconfig hq hplan =>
    rename_i c frame m config plan
    refine Offers.passed [onAirEvent u i frame.length] hsend hfresh hover ?_ rfl hq.symm
    exact List.append_assoc _ _ _
  | _ => exact .silent ⟨rfl, rfl⟩

/-- A new uplink is offered only if the exchange before is over. -/
theorem Sent.passed {payload : List UInt8} {port : UInt8} {confirmed : Bool}
    {s s' : Session EndDevice σ} {res : Except Failure Unit}
    (h : Sent r payload port confirmed s res s') (hfresh : s.trace = []) : Passed r s s' := by
  cases h with
  | pending _ => exact .silent (silent_event s _)
  | misplaced _ _ => exact .silent (Silent.refl s)
  | unlimited _ => exact .silent (Silent.refl s)
  | tooLong _ _ => exact .silent (silent_event s _)
  | tooSoon _ _ => exact .silent (silent_event s _)
  | unselected hselect => exact .silent hselect.silent
  | blocked hselect => exact .silent (hselect.silent.trans (silent_event _ _))
  | oversized _ _ hselect _ => exact .silent hselect.silent
  | failed hclear hselect hsend => exact hsend.passed hselect hfresh hclear.closed
  | sent hclear hselect hsend =>
    exact (hsend.passed hselect hfresh hclear.closed).trans (silent_launched r _ _) rfl

/-- So is the next attempt at an uplink, however late its alarm comes. -/
theorem Retried.passed {s s' : Session EndDevice σ} {res : Except Failure Unit}
    (h : Retried r s res s') (hfresh : s.trace = []) : Passed r s s' := by
  cases h with
  | nothing _ => exact .silent (Silent.refl s)
  | late _ => exact .silent (Silent.refl s)
  | fault _ _ => exact .silent (Silent.refl s)
  | unselected _ _ hselect => exact .silent hselect.silent
  | blocked _ _ hselect => exact .silent (hselect.silent.trans (silent_givenUp _ _))
  | failed hretry _ hselect hsend =>
    have hdropped : ∀ s₂ : Session EndDevice σ, Silent s₂ (dropped s₂) := fun _ => ⟨rfl, rfl⟩
    exact (hsend.passed hselect hfresh hretry.closed).trans (hdropped _) rfl
  | repeated hretry _ hselect hsend => exact hsend.passed hselect hfresh hretry.closed
  | never _ _ _ => exact .silent (silent_givenUp _ s)
  | postponed _ _ _ => exact .silent (silent_armed _ _ _ s)
  | full _ _ _ => exact .silent (silent_scheduled _ _ s)

end EndDevice

/-! ## The frames a call offers -/

namespace Turn

variable {σ : Type} [Host σ] (r : Region)

/-- The frames that are offered to the radio in the call. -/
def offers (t : Turn σ) (d : EndDevice) : List Action := (t.made r d).2.offers

/-- The device when the call might offer a frame. An alarm that went off is not waited for then. -/
def reached (t : Turn σ) (d : EndDevice) : EndDevice :=
  match t.op with
  | .alarm _ a => { d with alarms := d.alarms.set a none }
  | _ => d

/-- A call offers one frame at most, and only between exchanges. -/
inductive Offering (t : Turn σ) (d : EndDevice) : Prop where
  | silent (offers : t.offers r d = [])
      (transmitting : t.op = .txFinished ∨ (t.after r d).transmitting = d.transmitting)
  | offered (g : Random) {config : TransmitConfig} {frame : List UInt8}
      (hoffer : EndDevice.Offers r ((t.session (t.reached d)).withRandom g) config frame)
      (idle : EndDevice.Idle (t.reached d)) (before : EndDevice.Idle d)
      (offers : t.offers r d =
        [.radio (.send config frame) ((t.session d).accepts (.send config frame))])
      (host : (t.made r d).2.host = ((t.session d).asked (.send config frame)).host)
      (transmitting : (t.after r d).transmitting = (t.session d).accepts (.send config frame))

variable {r}

theorem Offering.of_silent {t : Turn σ} {d : EndDevice}
    (h : EndDevice.Silent (t.session d) (t.made r d).2) : Offering r t d :=
  .silent h.offers (Or.inr h.transmitting)

theorem Offering.of_passed {t : Turn σ} {d : EndDevice}
    (h : EndDevice.Passed r (t.session (t.reached d)) (t.made r d).2)
    (hbefore : EndDevice.Idle (t.reached d) → EndDevice.Idle d)
    (hsame : (t.reached d).transmitting = d.transmitting) : Offering r t d := by
  cases h with
  | silent h => exact .silent h.offers (Or.inr (h.transmitting.trans hsame))
  | offered g hover hoffer offers host transmitting =>
    have hidle : EndDevice.Idle (t.reached d) := EndDevice.idle_of_over hover
    exact .offered g hoffer hidle (hbefore hidle) offers host transmitting

variable (r)

theorem offering_send {t : Turn σ} {d : EndDevice} {payload : List UInt8} {port : UInt8}
    {confirmed : Bool} (hop : t.op = .send payload port confirmed)
    (h : EndDevice.Sent r payload port confirmed (t.session d) (t.result r d) (t.made r d).2) :
    Offering r t d := by
  have hreached : t.reached d = d := by
    unfold reached
    rw [hop]
  refine .of_passed ?_ (fun h => ?_) (by rw [hreached])
  · rw [hreached]
    exact h.passed rfl
  · rw [hreached] at h
    exact h

theorem offering_alarm {t : Turn σ} {d : EndDevice} {id : EventId} {a : Alarm}
    (hop : t.op = .alarm id a)
    (h : EndDevice.Rang r id (t.session d) a (t.result r d) (t.made r d).2) : Offering r t d := by
  have hdisarmed : ∀ b, EndDevice.Silent (t.session d) (EndDevice.disarmed b (t.session d)) :=
    fun _ => ⟨rfl, rfl⟩
  generalize hres : t.result r d = res at h
  generalize hs' : (t.made r d).2 = s' at h
  cases h with
  | stale _ => exact .of_silent (by rw [hs']; exact EndDevice.Silent.refl _)
  | openRx1 _ h => exact .of_silent (by rw [hs']; exact (hdisarmed _).trans h.silent)
  | closeRx1 _ h => exact .of_silent (by rw [hs']; exact (hdisarmed _).trans h.silent)
  | openRx2 _ h => exact .of_silent (by rw [hs']; exact (hdisarmed _).trans h.silent)
  | closeRx2 _ h => exact .of_silent (by rw [hs']; exact (hdisarmed _).trans h.silent)
  | retransmit _ h =>
    -- The repeat is offered by a device that does not wait for this alarm any more.
    have hreached : t.reached d = { d with alarms := d.alarms.set .retransmit none } := by
      unfold reached
      rw [hop]
    refine .of_passed ?_ (fun h => ?_) (by rw [hreached])
    · rw [hreached, hs']
      exact h.passed rfl
    · rw [hreached] at h
      exact h.of_set_retransmit

/-- **Every call keeps to the discipline**, whatever has become of the device before. -/
theorem offering (t : Turn σ) (d : EndDevice) : Offering r t d := by
  -- Only two calls can offer a frame: a new uplink, and the alarm for a repeat.
  cases hop : t.op with
  | send payload port confirmed =>
    exact offering_send r hop (EndDevice.send_cases r (run_call r hop d))
  | txFinished =>
    exact .silent (EndDevice.txFinished_cases r (run_call r hop d)).silent.offers (Or.inl hop)
  | receive bytes reception =>
    exact .of_silent (EndDevice.receive_cases r (run_call r hop d)).silent
  | failedReception =>
    exact .of_silent (EndDevice.failedReception_cases (run_call r hop d)).silent
  | alarm id a =>
    exact offering_alarm r hop (EndDevice.alarm_cases r (run_call r hop d))
  | requestLinkCheck =>
    have hqueued := EndDevice.requestLinkCheck_cases (run_call r hop d)
    refine .of_silent ?_
    generalize t.result r d = res at hqueued
    generalize (t.made r d).2 = s' at hqueued ⊢
    cases hqueued with
    | full _ => exact EndDevice.Silent.refl _
    | queued _ => exact ⟨rfl, rfl⟩
  | editPlan plan =>
    refine .of_silent ?_
    unfold made
    rw [hop]
    exact ⟨rfl, rfl⟩

/-! ## Runs -/

variable {r}

/-- A frame on air was offered. -/
theorem mem_offers_of_transmission {t : Turn σ} {d : EndDevice} {x : Transmission}
    (h : x ∈ t.transmissions r d) : .radio (.send x.config x.frame) true ∈ t.offers r d := by
  obtain ⟨a, ha, hx⟩ := List.mem_filterMap.mp h
  rw [Action.isOffer_of_transmission? hx] at ha
  exact List.mem_filter.mpr ⟨ha, rfl⟩

theorem transmissions_of_silent {t : Turn σ} {d : EndDevice} (h : t.offers r d = []) :
    t.transmissions r d = [] := by
  refine List.eq_nil_iff_forall_not_mem.mpr fun x hx => ?_
  have hmem := mem_offers_of_transmission hx
  rw [h] at hmem
  cases hmem

/-- After a frame that the radio has accepted, the device is transmitting. -/
theorem transmitting_of_transmission {t : Turn σ} {d : EndDevice} {x : Transmission}
    (h : x ∈ t.transmissions r d) : (t.after r d).transmitting = true := by
  have hmem := mem_offers_of_transmission h
  cases t.offering r d with
  | silent offers _ =>
    rw [offers] at hmem
    cases hmem
  | offered g _ _ _ offers _ transmitting =>
    rw [offers] at hmem
    have haccepted := (Action.radio.inj (List.mem_singleton.mp hmem)).2
    exact transmitting.trans haccepted.symm

end Turn

namespace EndDevice

variable {σ : Type} [Host σ] {r : Region}

/-- As long as a frame is on air, none is offered, and only its end puts an end to that. -/
theorem transmitting_step {d : EndDevice} (hon : d.transmitting = true) (t : Turn σ) :
    t.offers r d = [] ∧ (t.op = .txFinished ∨ (t.after r d).transmitting = true) := by
  cases t.offering r d with
  | silent offers transmitting =>
    rw [hon] at transmitting
    exact ⟨offers, transmitting⟩
  | offered g _ _ before _ _ _ =>
    have hoff := before.silent
    rw [hon] at hoff
    cases hoff

/-- A run after which a frame is not on air any more has the call in it that ended the frame. -/
theorem finished_of_off {d : EndDevice} {ts : List (Turn σ)} (hon : d.transmitting = true)
    (hoff : (d.afterAll r ts).transmitting = false) :
    ∃ pre t post, ts = pre ++ t :: post ∧ t.op = .txFinished ∧
      (d.afterAll r pre).transmitting = true ∧
      (t.after r (d.afterAll r pre)).transmitting = false ∧ d.transmissions r (pre ++ [t]) = [] := by
  -- By induction on the run, up to the first call after which nothing is on air.
  induction ts generalizing d with
  | nil =>
    rw [show d.afterAll r [] = d from rfl, hon] at hoff
    cases hoff
  | cons t rest ih =>
    obtain ⟨hsilent, hend⟩ := transmitting_step (r := r) hon t
    have hnone := Turn.transmissions_of_silent hsilent
    cases hstill : (t.after r d).transmitting with
    | true =>
      obtain ⟨pre, t', post, rfl, hop, hbefore, hafter, hquiet⟩ := ih hstill hoff
      refine ⟨t :: pre, t', post, rfl, hop, hbefore, hafter, ?_⟩
      show t.transmissions r d ++ (t.after r d).transmissions r (pre ++ [t']) = []
      rw [hnone, hquiet, List.append_nil]
    | false =>
      rw [hstill] at hend
      refine ⟨[], t, rest, rfl, hend.resolve_right Bool.false_ne_true, hon, hstill, ?_⟩
      show t.transmissions r d ++ [] = []
      rw [hnone, List.append_nil]

/--
**No frame is offered while anything of an exchange is under way.**

Whatever has become of the device before, and however host and radio behave: when a call offers a
frame, first or repeated, the device is not transmitting, none of the four windows is scheduled or
open, and none waits for the end of a reception. The call asks its host for nothing else, so there
is no second frame in it. And between two frames that the radio has accepted there is the call at
the end of the transmission that ended the first.
-/
theorem half_duplex (r : Region) (d : EndDevice) :
    (∀ (t : Turn σ) config frame accepted,
      .radio (.send config frame) accepted ∈ t.trace r d →
      ∃ g, Offers r ((t.session (t.reached d)).withRandom g) config frame ∧
        Idle (t.reached d) ∧ Idle d ∧ accepted = (t.session d).accepts (.send config frame) ∧
        (t.made r d).2.host = ((t.session d).asked (.send config frame)).host) ∧
    (∀ t : Turn σ, (t.offers r d).length ≤ 1) ∧
    ∀ (t₁ : Turn σ) (mid : List (Turn σ)) (t₂ : Turn σ) (x₁ x₂ : Transmission),
      x₁ ∈ t₁.transmissions r d → x₂ ∈ t₂.transmissions r ((t₁.after r d).afterAll r mid) →
      ∃ pre t post, mid = pre ++ t :: post ∧ t.op = .txFinished ∧
        ((t₁.after r d).afterAll r pre).transmitting = true ∧
        (t.after r ((t₁.after r d).afterAll r pre)).transmitting = false ∧
        (t₁.after r d).transmissions r (pre ++ [t]) = [] := by
  refine ⟨?_, ?_, ?_⟩
  · intro t config frame accepted hmem
    -- An offer that stands in the trace is the only one of its call.
    have hmem' : .radio (.send config frame) accepted ∈ t.offers r d :=
      List.mem_filter.mpr ⟨hmem, rfl⟩
    cases t.offering r d with
    | silent offers _ =>
      rw [offers] at hmem'
      cases hmem'
    | offered g hoffer idle before offers host _ =>
      rw [offers] at hmem'
      cases List.mem_singleton.mp hmem'
      exact ⟨g, hoffer, idle, before, rfl, host⟩
  · intro t
    cases t.offering r d with
    | silent offers _ =>
      rw [offers]
      exact Nat.zero_le 1
    | offered g _ _ _ offers _ _ =>
      rw [offers]
      exact Nat.le_refl 1
  · intro t₁ mid t₂ x₁ x₂ h₁ h₂
    -- The radio was idle when the second frame was offered, so the first had ended.
    refine finished_of_off (Turn.transmitting_of_transmission h₁) ?_
    have hmem := Turn.mem_offers_of_transmission h₂
    cases t₂.offering r ((t₁.after r d).afterAll r mid) with
    | silent offers _ =>
      rw [offers] at hmem
      cases hmem
    | offered g _ _ before _ _ _ => exact before.silent

/-- Between the first frame of an uplink and its repeat, the first one has ended. -/
theorem half_duplex_repeated :
    let d := initial ⟨5⟩ {} Region.eu868.defaultPlan
    let t₁ := Turn.onBench 0 (.send [1, 2, 3] 1 true)
    let t₂ := Turn.onBench 200 (.alarm ⟨0⟩ .retransmit)
    ∃ x₁ x₂, t₁.transmissions .eu868 d = [x₁] ∧
      t₂.transmissions .eu868 ((t₁.after .eu868 d).afterAll .eu868 unansweredRun.tail) = [x₂] ∧
      Idle ((t₁.after .eu868 d).afterAll .eu868 unansweredRun.tail) ∧
      ∃ pre t post, unansweredRun.tail = pre ++ t :: post ∧ t.op = .txFinished := by
  intro d t₁ t₂
  have hone₁ : (t₁.transmissions .eu868 d).length = 1 := by decide +kernel
  have hone₂ : (t₂.transmissions .eu868
      ((t₁.after .eu868 d).afterAll .eu868 unansweredRun.tail)).length = 1 := by
    decide +kernel
  obtain ⟨x₁, hx₁⟩ := List.length_eq_one_iff.mp hone₁
  obtain ⟨x₂, hx₂⟩ := List.length_eq_one_iff.mp hone₂
  have hmem₁ : x₁ ∈ t₁.transmissions .eu868 d := by
    rw [hx₁]
    exact List.mem_singleton_self x₁
  have hmem₂ : x₂ ∈ t₂.transmissions .eu868
      ((t₁.after .eu868 d).afterAll .eu868 unansweredRun.tail) := by
    rw [hx₂]
    exact List.mem_singleton_self x₂
  obtain ⟨_, _, hbetween⟩ := half_duplex (σ := Simulation.View) .eu868 d
  obtain ⟨hidle, _, _⟩ := half_duplex (σ := Simulation.View) .eu868
    ((t₁.after .eu868 d).afterAll .eu868 unansweredRun.tail)
  -- A frame on air was offered to the radio before.
  have hoffer := (List.mem_filter.mp (Turn.mem_offers_of_transmission hmem₂)).1
  obtain ⟨_, _, _, hbefore, _⟩ := hidle t₂ _ _ _ hoffer
  obtain ⟨pre, t, post, heq, hop, _⟩ := hbetween t₁ unansweredRun.tail t₂ x₁ x₂ hmem₁ hmem₂
  exact ⟨x₁, x₂, hx₁, hx₂, hbefore, pre, t, post, heq, hop⟩

end EndDevice

end LoraLink
