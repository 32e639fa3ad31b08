import LoraLink.Device.Downlink
import LoraLink.Proofs.Adaptation

/-!
# What downlinks can change

A downlink can do much, but not anything. Of a device it changes plan, settings and queue, and the
two things that depend on the last downlink; the exchange goes on as if nothing had been heard. A
plan keeps its sub-bands and clocks, and a setting is replaced only by what the tables of the
region have.

Nor does the plan ever object. A channel is set only after its slot and its frequency were checked,
so there is no fault in the way of a command, and what a downlink makes of a device is a function.
-/

namespace LoraLink

/-- What one command may make of a plan. -/
inductive Replanned (r : Region) (p : Plan) : Plan → Prop where
  | kept : Replanned r p p
  | selected (statuses : List Bool) : Replanned r p (p.selectChannels statuses)
  | removed (index : Nat) : Replanned r p (p.removeChannel index)
  | created {index frequency : Nat} {lo hi : DataRate}
      (hvalid : p.isValidFrequency frequency = true) (hlo : lo ≤ hi) (hhi : hi ≤ r.uplinkRates.2) :
      Replanned r p (p.putSlot index (some (.ofFrequency frequency lo hi)))
  | rerouted {index frequency : Nat} {q : Plan}
      (h : p.setReplyFrequency? index frequency = some q) : Replanned r p q

theorem Replanned.sameClocks {r : Region} {p q : Plan} (h : Replanned r p q) :
    Plan.SameClocks p q := by
  cases h with
  | kept => exact Plan.SameClocks.refl p
  | selected statuses => exact Plan.sameClocks_selectChannels p statuses
  | removed index => exact Plan.sameClocks_putSlot p index none
  | created _ _ _ => exact Plan.sameClocks_putSlot p _ _
  | rerouted h =>
    obtain ⟨c, _, rfl⟩ := Plan.modifyChannel?_eq_some h
    exact Plan.sameClocks_putSlot p _ _

/-- What one command may make of the settings the tables of a region are asked about. -/
structure Resettled (r : Region) (d : EndDevice) (s : Settings) : Prop where
  dataRate : s.txDataRate = d.settings.txDataRate ∨ s.txDataRate = some (d.dataRate r) ∨
    ∃ rate, s.txDataRate = some rate ∧ rate.inRange r.uplinkRates.1 r.uplinkRates.2 = true
  rx1Offset : s.rx1DataRateOffset = d.settings.rx1DataRateOffset ∨
    ∃ offset, s.rx1DataRateOffset = some offset ∧ offset ≤ 5
  rx2Rate : s.rx2DataRate = d.settings.rx2DataRate ∨
    ∃ rate, s.rx2DataRate = some rate ∧ r.hasModulation rate = true

theorem Resettled.refl (r : Region) (d : EndDevice) : Resettled r d d.settings :=
  ⟨Or.inl rfl, Or.inl rfl, Or.inl rfl⟩

namespace EndDevice

variable (r : Region)

/-! ## Single commands -/

/-- A data rate that a request may ask for is the present one or one for uplinks. -/
theorem requestedRate_eq_some {d : EndDevice} {p : LinkADRReq} {rate : DataRate}
    (h : d.requestedRate r p = some rate) :
    rate = d.dataRate r ∨ rate.inRange r.uplinkRates.1 r.uplinkRates.2 = true := by
  unfold requestedRate at h
  split at h
  · cases h
    exact Or.inl rfl
  · split at h
    · split at h
      · rename_i hrange
        cases h
        exact Or.inr (Bool.and_eq_true_iff.mp hrange).1
      · cases h
    · cases h

theorem requestedRange_eq_some {p : NewChannelReq} {lo hi : DataRate}
    (h : requestedRange r p = some (lo, hi)) : lo ≤ hi ∧ hi ≤ r.uplinkRates.2 := by
  unfold requestedRange at h
  split at h
  · split at h
    · rename_i hrange
      cases h
      exact hrange
    · cases h
  · cases h

/-- What a command makes of a device. -/
structure HandledAs (d : EndDevice) (h : Handled) : Prop where
  device : ∃ plan settings, h.device = { d with plan, settings } ∧ Replanned r d.plan plan
    ∧ Resettled r d settings
  answer : ∀ a, h.answer = some a → a.direction = .up
  actions : ∀ a ∈ h.actions, a.isSignal = false

theorem handledAs_unchanged {d : EndDevice} {h : Handled} (hd : h.device = d)
    (answer : ∀ a, h.answer = some a → a.direction = .up)
    (actions : ∀ a ∈ h.actions, a.isSignal = false) : HandledAs r d h :=
  ⟨⟨d.plan, d.settings, hd, .kept, .refl r d⟩, answer, actions⟩

theorem handledAs_linkADR (d : EndDevice) (p : LinkADRReq) :
    HandledAs r d (d.handleLinkADR r p) := by
  unfold handleLinkADR
  dsimp only
  split
  · rename_i mask rate power hmask hrate hpower
    split
    · refine ⟨⟨_, _, rfl, .selected _, ?_⟩, ?_, ?_⟩
      · refine ⟨Or.inr ?_, Or.inl rfl, Or.inl rfl⟩
        -- The data rate is either the present one or was asked for, and then it is in range.
        rcases requestedRate_eq_some r hrate with rfl | hrange
        · exact Or.inl rfl
        · exact Or.inr ⟨rate, rfl, hrange⟩
      · intro a ha
        cases ha
        rfl
      · intro a ha
        obtain ⟨e, he, rfl⟩ := List.mem_map.mp ha
        rcases List.mem_append.mp he with he | he
        · exact setDataRate_quiet r _ _ e he
        · exact setPower_quiet r _ _ e he
    · exact handledAs_unchanged r rfl (fun a ha => by cases ha; rfl) (fun a ha => by cases ha)
  · exact handledAs_unchanged r rfl (fun a ha => by cases ha; rfl) (fun a ha => by cases ha)

theorem handledAs_rxParamSetup (d : EndDevice) (p : RXParamSetupReq) :
    HandledAs r d (d.handleRxParamSetup r p) := by
  unfold handleRxParamSetup
  dsimp only
  refine ⟨?_, fun a ha => by cases ha; rfl, fun a ha => by cases ha⟩
  dsimp only
  split
  · rename_i rate hoffset hrate
    refine ⟨d.plan, _, rfl, .kept, Or.inl rfl, Or.inr ⟨_, rfl, of_decide_eq_true hoffset⟩, ?_⟩
    exact Or.inr ⟨rate, rfl, (Option.filter_eq_some_iff.mp hrate).2⟩
  · exact ⟨d.plan, d.settings, rfl, .kept, .refl r d⟩

/-- A request about a channel replaces the plan and nothing else. -/
theorem handledAs_replanned {d : EndDevice} {plan : Plan} {h : Handled}
    (hplan : Replanned r d.plan plan) (hd : h.device = { d with plan })
    (answer : ∀ a, h.answer = some a → a.direction = .up)
    (actions : ∀ a ∈ h.actions, a.isSignal = false) : HandledAs r d h :=
  ⟨⟨plan, d.settings, hd, hplan, .refl r d⟩, answer, actions⟩

/-- What a request asks to be in its slot. -/
def newChannel? (p : NewChannelReq) (lo hi : DataRate) : Option Channel :=
  if p.frequency.hertz = 0 then none else some (.ofFrequency p.frequency.hertz lo hi)

/-- Does the slot exist, and does the frequency have a sub-band, if there is one? -/
def mayPlace (d : EndDevice) (p : NewChannelReq) : Bool :=
  p.channelIndex.toNat < channelSlots &&
    (p.frequency.hertz = 0 || d.plan.isValidFrequency p.frequency.hertz)

/-- The plan after a request for a channel. -/
def replan (d : EndDevice) (p : NewChannelReq) : Plan :=
  match d.mayPlace p, requestedRange r p with
  | true, some (lo, hi) => d.plan.putSlot p.channelIndex.toNat (newChannel? p lo hi)
  | _, _ => d.plan

/-- What a request for a channel makes of a device. -/
def rechanneled (d : EndDevice) (p : NewChannelReq) : Handled :=
  let answer := (NewChannelAns.mk 0).setDataRateRangeAck (requestedRange r p).isSome
  { device := { d with plan := d.replan r p }
    answer := some (.newChannelAns (answer.setFrequencyAck (d.mayPlace p))) }

/-- Setting a channel does not fault: the slot exists, and the frequency has a sub-band. -/
theorem handleNewChannel_eq (d : EndDevice) (p : NewChannelReq) :
    d.handleNewChannel r p = .ok (d.rechanneled r p) := by
  have hflag : (decide (p.channelIndex.toNat < channelSlots) &&
      (decide (p.frequency.hertz = 0) || d.plan.isValidFrequency p.frequency.hertz)) =
        d.mayPlace p := rfl
  unfold handleNewChannel rechanneled replan
  dsimp only
  rw [hflag]
  cases hplace : d.mayPlace p with
  | false => rfl
  | true =>
    cases requestedRange r p with
    | none => rfl
    | some range =>
      obtain ⟨lo, hi⟩ := range
      obtain ⟨hindex, hfrequency⟩ := Bool.and_eq_true_iff.mp hplace
      unfold newChannel?
      dsimp only
      by_cases hoff : p.frequency.hertz = 0
      · rw [if_pos hoff, if_pos hoff]
        rfl
      · -- The frequency lies in a sub-band, since it is not 0, so the plan takes the channel.
        have hband := (Bool.or_eq_true_iff.mp hfrequency).resolve_left
          (fun h => hoff (of_decide_eq_true h))
        have hset := Plan.setChannel_eq_ok (c := .ofFrequency p.frequency.hertz lo hi)
          (of_decide_eq_true hindex) hband
        rw [if_neg hoff, if_neg hoff, hset]
        rfl

theorem replanned_replan (d : EndDevice) (p : NewChannelReq) :
    Replanned r d.plan (d.replan r p) := by
  unfold replan newChannel?
  split
  · rename_i lo hi hplace hrange
    obtain ⟨-, hfrequency⟩ := Bool.and_eq_true_iff.mp hplace
    obtain ⟨hlo, hhi⟩ := requestedRange_eq_some r hrange
    split
    · exact .removed _
    · rename_i hne
      exact .created ((Bool.or_eq_true_iff.mp hfrequency).resolve_left
        (fun h => hne (of_decide_eq_true h))) hlo hhi
  · exact .kept

theorem handledAs_dlChannel (d : EndDevice) (p : DlChannelReq) :
    HandledAs r d (d.handleDlChannel p) := by
  unfold handleDlChannel
  dsimp only
  refine handledAs_replanned r ?_ rfl (fun a ha => by cases ha; rfl) (fun a ha => by cases ha)
  split
  · cases hq : d.plan.setReplyFrequency? p.channelIndex.toNat p.frequency.hertz with
    | none => exact .kept
    | some q => exact .rerouted hq
  · exact .kept

/-- Whatever the command: it goes through, changes plan and settings within bounds, answers the
network, and says nothing of the uplink. -/
theorem handle_isOk (s : Status) (d : EndDevice) (c : Command) :
    ∃ h, d.handle r s c = .ok h ∧ HandledAs r d h := by
  -- Only a new channel could fault, and its handler writes where it has checked before.
  cases c with
  | linkADRReq p => exact ⟨_, rfl, handledAs_linkADR r d p⟩
  | rxParamSetupReq p => exact ⟨_, rfl, handledAs_rxParamSetup r d p⟩
  | newChannelReq p =>
    exact ⟨_, handleNewChannel_eq r d p, handledAs_replanned r (replanned_replan r d p) rfl
      (fun a ha => by cases ha; rfl) (fun a ha => by cases ha)⟩
  | dlChannelReq p => exact ⟨_, rfl, handledAs_dlChannel r d p⟩
  | dutyCycleReq p =>
    exact ⟨_, rfl, ⟨d.plan, _, rfl, .kept, Or.inl rfl, Or.inl rfl, Or.inl rfl⟩,
      fun a ha => by cases ha; rfl, fun a ha => by cases ha⟩
  | rxTimingSetupReq p =>
    exact ⟨_, rfl, ⟨d.plan, _, rfl, .kept, Or.inl rfl, Or.inl rfl, Or.inl rfl⟩,
      fun a ha => by cases ha; rfl, fun a ha => by cases ha⟩
  | linkCheckAns p =>
    refine ⟨_, rfl, handledAs_unchanged r rfl (fun a ha => by cases ha) ?_⟩
    intro a ha
    rcases List.mem_cons.mp ha with rfl | ha
    · rfl
    · cases List.mem_singleton.mp ha
      rfl
  | devStatusReq =>
    exact ⟨_, rfl, handledAs_unchanged r rfl (fun a ha => by cases ha; rfl)
      (fun a ha => by cases ha)⟩
  | txParamSetupReq p =>
    refine ⟨_, rfl, handledAs_unchanged r rfl ?_ (fun a ha => by cases ha)⟩
    intro a ha
    dsimp only at ha
    split at ha
    · cases ha
      rfl
    · cases ha
  | _ =>
    exact ⟨_, rfl, handledAs_unchanged r rfl (fun a ha => by cases ha) (fun a ha => by cases ha)⟩

/-! ## What comes of downlinks -/

/-- What a command makes of a device; there is no fault that it would have to be completed for. -/
def handled (s : Status) (d : EndDevice) (c : Command) : Handled :=
  match d.handle r s c with
  | .ok h => h
  | .error _ => { device := d }

theorem handled_of_eq_ok {s : Status} {d : EndDevice} {c : Command} {h : Handled}
    (hh : d.handle r s c = .ok h) : d.handled r s c = h := by
  unfold handled
  rw [hh]

theorem handled_newChannel (s : Status) (d : EndDevice) (p : NewChannelReq) :
    d.handled r s (.newChannelReq p) = d.rechanneled r p :=
  handled_of_eq_ok r (handleNewChannel_eq r d p)

theorem handle_eq (s : Status) (d : EndDevice) (c : Command) :
    d.handle r s c = .ok (d.handled r s c) := by
  obtain ⟨h, hh, -⟩ := handle_isOk r s d c
  rw [handled_of_eq_ok r hh, hh]

theorem handledAs_handled (s : Status) (d : EndDevice) (c : Command) :
    HandledAs r d (d.handled r s c) := by
  obtain ⟨h, hh, has⟩ := handle_isOk r s d c
  rw [handled_of_eq_ok r hh]
  exact has

/-- What commands make of a device one after the other, each with the answer it queues. -/
def handledAll (s : Status) (d : EndDevice) : List Command → EndDevice × List Action
  | [] => (d, [])
  | c :: rest =>
    let h := d.handled r s c
    let (d, actions) := (h.device.queueAnswer h.answer).handledAll s rest
    (d, h.actions ++ actions)

theorem handleAll_eq_ok (s : Status) (d : EndDevice) (cs : List Command) :
    d.handleAll r s cs = .ok (d.handledAll r s cs) := by
  induction cs generalizing d with
  | nil => rfl
  | cons c rest ih =>
    rw [handleAll, handle_eq]
    dsimp only
    rw [ih]
    rfl

/-- What a downlink makes of a device. -/
def heeded (s : Status) (d : EndDevice) (frame : DataFrame) : EndDevice × List Action :=
  let (d, actions) := (d.noteDownlink frame).handledAll r s frame.commands.1
  let payload := if frame.port = some 0 then [] else frame.payload
  (d, actions ++ [.event (.received frame.port payload s.reception)])

/-- **No downlink meets with a fault**, in whatever state it finds the device. -/
theorem takeDownlink_eq_ok (s : Status) (d : EndDevice) (frame : DataFrame) :
    d.takeDownlink r s frame = .ok (d.heeded r s frame) := by
  unfold takeDownlink
  rw [handleAll_eq_ok]
  rfl

/-! ## What they leave -/

/-- An answer finds room in the queue, or is lost. -/
theorem queueAnswer_cases (d : EndDevice) (answer : Option Command) :
    d.queueAnswer answer = d ∨ ∃ a, answer = some a ∧ d.queue.length < queueCapacity
      ∧ d.queueAnswer answer = { d with queue := d.queue ++ [a] } := by
  cases answer with
  | none => exact Or.inl rfl
  | some a =>
    unfold queueAnswer
    dsimp only
    unfold enqueue?
    by_cases hroom : d.queue.length < queueCapacity
    · rw [if_pos hroom]
      exact Or.inr ⟨a, rfl, hroom, rfl⟩
    · rw [if_neg hroom]
      exact Or.inl rfl

/-- What every command preserves, with the answer it queues, is preserved by all of them. -/
theorem handledAll_induction {P : EndDevice → Prop} {s : Status}
    (step : ∀ d plan settings, P d → Replanned r d.plan plan → Resettled r d settings →
      P { d with plan, settings })
    (answer : ∀ d a, P d → a.direction = .up → d.queue.length < queueCapacity →
      P { d with queue := d.queue ++ [a] })
    {d : EndDevice} (hd : P d) (cs : List Command) : P (d.handledAll r s cs).1 := by
  -- By induction on the commands: each is handled, and then its answer queued if there is room.
  induction cs generalizing d with
  | nil => exact hd
  | cons c rest ih =>
    refine ih ?_
    have hc := handledAs_handled r s d c
    obtain ⟨plan, settings, hdevice, hplan, hsettings⟩ := hc.device
    have hstep := step d plan settings hd hplan hsettings
    rw [← hdevice] at hstep
    rcases queueAnswer_cases (d.handled r s c).device (d.handled r s c).answer with
      hq | ⟨a, ha, hroom, hq⟩
    · rw [hq]
      exact hstep
    · rw [hq]
      exact answer _ a hstep (hc.answer a ha) hroom

theorem handledAll_quiet (s : Status) (d : EndDevice) (cs : List Command) :
    ∀ a ∈ (d.handledAll r s cs).2, a.isSignal = false := by
  induction cs generalizing d with
  | nil =>
    intro a ha
    cases ha
  | cons c rest ih =>
    intro a ha
    rcases List.mem_append.mp ha with ha | ha
    · exact (handledAs_handled r s d c).actions a ha
    · exact ih _ a ha

/-- What every command preserves holds after a downlink if it holds once the downlink was noted. -/
theorem heeded_induction {P : EndDevice → Prop} {s : Status}
    (step : ∀ d plan settings, P d → Replanned r d.plan plan → Resettled r d settings →
      P { d with plan, settings })
    (answer : ∀ d a, P d → a.direction = .up → d.queue.length < queueCapacity →
      P { d with queue := d.queue ++ [a] })
    {d : EndDevice} {frame : DataFrame} (hd : P (d.noteDownlink frame)) :
    P (d.heeded r s frame).1 :=
  handledAll_induction r step answer hd frame.commands.1

/-- A downlink leaves everything as it is but plan, settings, queue, and what depends on the last
downlink. -/
theorem heeded_eq (s : Status) (d : EndDevice) (frame : DataFrame) :
    ∃ plan settings queue, (d.heeded r s frame).1 =
      { d with
        plan, settings, queue
        adrAckCount := 0
        ackDue := d.ackDue || frame.isConfirmed } := by
  refine heeded_induction r (P := fun x => ∃ plan settings queue, x =
    { d with plan, settings, queue, adrAckCount := 0, ackDue := d.ackDue || frame.isConfirmed })
    ?_ ?_ ⟨d.plan, d.settings, _, rfl⟩
  · rintro _ plan settings ⟨_, _, queue, rfl⟩ _ _
    exact ⟨plan, settings, queue, rfl⟩
  · rintro _ a ⟨plan, settings, queue, rfl⟩ _ _
    exact ⟨plan, settings, queue ++ [a], rfl⟩

/-- A downlink moves no clock. -/
theorem heeded_sameClocks (s : Status) (d : EndDevice) (frame : DataFrame) :
    Plan.SameClocks d.plan (d.heeded r s frame).1.plan := by
  refine heeded_induction r (P := fun x => Plan.SameClocks d.plan x.plan) ?_ ?_
    (Plan.SameClocks.refl d.plan)
  · intro x plan settings hx hplan _
    exact hx.trans hplan.sameClocks
  · intro x a hx _ _
    exact hx

theorem heeded_quiet (s : Status) (d : EndDevice) (frame : DataFrame) :
    ∀ a ∈ (d.heeded r s frame).2, a.isSignal = false := by
  intro a ha
  rcases List.mem_append.mp ha with ha | ha
  · exact handledAll_quiet r s _ _ a ha
  · cases List.mem_singleton.mp ha
    rfl

end EndDevice

end LoraLink
