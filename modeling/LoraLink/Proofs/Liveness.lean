import LoraLink.Proofs.Soundness
import LoraLink.Proofs.Timeline

/-!
# No exchange gets stuck

A device waits for alarms, and an alarm that never comes leaves an uplink waiting for ever. Here
the device has a timeline to itself, each alarm that is taken off it is handed to the device, and
nothing that the host is asked fails.

Then each alarm that the device waits for is on the timeline, and as long as an uplink is held, the
device has something to wait for. So once the timeline is empty and nothing is on air or being
received, no uplink is held, and the next one may be sent.
-/

namespace LoraLink

/-! ## Slots and the timeline -/

namespace AlarmSlots

theorem get_set (s : AlarmSlots) (a b : Alarm) (id : Option EventId) :
    (s.set a id).get b = if b = a then id else s.get b := by
  cases a <;> cases b <;> rfl

theorem get_set_of_ne {s : AlarmSlots} {a b : Alarm} {id : Option EventId} (h : b ≠ a) :
    (s.set a id).get b = s.get b := by
  rw [get_set, if_neg h]

theorem eq_of_get {s s' : AlarmSlots} (h : ∀ a, s.get a = s'.get a) : s = s' := by
  have h₁ : s.openRx1 = s'.openRx1 := h .openRx1
  have h₂ : s.closeRx1 = s'.closeRx1 := h .closeRx1
  have h₃ : s.openRx2 = s'.openRx2 := h .openRx2
  have h₄ : s.closeRx2 = s'.closeRx2 := h .closeRx2
  have h₅ : s.retransmit = s'.retransmit := h .retransmit
  cases s
  cases s'
  cases h₁
  cases h₂
  cases h₃
  cases h₄
  cases h₅
  rfl

/-- An alarm whose identifier is held can be told from those that were only once waited for. -/
theorem get_of_get_set_none {s : AlarmSlots} {a b : Alarm} {id : EventId}
    (h : (s.set a none).get b = some id) : b ≠ a ∧ s.get b = some id := by
  rw [get_set] at h
  by_cases hba : b = a
  · rw [if_pos hba] at h
    cases h
  · rw [if_neg hba] at h
    exact ⟨hba, h⟩

/-- Where no alarm is waited for, no window is pending. -/
theorem windowsPending_iff {s : AlarmSlots} : s.windowsPending = true ↔
    ∃ a id, a ≠ .retransmit ∧ s.get a = some id := by
  unfold windowsPending
  constructor
  · intro h
    simp only [Bool.or_eq_true, Option.isSome_iff_exists] at h
    rcases h with ((⟨id, h⟩ | ⟨id, h⟩) | ⟨id, h⟩) | ⟨id, h⟩
    · exact ⟨.openRx1, id, Alarm.noConfusion, h⟩
    · exact ⟨.closeRx1, id, Alarm.noConfusion, h⟩
    · exact ⟨.openRx2, id, Alarm.noConfusion, h⟩
    · exact ⟨.closeRx2, id, Alarm.noConfusion, h⟩
  · rintro ⟨a, id, ha, h⟩
    -- Whichever slot it is, the disjunction of the four is true because of it.
    have hsome : (s.get a).isSome = true := by rw [h]; rfl
    cases a with
    | retransmit => exact absurd rfl ha
    | openRx1 =>
      change s.openRx1.isSome = true at hsome
      rw [hsome, Bool.true_or, Bool.true_or, Bool.true_or]
    | closeRx1 =>
      change s.closeRx1.isSome = true at hsome
      rw [hsome, Bool.or_true, Bool.true_or, Bool.true_or]
    | openRx2 =>
      change s.openRx2.isSome = true at hsome
      rw [hsome, Bool.or_true, Bool.true_or]
    | closeRx2 =>
      change s.closeRx2.isSome = true at hsome
      rw [hsome, Bool.or_true]

theorem windowsPending_set_none {s : AlarmSlots} {a : Alarm} (h : s.windowsPending = false) :
    (s.set a none).windowsPending = false := by
  refine Bool.eq_false_iff.mpr fun hset => ?_
  obtain ⟨b, id, hb, hid⟩ := windowsPending_iff.mp hset
  have hwindow := windowsPending_iff.mpr ⟨b, id, hb, (get_of_get_set_none hid).2⟩
  rw [h] at hwindow
  cases hwindow

end AlarmSlots

/-- The alarms in the slots are pending on the timeline. -/
structure Linked (s : AlarmSlots) (t : Timeline Alarm) : Prop where
  tidy : t.Tidy
  /-- A slot names an event of its own kind. -/
  named : ∀ a id, s.get a = some id → ∃ e ∈ t.pending, e.id = id ∧ e.event = a
  /-- The second window opens after the first. -/
  ordered : ∀ i, s.openRx1 = some i → ∃ j, s.openRx2 = some j ∧ [i, j].Sublist t.ids

theorem linked_of_empty {t : Timeline Alarm} (h : t.pending = []) : Linked {} t := by
  refine ⟨Timeline.tidy_of_empty h, ?_, ?_⟩
  · intro a id hid
    cases a <;> cases hid
  · intro i hi
    cases hi

/-- Alarms may be forgotten, that of the second window only with that of the first. -/
theorem Linked.forget {s s' : AlarmSlots} {t : Timeline Alarm} (h : Linked s t)
    (hsub : ∀ a id, s'.get a = some id → s.get a = some id)
    (hsecond : s'.openRx1.isSome = true → s'.openRx2 = s.openRx2) : Linked s' t := by
  refine ⟨h.tidy, fun a id hid => h.named a id (hsub a id hid), ?_⟩
  intro i hi
  obtain ⟨j, hj, hbefore⟩ := h.ordered i (hsub .openRx1 i hi)
  refine ⟨j, ?_, hbefore⟩
  rw [hsecond (by rw [hi]; rfl), hj]

/-- The alarms stay pending on a timeline that has only more to come. -/
theorem Linked.extend {s : AlarmSlots} {t t' : Timeline Alarm} (h : Linked s t) (htidy : t'.Tidy)
    (hmem : ∀ e ∈ t.pending, e ∈ t'.pending) (hids : t.ids.Sublist t'.ids) : Linked s t' := by
  refine ⟨htidy, ?_, ?_⟩
  · intro a id hid
    obtain ⟨e, he, hsame⟩ := h.named a id hid
    exact ⟨e, hmem e he, hsame⟩
  · intro i hi
    obtain ⟨j, hj, hbefore⟩ := h.ordered i hi
    exact ⟨j, hj, hbefore.trans hids⟩

/-- An alarm that opens no window may be set at any time. -/
theorem Linked.set {s : AlarmSlots} {t t' : Timeline Alarm} (h : Linked s t) {delay : Duration}
    {a : Alarm} {id : EventId} (hid : t.schedule delay a = some (id, t')) (hfirst : a ≠ .openRx1)
    (hsecond : a ≠ .openRx2) : Linked (s.set a (some id)) t' := by
  obtain ⟨hmem, hnew⟩ := Timeline.mem_schedule hid
  have hextended := h.extend (h.tidy.schedule hid) hmem (Timeline.ids_schedule hid)
  refine ⟨hextended.tidy, ?_, ?_⟩
  · intro b j hj
    rw [AlarmSlots.get_set] at hj
    split at hj
    · rename_i hba
      cases hj
      rw [hba]
      exact hnew
    · exact hextended.named b j hj
  -- The order is about the two opening alarms, and this is neither of them.
  · intro i hi
    have hget : (s.set a (some id)).get .openRx1 = s.get .openRx1 := by
      rw [AlarmSlots.get_set, if_neg hfirst.symm]
    have hget' : (s.set a (some id)).get .openRx2 = s.get .openRx2 := by
      rw [AlarmSlots.get_set, if_neg hsecond.symm]
    obtain ⟨j, hj, hbefore⟩ := hextended.ordered i (hget.symm.trans hi)
    exact ⟨j, hget'.trans hj, hbefore⟩

/-- The alarms that open the windows are set together. -/
theorem Linked.windows {s : AlarmSlots} {t t₁ t₂ : Timeline Alarm} (h : Linked s t)
    {d₁ d₂ : Duration} {i j : EventId} (hi : t.schedule d₁ .openRx1 = some (i, t₁))
    (hj : t₁.schedule d₂ .openRx2 = some (j, t₂)) (hle : d₁ ≤ d₂) :
    Linked ((s.set .openRx1 (some i)).set .openRx2 (some j)) t₂ := by
  obtain ⟨hmem₁, e, he, hfirst⟩ := Timeline.mem_schedule hi
  obtain ⟨hmem₂, hsecond⟩ := Timeline.mem_schedule hj
  refine ⟨(h.tidy.schedule hi).schedule hj, ?_, ?_⟩
  · intro a id hid
    rw [AlarmSlots.get_set, AlarmSlots.get_set] at hid
    split at hid
    · rename_i ha
      cases hid
      rw [ha]
      exact hsecond
    split at hid
    · rename_i ha
      cases hid
      rw [ha]
      exact ⟨e, hmem₂ e he, hfirst⟩
    -- An older alarm is still pending after both new ones.
    · obtain ⟨f, hf, hsame⟩ := h.named a id hid
      exact ⟨f, hmem₂ f (hmem₁ f hf), hsame⟩
  -- The second window is set after the first and is not due before it, so it comes later.
  · intro k hk
    cases hk
    exact ⟨j, rfl, Timeline.sublist_schedule_schedule hi hj hle⟩

/-- An event that is taken off the timeline is named by the slot of its kind, or by none. -/
theorem Linked.event_eq {s : AlarmSlots} {t t' : Timeline Alarm} (h : Linked s t)
    {e : Timeline.Entry Alarm} (hpop : t.pop = some (e, t')) {a : Alarm}
    (ha : s.get a = some e.id) : a = e.event := by
  obtain ⟨hpending, _⟩ := Timeline.pop_eq_some hpop
  obtain ⟨f, hf, hid, hevent⟩ := h.named a e.id ha
  have heq : f = e := h.tidy.eq_of_id (by rw [hpending]; exact List.mem_cons_self) hf hid
  rw [← hevent, heq]

/-- What is not taken stays linked. -/
theorem Linked.pop {s : AlarmSlots} {t t' : Timeline Alarm} (h : Linked s t)
    {e : Timeline.Entry Alarm} (hpop : t.pop = some (e, t'))
    (hgone : ∀ a, s.get a ≠ some e.id) : Linked s t' := by
  obtain ⟨hpending, _⟩ := Timeline.pop_eq_some hpop
  refine ⟨(h.tidy.pop hpop).1, ?_, ?_⟩
  · intro a id hid
    obtain ⟨f, hf, hsame, hevent⟩ := h.named a id hid
    rw [hpending] at hf
    -- No slot names the event that is popped, so what a slot names comes after it.
    rcases List.mem_cons.mp hf with rfl | hrest
    · rw [← hsame] at hid
      exact absurd hid (hgone a)
    · exact ⟨f, hrest, hsame, hevent⟩
  · intro i hi
    obtain ⟨j, hj, hbefore⟩ := h.ordered i hi
    refine ⟨j, hj, ?_⟩
    unfold Timeline.ids at hbefore
    rw [hpending, List.map_cons] at hbefore
    cases hbefore with
    | cons _ hrest => exact hrest
    | cons_cons _ _ => exact absurd hi (hgone .openRx1)

/-- The alarm of the second window does not come as long as that of the first is waited for. -/
theorem Linked.first_none {s : AlarmSlots} {t t' : Timeline Alarm} (h : Linked s t)
    {e : Timeline.Entry Alarm} (hpop : t.pop = some (e, t')) (hsecond : s.openRx2 = some e.id) :
    s.openRx1 = none := by
  cases hfirst : s.openRx1 with
  | none => rfl
  | some i =>
    obtain ⟨j, hj, hbefore⟩ := h.ordered i hfirst
    rw [hsecond] at hj
    cases hj
    obtain ⟨hpending, _⟩ := Timeline.pop_eq_some hpop
    have hnotin := (h.tidy.pop hpop).2
    unfold Timeline.ids at hbefore
    rw [hpending, List.map_cons] at hbefore
    -- The first alarm would be taken before, or the second one would still be pending.
    cases hbefore with
    | cons _ hrest => exact absurd (hrest.subset (by simp)) hnotin
    | cons_cons _ hrest => exact absurd (hrest.subset (by simp)) hnotin

/-- An alarm that is taken and no longer waited for leaves the others linked. -/
theorem Linked.fire {s : AlarmSlots} {t t' : Timeline Alarm} (h : Linked s t)
    {e : Timeline.Entry Alarm} (hpop : t.pop = some (e, t')) (hlive : s.get e.event = some e.id) :
    Linked (s.set e.event none) t' := by
  have hsub : ∀ a id, (s.set e.event none).get a = some id → s.get a = some id :=
    fun a id hid => (AlarmSlots.get_of_get_set_none hid).2
  have hforgotten : Linked (s.set e.event none) t := by
    refine h.forget hsub ?_
    intro hfirst
    -- RX2 cannot go off while RX1 is still set, since RX1 comes first.
    cases hevent : e.event with
    | openRx2 =>
      rw [hevent] at hlive hfirst
      have hnone := h.first_none hpop hlive
      change s.openRx1.isSome = true at hfirst
      rw [hnone] at hfirst
      cases hfirst
    | _ => rfl
  -- A slot that still named this event would be of the same kind, and that one is empty.
  refine hforgotten.pop hpop ?_
  intro a ha
  obtain ⟨hne, hget⟩ := AlarmSlots.get_of_get_set_none ha
  exact hne (h.event_eq hpop hget)

/-! ## A host with a timeline for the device -/

/-- A host that keeps the alarms of a device on a timeline. The rest of it may behave in any way. -/
class OwnTimeline (σ : Type) [Host σ] where
  timeline : σ → Timeline Alarm
  /-- The radio is no concern of the timeline. -/
  timeline_request : ∀ q host, timeline (Host.request q host).2 = timeline host
  /-- An alarm that is set is an event that is scheduled. -/
  schedule_eq_some : ∀ {delay a host id}, (Host.schedule delay a host).1 = some id →
    (timeline host).schedule delay a = some (id, timeline (Host.schedule delay a host).2)

namespace Session

variable {ν σ : Type} [Host σ] [OwnTimeline σ]

/-- The timeline in the middle of a call. -/
def timeline (s : Session ν σ) : Timeline Alarm := OwnTimeline.timeline s.host

@[simp] theorem timeline_asked (s : Session ν σ) (q : RadioRequest) :
    (s.asked q).timeline = s.timeline :=
  OwnTimeline.timeline_request q s.host

theorem schedule_timeline {s : Session ν σ} {delay : Duration} {a : Alarm} {id : EventId}
    (h : s.alarmId? delay a = some id) :
    s.timeline.schedule delay a = some (id, (s.scheduled delay a).timeline) :=
  OwnTimeline.schedule_eq_some h

end Session

namespace EndDevice

/-! ## What a device waits for -/

/-- The alarms of a device are in order, and no window is pending while a frame is on air. -/
structure Orderly (d : EndDevice) (t : Timeline Alarm) : Prop where
  linked : Linked d.alarms t
  apart : d.transmitting = true → d.alarms.windowsPending = false ∧ d.deferredClose = none

/-- A device that holds an uplink has something to wait for. -/
structure Going (d : EndDevice) (t : Timeline Alarm) : Prop extends Orderly d t where
  cared : d.held.isSome = true →
    d.rxWindowsPending = true ∨ d.alarms.retransmit.isSome = true

theorem going_init (address : DeviceAddress) (settings : Settings) (plan : Plan)
    {t : Timeline Alarm} (h : t.pending = []) : Going (initial address settings plan) t where
  linked := linked_of_empty h
  apart := fun hon => by cases hon
  cared := fun hheld => by cases hheld

/-- Only its exchange decides what a device waits for. -/
theorem Going.of_eq {d d' : EndDevice} {t : Timeline Alarm} (h : Going d t)
    (halarms : d'.alarms = d.alarms) (hon : d'.transmitting = d.transmitting)
    (hdeferred : d'.deferredClose = d.deferredClose) (hheld : d'.held = d.held) : Going d' t := by
  have hpending : d'.rxWindowsPending = d.rxWindowsPending := by
    unfold rxWindowsPending
    rw [halarms, hon, hdeferred]
  refine { linked := ?_, apart := ?_, cared := ?_ }
  · rw [halarms]
    exact h.linked
  · rw [halarms, hon, hdeferred]
    exact h.apart
  · rw [halarms, hheld, hpending]
    exact h.cared

/-- Alarms that are not pending are not waited for. -/
theorem Going.alarms_of_empty {d : EndDevice} {t : Timeline Alarm} (h : Going d t)
    (hempty : t.pending = []) : d.alarms = {} := by
  refine AlarmSlots.eq_of_get fun a => ?_
  cases ha : d.alarms.get a with
  | none => cases a <;> rfl
  | some id =>
    obtain ⟨e, he, _⟩ := h.linked.named a id ha
    rw [hempty] at he
    cases he

/-- An alarm that is waited for, but for the one for the next attempt, keeps the exchange open. -/
theorem rxWindowsPending_of_alarm {d : EndDevice} {a : Alarm} {id : EventId} (ha : a ≠ .retransmit)
    (hid : d.alarms.get a = some id) : d.rxWindowsPending = true := by
  unfold rxWindowsPending
  rw [AlarmSlots.windowsPending_iff.mpr ⟨a, id, ha, hid⟩, Bool.or_true, Bool.true_or]

theorem rxWindowsPending_of_transmitting {d : EndDevice} (h : d.transmitting = true) :
    d.rxWindowsPending = true := by
  unfold rxWindowsPending
  rw [h, Bool.true_or, Bool.true_or]

theorem rxWindowsPending_of_deferred {d : EndDevice} (h : d.deferredClose.isSome = true) :
    d.rxWindowsPending = true := by
  unfold rxWindowsPending
  rw [h, Bool.or_true]

/-- A device for which a window is pending is not transmitting. -/
theorem Orderly.off {d : EndDevice} {t : Timeline Alarm} (h : Orderly d t) {a : Alarm}
    {id : EventId} (ha : a ≠ .retransmit) (hid : d.alarms.get a = some id) : d.transmitting = false := by
  have hwindow := AlarmSlots.windowsPending_iff.mpr ⟨a, id, ha, hid⟩
  cases hon : d.transmitting with
  | false => rfl
  | true =>
    rw [(h.apart hon).1] at hwindow
    cases hwindow

/-- An alarm that is handed over is not waited for any more when the device looks into it. -/
theorem Orderly.fire {d : EndDevice} {t t' : Timeline Alarm} (h : Orderly d t)
    {e : Timeline.Entry Alarm} (hpop : t.pop = some (e, t'))
    (hlive : d.alarms.get e.event = some e.id) :
    Orderly { d with alarms := d.alarms.set e.event none } t' := by
  refine ⟨h.linked.fire hpop hlive, fun hon => ?_⟩
  obtain ⟨hwindows, hdeferred⟩ := h.apart hon
  exact ⟨AlarmSlots.windowsPending_set_none hwindows, hdeferred⟩

/-- An alarm that was forgotten is no loss. -/
theorem Orderly.stale {d : EndDevice} {t t' : Timeline Alarm} (h : Orderly d t)
    {e : Timeline.Entry Alarm} (hpop : t.pop = some (e, t'))
    (hstale : d.alarms.get e.event ≠ some e.id) : Orderly d t' := by
  refine ⟨h.linked.pop hpop ?_, h.apart⟩
  intro a ha
  have heq := h.linked.event_eq hpop ha
  rw [heq] at ha
  exact hstale ha

/-- Where no exchange is open, a frame may go on air. -/
theorem apart_of_over {d : EndDevice} (h : d.rxWindowsPending = false) :
    d.alarms.windowsPending = false ∧ d.deferredClose = none := by
  unfold rxWindowsPending at h
  rw [Bool.or_eq_false_iff, Bool.or_eq_false_iff] at h
  exact ⟨h.1.2, Option.isSome_eq_false_iff.mp h.2 |> Option.isNone_iff_eq_none.mp⟩

variable {σ : Type} [Host σ] [OwnTimeline σ] {r : Region}

/-- The alarm that closes a window, and that for the next attempt, may be set at their time. -/
theorem Orderly.armed {s : Session EndDevice σ} (h : Orderly s.node s.timeline) {delay : Duration}
    {a : Alarm} {id : EventId} (hid : s.alarmId? delay a = some id) (hfirst : a ≠ .openRx1)
    (hsecond : a ≠ .openRx2) (hoff : a = .retransmit ∨ s.node.transmitting = false) :
    Orderly (armed delay a id s).node (armed delay a id s).timeline := by
  refine ⟨h.linked.set (Session.schedule_timeline hid) hfirst hsecond, ?_⟩
  intro hon
  rcases hoff with rfl | hoff
  · exact h.apart hon
  · change s.node.transmitting = true at hon
    rw [hoff] at hon
    cases hon

/-! ## Calls that end an exchange -/

theorem Concluded.going {received ack : Bool} {s s' : Session EndDevice σ}
    (h : Concluded received ack s (.ok ()) s') (hs : Orderly s.node s.timeline) :
    Going s'.node s'.timeline := by
  cases h with
  | nothing hnone =>
    refine ⟨hs, fun hheld => ?_⟩
    rw [hnone] at hheld
    cases hheld
  | again hheld hagain hid =>
    exact ⟨hs.armed hid Alarm.noConfusion Alarm.noConfusion (Or.inl rfl), fun _ => Or.inr rfl⟩
  | released hheld hlast =>
    refine ⟨⟨hs.linked.forget ?_ (fun _ => rfl), hs.apart⟩, fun hheld => by cases hheld⟩
    exact fun a id hid => (AlarmSlots.get_of_get_set_none hid).2

theorem Orderly.asked {s : Session EndDevice σ} (h : Orderly s.node s.timeline)
    (q : RadioRequest) : Orderly (s.asked q).node (s.asked q).timeline := by
  rw [Session.timeline_asked]
  exact h

theorem Parked.going {s s' : Session EndDevice σ} (h : Parked s (.ok ()) s')
    (hs : Orderly s.node s.timeline) : Going s'.node s'.timeline := by
  cases h with
  | waiting _ hpending =>
    -- The exchange is concluded when the other window closes.
    exact ⟨hs.asked .sleep, fun _ => Or.inl hpending⟩
  | closed _ _ hconclude => exact hconclude.going (hs.asked .sleep)

theorem Closed.going {w : Window} {s s' : Session EndDevice σ} (h : Closed w s (.ok ()) s')
    (hs : Orderly s.node s.timeline) (hoff : s.node.transmitting = false) :
    Going s'.node s'.timeline := by
  cases h with
  | deferred _ =>
    refine ⟨⟨hs.linked, fun hon => ?_⟩, fun _ => Or.inl (rxWindowsPending_of_deferred rfl)⟩
    change s.node.transmitting = true at hon
    rw [hoff] at hon
    cases hon
  | parked _ hpark => exact hpark.going hs

theorem Missed.going {s s' : Session EndDevice σ} (h : Missed s (.ok ()) s')
    (hs : Going s.node s.timeline) : Going s'.node s'.timeline := by
  cases h with
  | nothing _ => exact hs
  | parked _ hpark =>
    have hresumed : Orderly (resumed s).node (resumed s).timeline :=
      ⟨hs.linked, fun hon => ⟨(hs.apart hon).1, rfl⟩⟩
    exact hpark.going hresumed

theorem Answered.going {ack : Bool} {s s' : Session EndDevice σ} (h : Answered ack s (.ok ()) s')
    (hs : Orderly s.node s.timeline) : Going s'.node s'.timeline := by
  cases h with
  | concluded _ hconclude =>
    have hwindowless : Orderly (windowless s).node (windowless s).timeline := by
      refine ⟨hs.linked.forget ?_ (fun hfirst => by cases hfirst), fun _ => ⟨rfl, rfl⟩⟩
      intro a id hid
      cases a with
      | retransmit => exact hid
      | _ => cases hid
    exact hconclude.going (hwindowless.asked .sleep)

theorem Received.going {bytes : List UInt8} {reception : Reception} {s s' : Session EndDevice σ}
    (h : Received r bytes reception s (.ok ()) s') (hs : Going s.node s.timeline) :
    Going s'.node s'.timeline := by
  cases h with
  | foreign _ hmiss => exact hmiss.going hs
  | heard _ hanswer =>
    rename_i frame _
    let status : Status := ⟨reception, Host.battery s.host, Host.externalPower s.host⟩
    obtain ⟨plan, settings, queue, heq⟩ := heeded_eq r status s.node frame
    have hheard : Going (s.node.heeded r status frame).1 s.timeline := by
      rw [heq]
      exact hs.of_eq rfl rfl rfl rfl
    exact hanswer.going hheard.toOrderly

/-! ## Calls that move the windows -/

theorem Tuned.same {w : Window} {s s' : Session EndDevice σ} {res : Except Failure Modulation}
    (h : Tuned r w s res s') : s'.node = s.node ∧ s'.timeline = s.timeline := by
  refine ⟨h.node, ?_⟩
  cases h with
  | noRate _ => rfl
  | unmodulated _ _ => rfl
  | noFrequency _ _ => exact Session.timeline_asked _ _
  | noSpreading _ _ _ _ => rw [Session.timeline_asked, Session.timeline_asked]
  | tuned _ _ _ _ _ _ => rw [Session.timeline_asked, Session.timeline_asked]

/-- A window that is not opened must not be the last thing to wait for. -/
theorem Opened.going {w : Window} {s s' : Session EndDevice σ} (h : Opened r w s (.ok ()) s')
    (hs : Orderly s.node s.timeline) (hoff : s.node.transmitting = false)
    (hrx : Host.radioState s.host = .rx → s.node.rxWindowsPending = true) :
    Going s'.node s'.timeline := by
  cases h with
  -- The radio is receiving, and then a close is put off or a frame is on air.
  | skipped hbusy => exact ⟨hs, fun _ => Or.inl (hrx hbusy)⟩
  | opened hfree htune hstandby h₂ hid =>
    rename_i m id s₁ s₂
    obtain ⟨hnode, htimeline⟩ := htune.same
    -- Asking the radio changes neither the device nor the timeline.
    have hs₂ : Orderly s₂.node s₂.timeline := by
      rw [h₂, Session.timeline_asked, htimeline]
      change Orderly s₁.node s.timeline
      rw [hnode]
      exact hs
    have hoff₂ : s₂.node.transmitting = false := by
      rw [h₂]
      change s₁.node.transmitting = false
      rw [hnode]
      exact hoff
    have hfirst : closeAlarm w ≠ .openRx1 := (openAlarm_ne_closeAlarm .first w).symm
    have hsecond : closeAlarm w ≠ .openRx2 := (openAlarm_ne_closeAlarm .second w).symm
    have hset : (armed (windowLength m s₂) (closeAlarm w) id s₂).node.alarms.get (closeAlarm w) =
        some id := by
      change (s₂.node.alarms.set (closeAlarm w) (some id)).get (closeAlarm w) = some id
      rw [AlarmSlots.get_set, if_pos rfl]
    exact ⟨hs₂.armed hid hfirst hsecond (Or.inr hoff₂),
      fun _ => Or.inl (rxWindowsPending_of_alarm (closeAlarm_ne_retransmit w) hset)⟩

theorem windowDelay_le (r : Region) (d : EndDevice) :
    d.windowDelay r .first ≤ d.windowDelay r .second := by
  change d.rx1Delay r ≤ d.rx1Delay r + .ofSeconds 1
  have hle := (d.rx1Delay r).le_horizon
  rw [Duration.le_def, Duration.micros_add]
  omega

theorem Landed.going {s s' : Session EndDevice σ} (h : Landed r s (.ok ()) s')
    (hs : Going s.node s.timeline) : Going s'.node s'.timeline := by
  cases h with
  | idle _ => exact hs
  | scheduled hon htune hsleep h₂ hi h₃ hj =>
    rename_i m i j s₁ s₂ s₃
    -- The radio is tuned and put to sleep first, which leaves the timeline and the slots alone.
    obtain ⟨hnode, htimeline⟩ := htune.same
    have hnode₂ : s₂.node = (landed s).node := by
      rw [h₂]
      exact hnode
    have htimeline₂ : s₂.timeline = s.timeline := by
      rw [h₂, Session.timeline_asked, htimeline]
      rfl
    have hi' := Session.schedule_timeline hi
    have hj' := Session.schedule_timeline hj
    have hmiddle :
        (s₂.scheduled (s₂.node.windowDelay r .first) .openRx1).timeline = s₃.timeline := by
      rw [h₃]
      rfl
    rw [htimeline₂, hmiddle] at hi'
    have hdelay : s₂.node.windowDelay r .first ≤ s₃.node.windowDelay r .second := by
      rw [h₃]
      exact windowDelay_le r s₂.node
    have hlinked := hs.linked.windows hi' hj' hdelay
    have halarms : s.node.alarms = s₂.node.alarms := by
      rw [hnode₂]
      rfl
    rw [halarms] at hlinked
    subst h₃
    refine ⟨⟨hlinked, fun hstill => ?_⟩, fun _ => Or.inl ?_⟩
    · change s₂.node.transmitting = true at hstill
      rw [hnode₂] at hstill
      cases hstill
    · have hsecond : ((s₂.node.alarms.set .openRx1 (some i)).set .openRx2 (some j)).get .openRx2 =
          some j := rfl
      exact rxWindowsPending_of_alarm (a := .openRx2) Alarm.noConfusion hsecond

/-! ## Calls that put a frame on air -/

/-- A frame that does not go on air changes nothing. -/
theorem Transmitted.same {u : HeldUplink} {i : Nat} {e : Failure} {s s' : Session EndDevice σ}
    (h : Transmitted r u i s (.error e) s') : s'.node = s.node ∧ s'.timeline = s.timeline := by
  refine ⟨h.node, ?_⟩
  cases h with
  | refused _ => exact Session.timeline_asked _ _
  | _ => rfl

theorem Transmitted.onAir_same {u : HeldUplink} {i : Nat} {s s' : Session EndDevice σ}
    (h : Transmitted r u i s (.ok ()) s') :
    ∃ c plan, s'.node = s.node.onAir u c plan ∧ s'.timeline = s.timeline := by
  cases h with
  | onAir _ _ _ _ _ _ => exact ⟨_, _, rfl, Session.timeline_asked _ _⟩

/-- The end of a transmission is something to wait for. -/
theorem Orderly.onAir {d : EndDevice} {t : Timeline Alarm} (h : Orderly d t)
    (hover : d.rxWindowsPending = false) (u : HeldUplink) (c : Channel) (plan : Plan) :
    Going (d.onAir u c plan) t := by
  have hapart := apart_of_over hover
  exact ⟨⟨h.linked, fun _ => hapart⟩, fun _ => Or.inl (rxWindowsPending_of_transmitting rfl)⟩

theorem Retried.going {s s' : Session EndDevice σ} (h : Retried r s (.ok ()) s')
    (hs : Orderly s.node s.timeline) : Going s'.node s'.timeline := by
  cases h with
  | nothing hnone =>
    refine ⟨hs, fun hheld => ?_⟩
    rw [hnone] at hheld
    cases hheld
  | late hpending => exact ⟨hs, fun _ => Or.inl hpending⟩
  -- Where the uplink is dropped there is nothing left to be cared for.
  | blocked _ _ hselect =>
    obtain ⟨g, rfl⟩ := hselect.session
    exact ⟨⟨hs.linked, hs.apart⟩, fun hheld => by cases hheld⟩
  | never _ _ _ => exact ⟨⟨hs.linked, hs.apart⟩, fun hheld => by cases hheld⟩
  | repeated hretry _ hselect hsend =>
    obtain ⟨g, rfl⟩ := hselect.session
    obtain ⟨c, plan, hnode, htimeline⟩ := hsend.onAir_same
    rw [hnode, htimeline]
    exact hs.onAir hretry.closed _ c plan
  | postponed _ _ hid =>
    exact ⟨hs.armed hid Alarm.noConfusion Alarm.noConfusion (Or.inl rfl), fun _ => Or.inr rfl⟩

theorem Counted.exchange {d d' : EndDevice} (h : Counted r d d') : d'.alarms = d.alarms ∧
    d'.transmitting = d.transmitting ∧ d'.deferredClose = d.deferredClose ∧ d'.held = d.held := by
  cases h <;> exact ⟨rfl, rfl, rfl, rfl⟩

theorem Sent.going {payload : List UInt8} {port : UInt8} {confirmed : Bool}
    {s s' : Session EndDevice σ} {res : Except Failure Unit}
    (h : Sent r payload port confirmed s res s') (hs : Going s.node s.timeline) :
    Going s'.node s'.timeline := by
  cases h with
  | pending _ => exact hs
  | misplaced _ _ => exact hs
  | unlimited _ => exact hs
  | tooLong _ _ => exact hs
  | tooSoon _ _ => exact hs
  | unselected hselect =>
    obtain ⟨g, rfl⟩ := hselect.session
    exact hs
  | blocked hselect =>
    obtain ⟨g, rfl⟩ := hselect.session
    exact hs
  | oversized _ _ hselect _ =>
    obtain ⟨g, rfl⟩ := hselect.session
    exact hs
  | failed _ hselect hsend =>
    obtain ⟨g, rfl⟩ := hselect.session
    obtain ⟨hnode, htimeline⟩ := hsend.same
    rw [hnode, htimeline]
    exact hs
  -- The frame is on air, so its end will come whatever is forgotten of the uplink before.
  | sent hclear hselect hsend =>
    rename_i i s₁ s₂
    obtain ⟨g, rfl⟩ := hselect.session
    obtain ⟨c, plan, hnode, htimeline⟩ := hsend.onAir_same
    have hair : Going s₂.node s₂.timeline := by
      rw [hnode, htimeline]
      exact hs.toOrderly.onAir hclear.closed _ c plan
    have hsuperseded : Going (s₂.node.supersede s.node.held) s₂.timeline := by
      have hon : s₂.node.transmitting = true := by
        rw [hnode]
        rfl
      cases hheld : s.node.held with
      | none => exact hair.of_eq rfl rfl rfl rfl
      | some previous =>
        refine ⟨⟨hair.linked.forget ?_ (fun _ => rfl), hair.apart⟩,
          fun _ => Or.inl (rxWindowsPending_of_transmitting hon)⟩
        exact fun a id hid => (AlarmSlots.get_of_get_set_none hid).2
    obtain ⟨halarms, hon, hdeferred, hheld⟩ :=
      (countUplink_cases r (s₂.node.supersede s.node.held)).exchange
    exact hsuperseded.of_eq halarms hon hdeferred hheld

end EndDevice

/-! ## Stations -/

/-- A device and the timeline on which its alarms lie. -/
structure Station where
  device : EndDevice
  timeline : Timeline Alarm

namespace Station

/-- What holds at every station from its start. -/
structure Inv (w : Station) : Prop where
  sound : EndDevice.Sound w.device
  going : EndDevice.Going w.device w.timeline

theorem inv_init {settings : Settings} (hsettings : settings.Valid) (address : DeviceAddress)
    {plan : Plan} (hplan : plan.Covered) {t : Timeline Alarm} (h : t.pending = []) :
    Inv ⟨EndDevice.initial address settings plan, t⟩ :=
  ⟨EndDevice.sound_init hsettings address hplan, EndDevice.going_init address settings plan h⟩

variable {σ : Type} [Host σ]

variable (σ) in
/-- A station at which no exchange is stuck. -/
structure Unstuck (w : Station) : Prop where
  /-- Each alarm that is waited for is one pending event, of its kind. -/
  named : ∀ a id, w.device.alarms.get a = some id →
    (w.timeline.pending.filter fun e => e.id = id).map (·.event) = [a]
  /-- A device that holds an uplink has something to wait for. -/
  cared : w.device.retransmissionPending = true →
    w.device.transmitting = true ∨ w.device.alarms.windowsPending = true ∨
      w.device.deferredClose.isSome = true ∨ w.device.alarms.retransmit.isSome = true
  /-- Where nothing is to come, nothing is waited for, and the next uplink may be sent. -/
  free : w.timeline.pending = [] → w.device.transmitting = false → w.device.deferredClose = none →
    w.device.alarms = {} ∧ w.device.held = none ∧
      ∀ (t : Turn σ) payload port confirmed, t.op = .send payload port confirmed →
        t.result .eu868 w.device ≠ .error (.refused .rxWindowsPending)

/-- A device that has something to wait for gets it. -/
theorem Inv.unstuck {w : Station} (h : Inv w) : Unstuck σ w := by
  refine { named := ?named, cared := ?cared, free := ?free }
  case named =>
    intro a id hid
    obtain ⟨e, he, rfl, rfl⟩ := h.going.linked.named a id hid
    rw [h.going.linked.tidy.filter_id he]
    rfl
  case cared =>
    intro hheld
    rcases h.going.cared hheld with hpending | hretry
    · unfold EndDevice.rxWindowsPending at hpending
      rw [Bool.or_eq_true, Bool.or_eq_true] at hpending
      rcases hpending with (hon | hwindow) | hdeferred
      · exact Or.inl hon
      · exact Or.inr (Or.inl hwindow)
      · exact Or.inr (Or.inr (Or.inl hdeferred))
    · exact Or.inr (Or.inr (Or.inr hretry))
  case free =>
    intro hempty hoff hdeferred
    -- An alarm that is set would be pending on the timeline, which is empty.
    have halarms := h.going.alarms_of_empty hempty
    have hover : w.device.rxWindowsPending = false := by
      unfold EndDevice.rxWindowsPending
      rw [hoff, halarms, hdeferred]
      rfl
    refine ⟨halarms, ?_, ?_⟩
    · cases hheld : w.device.held with
      | none => rfl
      | some u =>
        rcases h.going.cared (by rw [hheld]; rfl) with hpending | hretry
        · rw [hover] at hpending
          cases hpending
        · rw [halarms] at hretry
          cases hretry
    -- A send is refused as pending only if a window is pending, and none is.
    · intro t payload port confirmed hop hrefused
      unfold Turn.result at hrefused
      rcases hrun : t.made .eu868 w.device with ⟨res, s'⟩
      rw [hrun] at hrefused
      dsimp only at hrefused
      subst hrefused
      unfold Turn.made at hrun
      rw [hop] at hrun
      have hpending := (EndDevice.send_cases .eu868 hrun).pending_of_refused
      change w.device.rxWindowsPending = true at hpending
      rw [hover] at hpending
      cases hpending

end Station

/-! ## Runs -/

variable {σ : Type} [Host σ]

/-- Nothing that the host is asked in the call fails. -/
def Turn.Served (t : Turn σ) (d : EndDevice) : Prop :=
  ∀ e, t.result .eu868 d = .error e → e.ofHost = false

/-- May the call be refused? -/
def Op.isRefusable : Op → Bool
  | .send _ _ _ => true
  | .requestLinkCheck => true
  | _ => false

/-- A sound device does what it is asked if its host does. -/
theorem EndDevice.Sound.result_eq_ok {d : EndDevice} (h : Sound d) {t : Turn σ}
    (hserved : t.Served d) (hop : t.op.isRefusable = false) : t.result .eu868 d = .ok () := by
  cases hresult : t.result .eu868 d with
  | ok _ => rfl
  | error e =>
    -- A sound device fails only for its host, or because the call itself is refused.
    cases h.failure t hresult with
    | host hhost =>
      rw [hserved e hresult] at hhost
      cases hhost
    | refused hsend _ =>
      rw [hsend] at hop
      cases hop
    | optionsFull hcheck _ =>
      rw [hcheck] at hop
      cases hop

variable [OwnTimeline σ]

namespace Station

/-- The station after a call. -/
def after (w : Station) (t : Turn σ) : Station :=
  ⟨t.after .eu868 w.device, (t.made .eu868 w.device).2.timeline⟩

variable (σ) in
/-- What may happen at a station. -/
inductive Step : Station → Station → Prop where
  /-- The device is called, though not for an alarm that it waits for. -/
  | call {w : Station} (t : Turn σ) (htimeline : OwnTimeline.timeline t.host = w.timeline)
      (hop : ∀ id a, t.op = .alarm id a → w.device.alarms.get a ≠ some id)
      (hplan : ∀ plan, t.op = .editPlan plan → plan.Covered) (hserved : t.Served w.device) :
      Step w (w.after t)
  /--
  The next alarm is taken off the timeline and handed to the device. A frame is being received when
  the second window should open only if the first one has still to be closed.
  -/
  | fire {w : Station} {e : Timeline.Entry Alarm} (t : Turn σ)
      (hpop : w.timeline.pop = some (e, OwnTimeline.timeline t.host))
      (hop : t.op = .alarm e.id e.event) (hserved : t.Served w.device)
      (hrx : e.event = .openRx2 → w.device.alarms.openRx2 = some e.id →
        Host.radioState t.host = .rx →
          w.device.alarms.closeRx1.isSome = true ∨ w.device.deferredClose.isSome = true) :
      Step w (w.after t)
  /-- Time passes, up to the next alarm at most. -/
  | wait {w : Station} {goal : Instant} {later : Timeline Alarm}
      (h : w.timeline.advanceTo goal = some later) : Step w ⟨w.device, later⟩

variable (σ) in
/-- What a station can come to. -/
inductive Reachable (w₀ : Station) : Station → Prop where
  | start : Reachable w₀ w₀
  | step {w w' : Station} (h : Reachable w₀ w) (hstep : Step σ w w') : Reachable w₀ w'

/-- A call that is not for a live alarm leaves the device something to wait for. -/
theorem going_call {w : Station} (h : Inv w) {t : Turn σ}
    (htimeline : OwnTimeline.timeline t.host = w.timeline)
    (hop : ∀ id a, t.op = .alarm id a → w.device.alarms.get a ≠ some id)
    (hserved : t.Served w.device) : (w.after t).device.Going (w.after t).timeline := by
  have hs : (t.session w.device).node.Going (t.session w.device).timeline := by
    change w.device.Going (OwnTimeline.timeline t.host)
    rw [htimeline]
    exact h.going
  -- Only sends and link checks can be refused; the others are made by a host that serves them.
  have hok : t.op.isRefusable = false → t.result .eu868 w.device = .ok () :=
    fun hcall => h.sound.result_eq_ok hserved hcall
  have hcalled := t.called .eu868 w.device
  change (t.made .eu868 w.device).2.node.Going (t.made .eu868 w.device).2.timeline
  generalize t.result .eu868 w.device = res at hcalled hok
  generalize (t.made .eu868 w.device).2 = s' at hcalled ⊢
  generalize t.op = op at hcalled hok hop
  cases hcalled with
  | send hsent => exact hsent.going hs
  | txFinished hlanded =>
    cases hok rfl
    exact hlanded.going hs
  | receive hreceived =>
    cases hok rfl
    exact hreceived.going hs
  | failedReception hmissed =>
    cases hok rfl
    exact hmissed.going hs
  -- An alarm that is called from outside is stale, since the live ones are fired by the timeline.
  | alarm hrang =>
    have hstale := hop _ _ rfl
    cases hrang with
    | stale _ => exact hs
    | openRx1 hid _ => exact absurd hid hstale
    | closeRx1 hid _ => exact absurd hid hstale
    | openRx2 hid _ => exact absurd hid hstale
    | closeRx2 hid _ => exact absurd hid hstale
    | retransmit hid _ => exact absurd hid hstale
  | requestLinkCheck hqueued =>
    cases hqueued with
    | full _ => exact hs
    | queued _ => exact hs.of_eq rfl rfl rfl rfl
  | editPlan => exact hs.of_eq rfl rfl rfl rfl

/-- An alarm that is handed over leaves the device something to wait for. -/
theorem going_fire {w : Station} (h : Inv w) {t : Turn σ} {e : Timeline.Entry Alarm}
    (hpop : w.timeline.pop = some (e, OwnTimeline.timeline t.host))
    (hop : t.op = .alarm e.id e.event) (hserved : t.Served w.device)
    (hrx : e.event = .openRx2 → w.device.alarms.openRx2 = some e.id →
      Host.radioState t.host = .rx →
        w.device.alarms.closeRx1.isSome = true ∨ w.device.deferredClose.isSome = true) :
    (w.after t).device.Going (w.after t).timeline := by
  have hok : t.result .eu868 w.device = .ok () := by
    refine h.sound.result_eq_ok hserved ?_
    rw [hop]
    rfl
  unfold Turn.result at hok
  change (t.made .eu868 w.device).2.node.Going (t.made .eu868 w.device).2.timeline
  rcases hrun : t.made .eu868 w.device with ⟨res, s'⟩
  rw [hrun] at hok
  cases hok
  unfold Turn.made at hrun
  rw [hop] at hrun
  have hrang := EndDevice.alarm_cases .eu868 hrun
  have horderly := h.going.toOrderly
  have hdisarmed := horderly.fire hpop
  obtain ⟨due, id, a⟩ := e
  dsimp only at hrang hdisarmed hrx
  cases hrang with
  | stale hstale => exact ⟨horderly.stale hpop hstale, h.going.cared⟩
  | openRx1 hid hopen =>
    -- If the first window is skipped, the second one is still to come.
    have hoff := horderly.off (a := .openRx1) Alarm.noConfusion hid
    refine hopen.going (hdisarmed hid) hoff fun _ => ?_
    obtain ⟨j, hj, _⟩ := horderly.linked.ordered id hid
    exact EndDevice.rxWindowsPending_of_alarm (a := .openRx2) Alarm.noConfusion hj
  | closeRx1 hid hclose =>
    exact hclose.going (hdisarmed hid) (horderly.off (a := .closeRx1) Alarm.noConfusion hid)
  | openRx2 hid hopen =>
    -- If the second one is skipped, the first one has still to be closed.
    have hoff := horderly.off (a := .openRx2) Alarm.noConfusion hid
    refine hopen.going (hdisarmed hid) hoff fun hbusy => ?_
    rcases hrx rfl hid hbusy with hclose | hdeferred
    · obtain ⟨j, hj⟩ := Option.isSome_iff_exists.mp hclose
      exact EndDevice.rxWindowsPending_of_alarm (a := .closeRx1) Alarm.noConfusion hj
    · exact EndDevice.rxWindowsPending_of_deferred hdeferred
  | closeRx2 hid hclose =>
    exact hclose.going (hdisarmed hid) (horderly.off (a := .closeRx2) Alarm.noConfusion hid)
  | retransmit hid hretry => exact hretry.going (hdisarmed hid)

/-- **Whatever happens at a station, the device has something to wait for.** -/
theorem inv_step {w w' : Station} (h : Inv w) (hstep : Step σ w w') : Inv w' := by
  cases hstep with
  | call t htimeline hop hplan hserved =>
    exact ⟨EndDevice.sound_step h.sound t hplan, going_call h htimeline hop hserved⟩
  | fire t hpop hop hserved hrx =>
    refine ⟨EndDevice.sound_step h.sound t fun plan hedit => ?_, going_fire h hpop hop hserved hrx⟩
    rw [hop] at hedit
    cases hedit
  -- Waiting moves the clock and nothing else.
  | wait hlater =>
    unfold Timeline.advanceTo at hlater
    split at hlater
    · cases hlater
    · cases hlater
      refine ⟨h.sound, ⟨⟨?_, h.going.apart⟩, h.going.cared⟩⟩
      have hlinked := h.going.linked
      exact ⟨⟨hlinked.tidy.fresh, hlinked.tidy.distinct⟩, hlinked.named, hlinked.ordered⟩

theorem inv_reachable {w₀ w : Station} (h : Inv w₀) (hrun : Reachable σ w₀ w) : Inv w := by
  induction hrun with
  | start => exact h
  | step _ hstep ih => exact inv_step ih hstep

/--
**No exchange gets stuck.**

A device with valid settings starts with nothing on its timeline. Whatever it is called for then,
and however time passes: each alarm that it waits for is still to come, and while it holds an
uplink it waits for something. When nothing is left to come, it is done with the uplink and takes
the next one.
-/
theorem reachable_unstuck {settings : Settings} (hsettings : settings.Valid)
    (address : DeviceAddress) {plan : Plan} (hplan : plan.Covered) {t : Timeline Alarm}
    (hempty : t.pending = []) {w : Station}
    (hrun : Reachable σ ⟨EndDevice.initial address settings plan, t⟩ w) : Unstuck σ w :=
  (inv_reachable (inv_init hsettings address hplan hempty) hrun).unstuck

end Station

/-! ## A host that has nothing else to do -/

/-- A host with one device, whose radio does what it is asked. -/
structure Solo where
  timeline : Timeline Alarm
  radio : Simulation.RadioModel := {}

instance : Host Solo where
  now h := h.timeline.now
  schedule delay a h :=
    match h.timeline.schedule delay a with
    | some (id, timeline) => (some id, { h with timeline })
    | none => (none, h)
  request q h := (true, { h with radio := h.radio.accept q })
  radioState h := h.radio.state
  airtime config len h := h.radio.airtime config len
  battery _ := none
  externalPower _ := false

instance : OwnTimeline Solo where
  timeline := Solo.timeline
  timeline_request _ _ := rfl
  schedule_eq_some := by
    intro delay a host id h
    change (match host.timeline.schedule delay a with
      | some (id, timeline) => (some id, { host with timeline })
      | none => ((none : Option EventId), host)).1 = some id at h
    change host.timeline.schedule delay a = some (id, (match host.timeline.schedule delay a with
      | some (id, timeline) => (some id, { host with timeline })
      | none => ((none : Option EventId), host)).2.timeline)
    cases hschedule : host.timeline.schedule delay a with
    | none =>
      rw [hschedule] at h
      cases h
    | some x =>
      rw [hschedule] at h
      cases h
      rfl

namespace Station

/-- A call of a device that has such a host to itself. -/
def alone (t : Timeline Alarm) (op : Op) : Turn Solo :=
  { op, host := { timeline := t }, random := .scripted [1, 2, 3, 4] }

/-- The call for the next alarm. -/
def alarmTurn? (w : Station) : Option (Turn Solo) :=
  w.timeline.pop.map fun (e, later) => alone later (.alarm e.id e.event)

/-- The station after its next alarm. -/
def fired (w : Station) : Station := (w.alarmTurn?.map w.after).getD w

theorem served_of_toBool {t : Turn Solo} {d : EndDevice} (h : (t.result .eu868 d).toBool = true) :
    t.Served d := by
  intro e he
  rw [he] at h
  cases h

theorem Reachable.called {w₀ w : Station} (h : Reachable Solo w₀ w) {op : Op}
    (halarm : ∀ id a, op ≠ .alarm id a) (hedit : ∀ plan, op ≠ .editPlan plan)
    (hok : ((alone w.timeline op).result .eu868 w.device).toBool = true) :
    Reachable Solo w₀ (w.after (alone w.timeline op)) := by
  refine h.step (.call (alone w.timeline op) rfl ?_ ?_ (served_of_toBool hok))
  · intro id a hop
    exact absurd hop (halarm id a)
  · intro plan hop
    exact absurd hop (hedit plan)

theorem Reachable.fired {w₀ w : Station} (h : Reachable Solo w₀ w)
    (hok : (w.alarmTurn?.any fun t => (t.result .eu868 w.device).toBool) = true) :
    Reachable Solo w₀ w.fired := by
  unfold Station.fired
  unfold alarmTurn? at hok ⊢
  cases hpop : w.timeline.pop with
  | none =>
    rw [hpop] at hok
    cases hok
  | some x =>
    rw [hpop] at hok
    refine h.step (.fire (alone x.2 (.alarm x.1.id x.1.event)) hpop rfl (served_of_toBool hok) ?_)
    -- The radio of the host never receives anything.
    intro _ _ hrx
    cases hrx

/-- After an uplink that nobody answers, the only alarm left is the one for its next attempt. -/
theorem reachable_unstuck_unanswered :
    let w₀ : Station := ⟨EndDevice.initial ⟨5⟩ {} Region.eu868.defaultPlan, { capacity := 8 }⟩
    Settings.Valid {} ∧ Region.eu868.defaultPlan.Covered ∧ w₀.timeline.pending = [] ∧
      ∃ w, Reachable Solo w₀ w ∧ w.device.retransmissionPending = true ∧
        w.timeline.pending.map (·.event) = [.retransmit] ∧ Unstuck Solo w := by
  intro w₀
  let w₁ := w₀.after (alone w₀.timeline (.send [1, 2, 3] 1 true))
  let w₂ := w₁.after (alone w₁.timeline .txFinished)
  have h₁ : Reachable Solo w₀ w₁ := Reachable.start.called (fun _ _ => Op.noConfusion)
    (fun _ => Op.noConfusion) (by decide +kernel)
  have h₂ : Reachable Solo w₀ w₂ := h₁.called (fun _ _ => Op.noConfusion)
    (fun _ => Op.noConfusion) (by decide +kernel)
  -- All four alarms of the windows go off, and the one for the repeat is left.
  have h₃ : Reachable Solo w₀ w₂.fired := h₂.fired (by decide +kernel)
  have h₄ : Reachable Solo w₀ w₂.fired.fired := h₃.fired (by decide +kernel)
  have h₅ : Reachable Solo w₀ w₂.fired.fired.fired := h₄.fired (by decide +kernel)
  have h₆ : Reachable Solo w₀ w₂.fired.fired.fired.fired := h₅.fired (by decide +kernel)
  exact ⟨Settings.valid_default, EndDevice.eu868_covered, rfl, _, h₆, by decide +kernel,
    by decide +kernel,
    reachable_unstuck Settings.valid_default ⟨5⟩ EndDevice.eu868_covered rfl h₆⟩

end Station

end LoraLink
