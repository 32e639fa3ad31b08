import LoraLink.Proofs.History

/-!
# Timelines on a heap

Where memory is short, a timeline keeps its events in a binary heap with room for a fixed number of
them. The heap gives the first event away and says which one that is, and leaves open how it keeps
the others.

Such a timeline gives the same answers as one that keeps its events in a list: at any point the
heap holds the events of the list in some order, and the first event is the same whichever way it
is found. So what is proved of the history of the one holds of the other, for every heap that gives
the first event away.
-/

namespace LoraLink

/-! ## Heaps -/

/-- A binary heap of events with the operations that a timeline uses. -/
class EventHeap (η : Type) (ε : outParam Type) where
  /-- How many events there is room for. -/
  capacity (η) : Nat
  new : η
  /-- What is in the heap, in whatever order it is kept. -/
  events : η → List (Timeline.Entry ε)
  push? : Timeline.Entry ε → η → Option η
  pop? : η → Option (Timeline.Entry ε × η)
  peek? : η → Option (Timeline.Entry ε)

/-- A heap that does what it promises. -/
class LawfulEventHeap (η : Type) {ε : Type} [EventHeap η ε] : Prop where
  events_new : EventHeap.events (EventHeap.new : η) = []
  /-- There is room in the heap unless it is full. -/
  push?_eq_none : ∀ {e : Timeline.Entry ε} {heap : η},
    EventHeap.push? e heap = none ↔ EventHeap.capacity η ≤ (EventHeap.events heap).length
  events_push : ∀ {e : Timeline.Entry ε} {heap heap' : η}, EventHeap.push? e heap = some heap' →
    (EventHeap.events heap').Perm (e :: EventHeap.events heap)
  pop?_eq_none : ∀ {heap : η}, EventHeap.pop? heap = none ↔ EventHeap.events heap = []
  events_pop : ∀ {e : Timeline.Entry ε} {heap heap' : η}, EventHeap.pop? heap = some (e, heap') →
    (EventHeap.events heap).Perm (e :: EventHeap.events heap')
  /-- No event is before the one that is given away. -/
  pop?_least : ∀ {e : Timeline.Entry ε} {heap heap' : η}, EventHeap.pop? heap = some (e, heap') →
    ∀ f ∈ EventHeap.events heap, ¬f.Before e
  peek?_eq_none : ∀ {heap : η}, EventHeap.peek? heap = none ↔ EventHeap.events heap = []
  /-- No event is before the one that is shown. -/
  peek?_least : ∀ {e : Timeline.Entry ε} {heap : η}, EventHeap.peek? heap = some e →
    e ∈ EventHeap.events heap ∧ ∀ f ∈ EventHeap.events heap, ¬f.Before e

/-! ## A heap that keeps no order -/

/-- Events as they came, of which the first is looked for when it is needed. -/
structure Pile (ε : Type) (capacity : Nat) where
  events : List (Timeline.Entry ε)

namespace Pile

variable {ε : Type} {n : Nat}

/-- The entry of some that no other is before, and the others. -/
def extract (e : Timeline.Entry ε) :
    List (Timeline.Entry ε) → Timeline.Entry ε × List (Timeline.Entry ε)
  | [] => (e, [])
  | f :: rest =>
    let (g, others) := extract e rest
    if f.Before g then (f, g :: others) else (g, f :: others)

theorem extract_perm (e : Timeline.Entry ε) (xs : List (Timeline.Entry ε)) :
    (e :: xs).Perm ((extract e xs).1 :: (extract e xs).2) := by
  induction xs with
  | nil => exact List.Perm.refl [e]
  | cons f rest ih =>
    -- What is extracted from the rest either stays in front or changes places with `f`.
    have hfront : (e :: f :: rest).Perm (f :: (extract e rest).1 :: (extract e rest).2) :=
      (List.Perm.swap f e rest).trans (ih.cons f)
    rw [extract]
    by_cases hbefore : f.Before (extract e rest).1
    · simp only [hbefore, if_true]
      exact hfront
    · simp only [hbefore, if_false]
      exact hfront.trans (List.Perm.swap _ f _)

theorem extract_least (e : Timeline.Entry ε) (xs : List (Timeline.Entry ε)) :
    ∀ f ∈ e :: xs, ¬f.Before (extract e xs).1 := by
  induction xs with
  | nil =>
    intro f hf hbefore
    rw [List.mem_singleton.mp hf] at hbefore
    exact hbefore.asymm hbefore
  | cons f rest ih =>
    intro g hg
    -- The least of the rest is compared with one more entry, and the smaller of the two is kept.
    have hold : ∀ g ∈ e :: rest, ¬g.Before (extract e rest).1 := ih
    rw [extract]
    by_cases hbefore : f.Before (extract e rest).1
    · simp only [hbefore, if_true]
      intro hg'
      rcases List.mem_cons.mp hg with rfl | hg
      · exact hold _ List.mem_cons_self (hg'.trans hbefore)
      · rcases List.mem_cons.mp hg with rfl | hg
        · exact hg'.asymm hg'
        · exact hold g (List.mem_cons_of_mem e hg) (hg'.trans hbefore)
    · simp only [hbefore, if_false]
      rcases List.mem_cons.mp hg with rfl | hg
      · exact hold _ List.mem_cons_self
      · rcases List.mem_cons.mp hg with rfl | hg
        · exact hbefore
        · exact hold g (List.mem_cons_of_mem e hg)

instance : EventHeap (Pile ε n) ε where
  capacity := n
  new := ⟨[]⟩
  events pile := pile.events
  push? e pile := if pile.events.length < n then some ⟨e :: pile.events⟩ else none
  pop? pile :=
    match pile.events with
    | [] => none
    | e :: rest => some ((extract e rest).1, ⟨(extract e rest).2⟩)
  peek? pile :=
    match pile.events with
    | [] => none
    | e :: rest => some (extract e rest).1

instance : LawfulEventHeap (Pile ε n) where
  events_new := rfl
  push?_eq_none := by
    intro e pile
    simp [EventHeap.push?, EventHeap.capacity, EventHeap.events]
  events_push := by
    intro e pile pile' hpush
    simp only [EventHeap.push?] at hpush
    split at hpush
    · cases hpush
      exact List.Perm.refl _
    · cases hpush
  pop?_eq_none := by
    intro pile
    obtain ⟨events⟩ := pile
    cases events <;> simp [EventHeap.pop?, EventHeap.events]
  events_pop := by
    intro e pile pile' hpop
    obtain ⟨events⟩ := pile
    cases events with
    | nil => cases hpop
    | cons f rest =>
      cases hpop
      exact extract_perm f rest
  pop?_least := by
    intro e pile pile' hpop
    obtain ⟨events⟩ := pile
    cases events with
    | nil => cases hpop
    | cons f rest =>
      cases hpop
      exact extract_least f rest
  peek?_eq_none := by
    intro pile
    obtain ⟨events⟩ := pile
    cases events <;> simp [EventHeap.peek?, EventHeap.events]
  peek?_least := by
    intro e pile hpeek
    obtain ⟨events⟩ := pile
    cases events with
    | nil => cases hpeek
    | cons f rest =>
      cases hpeek
      exact ⟨(extract_perm f rest).mem_iff.mpr List.mem_cons_self, extract_least f rest⟩

end Pile

/-! ## A timeline on a heap -/

/-- A timeline that keeps its events in a heap. -/
structure HeapTimeline (η : Type) where
  now : Instant := .zero
  nextId : Nat := 0
  heap : η

namespace HeapTimeline

variable {η ε : Type} [EventHeap η ε]

/-- The clock is at its start, and nothing is pending. -/
def new : HeapTimeline η := { heap := EventHeap.new }

/-- Schedules an event at an instant, or now if that instant has passed. -/
def scheduleAt (h : HeapTimeline η) (due : Instant) (event : ε) :
    Option (EventId × HeapTimeline η) :=
  let id : EventId := ⟨h.nextId⟩
  let due := if due < h.now then h.now else due
  match EventHeap.push? ⟨due, id, event⟩ h.heap with
  | none => none
  | some heap => some (id, { h with nextId := h.nextId + 1, heap })

/-- Schedules an event some time from now. -/
def schedule (h : HeapTimeline η) (delay : Duration) (event : ε) :
    Option (EventId × HeapTimeline η) :=
  h.scheduleAt (h.now + delay) event

/-- Takes the next event and moves the clock to the instant it was due. -/
def pop (h : HeapTimeline η) : Option (Timeline.Entry ε × HeapTimeline η) :=
  match EventHeap.pop? h.heap with
  | none => none
  | some (e, heap) => some (e, { h with now := e.due, heap })

/-- When the next event is due. -/
def nextDue? (h : HeapTimeline η) : Option Instant := (EventHeap.peek? h.heap).map (·.due)

/-- Moves the clock without firing anything: neither back, nor past the next event. -/
def advanceTo (h : HeapTimeline η) (goal : Instant) : Option (HeapTimeline η) :=
  if goal < h.now || h.nextDue?.any (· < goal) then none else some { h with now := goal }

/-- Does what is asked, and answers what came of it. -/
def act (h : HeapTimeline η) : Timeline.Op ε → Timeline.Answer ε × HeapTimeline η
  | .schedule delay event => Timeline.attempt .scheduled h (h.schedule delay event)
  | .scheduleAt due event => Timeline.attempt .scheduled h (h.scheduleAt due event)
  | .pop => Timeline.attempt .ofNext h h.pop
  | .advanceTo goal => Timeline.attempt .ofMove h ((h.advanceTo goal).map ((), ·))

def clockwork : Clockwork (HeapTimeline η) ε where
  act := act
  now := HeapTimeline.now
  pending h := EventHeap.events h.heap

/-- A scheduling that is refused changes nothing. -/
theorem act_refused {h : HeapTimeline η} {op : Timeline.Op ε}
    (hrefused : (h.act op).1 = .scheduled none) : (h.act op).2 = h := by
  cases op with
  | schedule delay event => exact Timeline.attempt_refused (fun _ => by simp) hrefused
  | scheduleAt due event => exact Timeline.attempt_refused (fun _ => by simp) hrefused
  | pop => exact Timeline.attempt_refused (fun _ => by simp [Timeline.Answer.ofNext]) hrefused
  | advanceTo goal =>
    exact Timeline.attempt_refused (fun _ => by simp [Timeline.Answer.ofMove]) hrefused

end HeapTimeline

/-! ## Timelines in step -/

namespace Clockwork

variable {τ τ' ε : Type}

/-- Two kinds of timelines are in step: they show the same, and answer the same from then on. -/
structure InStep (c : Clockwork τ ε) (c' : Clockwork τ' ε) (R : τ → τ' → Prop) : Prop where
  now : ∀ {t t'}, R t t' → c.now t = c'.now t'
  pending : ∀ {t t'}, R t t' → (c.pending t).Perm (c'.pending t')
  answer : ∀ {t t'}, R t t' → ∀ op, (c.act t op).1 = (c'.act t' op).1
  act : ∀ {t t'}, R t t' → ∀ op, R (c.act t op).2 (c'.act t' op).2

namespace InStep

variable {c : Clockwork τ ε} {c' : Clockwork τ' ε} {R : τ → τ' → Prop} (s : InStep c c' R)

include s

theorem run {t : τ} {t' : τ'} (h : R t t') (ops : List (Timeline.Op ε)) :
    R (c.run t ops) (c'.run t' ops) := by
  induction ops generalizing t t' with
  | nil => exact h
  | cons op ops ih => exact ih (s.act h op)

theorem answers {t : τ} {t' : τ'} (h : R t t') (ops : List (Timeline.Op ε)) :
    c.answers t ops = c'.answers t' ops := by
  induction ops generalizing t t' with
  | nil => rfl
  | cons op ops ih =>
    rw [Clockwork.answers, Clockwork.answers, s.answer h op, ih (s.act h op)]

theorem entry? {t : τ} {t' : τ'} (h : R t t') (op : Timeline.Op ε) :
    c.entry? t op = c'.entry? t' op := by
  unfold Clockwork.entry?
  rw [s.now h, s.answer h op]

theorem fired? {t : τ} {t' : τ'} (h : R t t') (op : Timeline.Op ε) :
    c.fired? t op = c'.fired? t' op := by
  unfold Clockwork.fired?
  rw [s.answer h op, s.now (s.act h op)]

theorem scheduled {t : τ} {t' : τ'} (h : R t t') (ops : List (Timeline.Op ε)) :
    c.scheduled t ops = c'.scheduled t' ops := by
  induction ops generalizing t t' with
  | nil => rfl
  | cons op ops ih =>
    rw [Clockwork.scheduled, Clockwork.scheduled, s.entry? h op, ih (s.act h op)]

theorem popped {t : τ} {t' : τ'} (h : R t t') (ops : List (Timeline.Op ε)) :
    c.popped t ops = c'.popped t' ops := by
  induction ops generalizing t t' with
  | nil => rfl
  | cons op ops ih =>
    rw [Clockwork.popped, Clockwork.popped, s.fired? h op, ih (s.act h op)]

/-- What is in step with a timeline that loses nothing loses nothing. -/
theorem lossless {t : τ} {t' : τ'} {capacity : Nat} (h : R t t') (h' : c'.Lossless capacity t')
    (hrefused : ∀ t op, (c.act t op).1 = .scheduled none → (c.act t op).2 = t) :
    c.Lossless capacity t := by
  -- Each of these facts is about the numbers the two clockworks agree on, so it is carried across.
  refine
    { monotone := ?monotone
      ahead := ?ahead
      ids := ?ids
      full := ?full
      refused := fun ops op => hrefused (c.run t ops) op
      next := ?next
      conserved := ?conserved
      once := ?once
      ordered := ?ordered }
  case monotone =>
    intro ops more
    rw [s.now (s.run h ops), s.now (s.run h (ops ++ more))]
    exact h'.monotone ops more
  case ahead =>
    intro ops e he
    rw [s.now (s.run h ops)]
    exact h'.ahead ops e ((s.pending (s.run h ops)).mem_iff.mp he)
  case ids =>
    intro ops
    rw [s.scheduled h ops]
    exact h'.ids ops
  case full =>
    intro ops op due event hop
    rw [s.now (s.run h ops)] at hop
    rw [s.answer (s.run h ops), (s.pending (s.run h ops)).length_eq]
    exact h'.full ops op due event hop
  case next =>
    intro ops
    rw [s.answer (s.run h ops), h'.next ops]
    have hperm := s.pending (s.run h ops)
    exact ⟨fun hnil => (hnil ▸ hperm).eq_nil, fun hnil => (hnil ▸ hperm).symm.eq_nil⟩
  case conserved =>
    intro ops
    rw [s.scheduled h ops, s.popped h ops]
    exact (h'.conserved ops).trans ((s.pending (s.run h ops)).symm.append_left _)
  case once =>
    intro ops
    rw [s.popped h ops]
    exact h'.once ops
  case ordered =>
    intro ops more hnone
    rw [s.scheduled (s.run h ops)] at hnone
    rw [s.popped (s.run h ops)]
    exact h'.ordered ops more hnone

end InStep

end Clockwork

/-! ## A heap in step with a list -/

/-- An instant that has passed is moved to now. -/
theorem Instant.max_eq (due now : Instant) : max due now = if due < now then now else due := by
  show (if due ≤ now then now else due) = _
  by_cases hlt : due < now
  · have hle : due ≤ now := Nat.le_of_lt hlt
    rw [if_pos hlt, if_pos hle]
  · rw [if_neg hlt]
    by_cases hle : due ≤ now
    · rw [if_pos hle]
      exact Instant.ext (Nat.le_antisymm (Nat.not_lt.mp hlt) hle)
    · rw [if_neg hle]

namespace HeapTimeline

variable {η ε : Type} [EventHeap η ε]

/-- The heap holds the events of the list. -/
structure Matches (h : HeapTimeline η) (t : Timeline ε) : Prop where
  kept : t.Kept
  now : h.now = t.now
  nextId : h.nextId = t.nextId
  events : (EventHeap.events h.heap).Perm t.pending
  capacity : t.capacity = EventHeap.capacity η

/-- Two attempts come to the same: both fail, or both give the same and leave matching timelines. -/
def SameOutcome {α : Type} : Option (α × HeapTimeline η) → Option (α × Timeline ε) → Prop :=
  Option.Rel fun x y => x.1 = y.1 ∧ Matches x.2 y.2

/-- Two attempts that come to the same are answered the same. -/
theorem matches_attempt {α : Type} {answer : Option α → Timeline.Answer ε} {h : HeapTimeline η}
    {t : Timeline ε} (m : Matches h t) {x : Option (α × HeapTimeline η)}
    {y : Option (α × Timeline ε)} (hsame : SameOutcome x y) :
    (Timeline.attempt answer h x).1 = (Timeline.attempt answer t y).1 ∧
      Matches (Timeline.attempt answer h x).2 (Timeline.attempt answer t y).2 := by
  cases hsame with
  | none => exact ⟨rfl, m⟩
  | some hboth =>
    obtain ⟨hgiven, hnext⟩ := hboth
    exact ⟨congrArg (fun a => answer (some a)) hgiven, hnext⟩

/-- An event that no event of a heap is before is the first one of the list. -/
theorem eq_head_of_least {t : Timeline ε} (hkept : t.Kept) {e f : Timeline.Entry ε}
    {rest events : List (Timeline.Entry ε)} (hpending : t.pending = f :: rest)
    (hperm : events.Perm t.pending) (he : e ∈ events) (hleast : ∀ g ∈ events, ¬g.Before e) :
    e = f := by
  have hsorted := hkept.sorted
  rw [hpending] at hsorted hperm
  rcases List.mem_cons.mp (hperm.mem_iff.mp he) with heq | hlater
  · exact heq
  · -- The first one of the list is in the heap too, and before all that come later.
    have hfirst : f.Before e := (List.pairwise_cons.mp hsorted).1 e hlater
    exact absurd hfirst (hleast f (hperm.mem_iff.mpr List.mem_cons_self))

variable [LawfulEventHeap η]

theorem matches_scheduleAt {h : HeapTimeline η} {t : Timeline ε} (m : Matches h t) (due : Instant)
    (event : ε) : SameOutcome (h.scheduleAt due event) (t.scheduleAt due event) := by
  -- The clamp is written as a comparison here and as a maximum there.
  have hdue : (if due < h.now then h.now else due) = max due t.now := by
    rw [m.now, Instant.max_eq]
  have hroom : EventHeap.push? (t.newEntry due event) h.heap = none ↔
      ¬t.pending.length < t.capacity := by
    rw [LawfulEventHeap.push?_eq_none, m.events.length_eq, m.capacity, Nat.not_lt]
  unfold scheduleAt Timeline.scheduleAt
  rw [hdue, m.nextId]
  show SameOutcome (match EventHeap.push? (t.newEntry due event) h.heap with
    | none => none
    | some heap => some (_, _)) _
  cases hpush : EventHeap.push? (t.newEntry due event) h.heap with
  | none =>
    rw [if_neg (hroom.mp hpush)]
    exact .none
  | some heap =>
    have hlt : t.pending.length < t.capacity := by
      by_cases hlt : t.pending.length < t.capacity
      · exact hlt
      · rw [hroom.mpr hlt] at hpush
        cases hpush
    rw [if_pos hlt]
    have hacted : Timeline.Acted t (.scheduleAt due event) _ := .scheduled rfl hlt
    -- The heap keeps its entries in some order, the list in theirs, so they agree up to order only.
    have hadded := LawfulEventHeap.events_push hpush
    refine .some ⟨rfl, Timeline.kept_step m.kept hacted, m.now, rfl, ?_, m.capacity⟩
    exact (hadded.trans (m.events.cons _)).trans (Timeline.enqueue_perm _ t.pending).symm

theorem matches_pop {h : HeapTimeline η} {t : Timeline ε} (m : Matches h t) :
    SameOutcome h.pop t.pop := by
  unfold pop Timeline.pop
  cases hpending : t.pending with
  | nil =>
    have hempty : EventHeap.events h.heap = [] := by
      have hperm := m.events
      rw [hpending] at hperm
      exact hperm.eq_nil
    rw [LawfulEventHeap.pop?_eq_none.mpr hempty]
    exact .none
  | cons f rest =>
    cases hpop : EventHeap.pop? h.heap with
    | none =>
      have hperm := m.events
      rw [LawfulEventHeap.pop?_eq_none.mp hpop, hpending] at hperm
      cases hperm.symm.eq_nil
    | some x =>
      obtain ⟨e, heap⟩ := x
      have hparts := LawfulEventHeap.events_pop hpop
      -- Without the one event they both begin with, the others are still the same.
      have hfirst : e = f := eq_head_of_least m.kept hpending m.events
        (hparts.mem_iff.mpr List.mem_cons_self) (LawfulEventHeap.pop?_least hpop)
      subst hfirst
      have hrest : (EventHeap.events heap).Perm rest := by
        have hboth := hparts.symm.trans m.events
        rw [hpending] at hboth
        exact hboth.cons_inv
      exact .some ⟨rfl, Timeline.kept_step m.kept (.popped hpending), rfl, m.nextId, hrest,
        m.capacity⟩

theorem nextDue?_eq {h : HeapTimeline η} {t : Timeline ε} (m : Matches h t) :
    h.nextDue? = t.nextDue? := by
  unfold nextDue? Timeline.nextDue?
  cases hpeek : EventHeap.peek? h.heap with
  | none =>
    have hperm := m.events
    rw [LawfulEventHeap.peek?_eq_none.mp hpeek] at hperm
    rw [hperm.symm.eq_nil]
    rfl
  | some e =>
    obtain ⟨he, hleast⟩ := LawfulEventHeap.peek?_least hpeek
    obtain ⟨f, rest, hpending⟩ :=
      List.exists_cons_of_ne_nil (List.ne_nil_of_mem (m.events.mem_iff.mp he))
    -- The least entry is unique, since no two of them carry one number.
    rw [eq_head_of_least m.kept hpending m.events he hleast, hpending]
    rfl

theorem matches_advanceTo {h : HeapTimeline η} {t : Timeline ε} (m : Matches h t) (goal : Instant) :
    SameOutcome ((h.advanceTo goal).map ((), ·)) ((t.advanceTo goal).map ((), ·)) := by
  -- Once the clock has moved, the list is still in order; the heap has no part in that.
  have hkept : ((Timeline.attempt (ε := ε) .ofMove t ((t.advanceTo goal).map ((), ·))).2).Kept :=
    Timeline.kept_step m.kept (Timeline.acted t (.advanceTo goal))
  revert hkept
  unfold advanceTo Timeline.advanceTo
  rw [m.now, nextDue?_eq m]
  by_cases hrefused : (goal < t.now || t.nextDue?.any (· < goal)) = true
  · rw [if_pos hrefused, if_pos hrefused]
    exact fun _ => .none
  · rw [if_neg hrefused, if_neg hrefused]
    exact fun hkept => .some ⟨rfl, hkept, rfl, m.nextId, m.events, m.capacity⟩

/-- **A heap stays in step with a list.** -/
theorem inStep : Clockwork.InStep (clockwork (η := η)) Timeline.clockwork Matches := by
  -- Both simulate the same operation, so one step gives the answer and the next pair.
  have hact : ∀ {h : HeapTimeline η} {t : Timeline ε}, Matches h t → ∀ op,
      (h.act op).1 = (t.act op).1 ∧ Matches (h.act op).2 (t.act op).2 := by
    intro h t m op
    cases op with
    | schedule delay event =>
      have hsame : SameOutcome (h.schedule delay event) (t.schedule delay event) := by
        unfold schedule Timeline.schedule
        rw [m.now]
        exact matches_scheduleAt m (t.now + delay) event
      exact matches_attempt m hsame
    | scheduleAt due event => exact matches_attempt m (matches_scheduleAt m due event)
    | pop => exact matches_attempt m (matches_pop m)
    | advanceTo goal => exact matches_attempt m (matches_advanceTo m goal)
  exact
    { now := fun m => m.now
      pending := fun m => m.events
      answer := fun m op => (hact m op).1
      act := fun m op => (hact m op).2 }

/--
**A timeline is a queue that loses nothing.**

This holds of a timeline that keeps its events in a heap, whichever heap that is, and of one that
keeps them in a list; and whatever they are asked, both answer the same. What a node of a simulation
schedules is scheduled on the timeline like any other event.
-/
theorem loses_nothing {η ε : Type} [EventHeap η ε] [LawfulEventHeap η] :
    let empty : Timeline ε := { capacity := EventHeap.capacity η }
    clockwork.Lossless (EventHeap.capacity η) (new : HeapTimeline η) ∧
      Timeline.clockwork.Lossless (EventHeap.capacity η) empty ∧
      (∀ ops, clockwork.answers (new : HeapTimeline η) ops = Timeline.clockwork.answers empty ops) ∧
      ∀ (v : Simulation.View) (delay : Duration) (alarm : Alarm),
        v.timeline.act (.schedule delay (.alarm v.index alarm)) =
          (.scheduled (Host.schedule delay alarm v).1,
            (Host.schedule delay alarm v).2.timeline) := by
  intro empty
  have hstart : Matches (new : HeapTimeline η) empty := by
    refine ⟨Timeline.kept_of_empty rfl, rfl, rfl, ?_, rfl⟩
    show (EventHeap.events (EventHeap.new : η)).Perm []
    rw [LawfulEventHeap.events_new]
  have hlist : Timeline.clockwork.Lossless empty.capacity empty := Timeline.lossless rfl
  refine ⟨inStep.lossless hstart hlist fun h op => act_refused, hlist, inStep.answers hstart, ?_⟩
  -- A device sets its alarms by this very operation of the list timeline.
  intro v delay alarm
  show Timeline.attempt .scheduled v.timeline (v.timeline.schedule delay (.alarm v.index alarm)) = _
  cases hschedule : v.timeline.schedule delay (.alarm v.index alarm) <;>
    simp [Timeline.attempt, Host.schedule, hschedule]

/--
With room for two, a third event is refused, and so is to pass the next one. An event that is
scheduled for the past is due at once, and still goes behind one that has been due since before.
-/
theorem loses_nothing_pile :
    clockwork.Lossless 2 (new : HeapTimeline (Pile Nat 2)) ∧
      clockwork.answers (new : HeapTimeline (Pile Nat 2))
          [.schedule (.ofMicros 5) 1, .scheduleAt (.ofMicros 5) 2, .schedule .zero 3,
            .advanceTo (.ofMicros 6), .pop, .scheduleAt (.ofMicros 1) 4, .pop, .pop, .pop] =
        [.scheduled (some ⟨0⟩), .scheduled (some ⟨1⟩), .scheduled none, .advanced false,
          .popped (some (⟨0⟩, 1)), .scheduled (some ⟨2⟩), .popped (some (⟨1⟩, 2)),
          .popped (some (⟨2⟩, 4)), .popped none] := by
  obtain ⟨hlossless, _, hsame, _⟩ := loses_nothing (η := Pile Nat 2)
  refine ⟨hlossless, ?_⟩
  rw [hsame]
  decide

end HeapTimeline

end LoraLink
