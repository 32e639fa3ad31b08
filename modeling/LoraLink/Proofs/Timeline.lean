import LoraLink.Timeline
import LoraLink.Proofs.Plan

/-!
# What a timeline keeps

Identifiers count up, so no two pending events share one. An event stays where it is until it is
taken; and of two events of which the second is scheduled right after the first, and for no
earlier, the first is also taken first.
-/

namespace LoraLink

/-- The clock stops at its end, so it never goes back by waiting. -/
theorem Instant.max_add (now : Instant) (d : Duration) : max (now + d) now = now + d := by
  have hle : now ≤ now + d := by
    have hnow := now.le_horizon
    rw [Instant.le_def, Instant.micros_add]
    omega
  change (if now + d ≤ now then now else now + d) = now + d
  split
  · rename_i hback
    exact Instant.ext (Nat.le_antisymm hle hback)
  · rfl

/-- To wait longer is to be later. -/
theorem Instant.max_add_le {now : Instant} {d d' : Duration} (h : d ≤ d') :
    max (now + d) now ≤ max (now + d') now := by
  have hadd : now + d ≤ now + d' := by
    rw [Duration.le_def] at h
    rw [Instant.le_def, Instant.micros_add, Instant.micros_add]
    omega
  change (if now + d ≤ now then now else now + d) ≤ max (now + d') now
  split
  · exact Instant.le_max_right _ _
  · exact Instant.le_trans hadd (Instant.le_max_left _ _)

namespace Timeline

variable {ε : Type}

/-! ## Putting an entry in its place -/

theorem enqueue_perm (e : Entry ε) (xs : List (Entry ε)) : (enqueue e xs).Perm (e :: xs) := by
  induction xs with
  | nil => exact List.Perm.refl [e]
  | cons f rest ih =>
    unfold enqueue
    split
    · exact List.Perm.refl _
    · exact (ih.cons f).trans (List.Perm.swap e f rest)

/-- The entries that are there stay in their order. -/
theorem sublist_enqueue (e : Entry ε) (xs : List (Entry ε)) : xs.Sublist (enqueue e xs) := by
  induction xs with
  | nil => exact List.nil_sublist _
  | cons f rest ih =>
    unfold enqueue
    split
    · exact List.sublist_cons_self e (f :: rest)
    · exact ih.cons_cons f

theorem mem_enqueue {e f : Entry ε} {xs : List (Entry ε)} : f ∈ enqueue e xs ↔ f = e ∨ f ∈ xs := by
  rw [(enqueue_perm e xs).mem_iff, List.mem_cons]

/-- An entry that is due no earlier than one that was put in its place before comes behind it. -/
theorem sublist_enqueue_enqueue {e f : Entry ε} (h : e.due ≤ f.due) (xs : List (Entry ε)) :
    [e, f].Sublist (enqueue f (enqueue e xs)) := by
  have hbehind : ∀ ys, enqueue f (e :: ys) = e :: enqueue f ys := by
    intro ys
    rw [enqueue, if_neg]
    rw [Instant.le_def] at h
    rw [Instant.lt_def]
    omega
  have hpair : ∀ ys, [e, f].Sublist (e :: enqueue f ys) := by
    intro ys
    refine List.Sublist.cons_cons e (List.singleton_sublist.mpr ?_)
    exact mem_enqueue.mpr (Or.inl rfl)
  induction xs with
  | nil =>
    change [e, f].Sublist (enqueue f [e])
    rw [hbehind]
    exact hpair []
  | cons g rest ih =>
    rw [enqueue]
    split
    · rw [hbehind]
      exact hpair _
    · rename_i hge
      -- What does not come behind the earlier entry does not come behind the later one either.
      rw [enqueue, if_neg]
      · exact ih.cons g
      · rw [Instant.le_def] at h
        rw [Instant.lt_def] at hge ⊢
        omega

/-! ## Identifiers -/

/-- The identifiers of the pending events, in the order in which they will fire. -/
def ids (t : Timeline ε) : List EventId := t.pending.map (·.id)

/--
Every pending event can be told from every other, and from those that are still to be scheduled.
-/
structure Tidy (t : Timeline ε) : Prop where
  fresh : ∀ e ∈ t.pending, e.id.seq < t.nextId
  distinct : t.ids.Nodup

theorem tidy_of_empty {t : Timeline ε} (h : t.pending = []) : t.Tidy := by
  refine ⟨?_, ?_⟩
  · intro e he
    rw [h] at he
    cases he
  · unfold ids
    rw [h]
    exact List.nodup_nil

/-- An identifier of a pending event names no other one. -/
theorem Tidy.filter_id {t : Timeline ε} (h : t.Tidy) {e : Entry ε} (he : e ∈ t.pending) :
    t.pending.filter (fun f => f.id = e.id) = [e] := by
  have hnodup : (t.pending.map (·.id)).Nodup := h.distinct
  clear h
  generalize t.pending = xs at hnodup he ⊢
  -- By induction over the queue: past the entry that is sought no other has its number.
  induction xs with
  | nil => cases he
  | cons f rest ih =>
    rw [List.map_cons, List.nodup_cons] at hnodup
    obtain ⟨hnew, hrest⟩ := hnodup
    rcases List.mem_cons.mp he with rfl | hmem
    · rw [List.filter_cons_of_pos (by simp)]
      have hnone : rest.filter (fun f => f.id = e.id) = [] := by
        refine List.filter_eq_nil_iff.mpr fun f hf hid => hnew ?_
        rw [← of_decide_eq_true hid]
        exact List.mem_map_of_mem hf
      rw [hnone]
    · have hne : f.id ≠ e.id := by
        intro hid
        refine hnew ?_
        rw [hid]
        exact List.mem_map_of_mem hmem
      rw [List.filter_cons_of_neg (by simpa using hne)]
      exact ih hrest hmem

theorem Tidy.eq_of_id {t : Timeline ε} (h : t.Tidy) {e f : Entry ε} (he : e ∈ t.pending)
    (hf : f ∈ t.pending) (hid : f.id = e.id) : f = e := by
  have hmem : f ∈ t.pending.filter (fun f => f.id = e.id) :=
    List.mem_filter.mpr ⟨hf, decide_eq_true hid⟩
  rw [h.filter_id he] at hmem
  exact List.mem_singleton.mp hmem

/-! ## Scheduling -/

theorem schedule_eq_some {t t' : Timeline ε} {delay : Duration} {event : ε} {id : EventId}
    (h : t.schedule delay event = some (id, t')) :
    id = ⟨t.nextId⟩ ∧ t' = { t with
      nextId := t.nextId + 1
      pending := enqueue ⟨max (t.now + delay) t.now, ⟨t.nextId⟩, event⟩ t.pending } := by
  unfold schedule scheduleAt at h
  split at h
  · cases h
    exact ⟨rfl, rfl⟩
  · cases h

theorem ids_schedule {t t' : Timeline ε} {delay : Duration} {event : ε} {id : EventId}
    (h : t.schedule delay event = some (id, t')) : t.ids.Sublist t'.ids := by
  obtain ⟨_, rfl⟩ := schedule_eq_some h
  exact (sublist_enqueue _ t.pending).map _

/-- What was pending stays so, and the new event is found under its identifier. -/
theorem mem_schedule {t t' : Timeline ε} {delay : Duration} {event : ε} {id : EventId}
    (h : t.schedule delay event = some (id, t')) :
    (∀ e ∈ t.pending, e ∈ t'.pending) ∧ ∃ e ∈ t'.pending, e.id = id ∧ e.event = event := by
  obtain ⟨rfl, rfl⟩ := schedule_eq_some h
  refine ⟨fun e he => mem_enqueue.mpr (Or.inr he), ?_⟩
  exact ⟨_, mem_enqueue.mpr (Or.inl rfl), rfl, rfl⟩

/-- What is scheduled is due after the delay. -/
theorem mem_of_schedule {t t' : Timeline ε} {delay : Duration} {event : ε} {id : EventId}
    (h : t.schedule delay event = some (id, t')) : ⟨t.now + delay, id, event⟩ ∈ t'.pending := by
  obtain ⟨rfl, rfl⟩ := schedule_eq_some h
  refine mem_enqueue.mpr (Or.inl ?_)
  rw [Instant.max_add]

/-- An entry under the next identifier can be told from all that are there. -/
theorem Tidy.enqueue {t : Timeline ε} (ht : t.Tidy) (due : Instant) (event : ε) :
    Tidy { t with
      nextId := t.nextId + 1
      pending := enqueue ⟨due, ⟨t.nextId⟩, event⟩ t.pending } := by
  refine ⟨?_, ?_⟩
  · intro e he
    show e.id.seq < t.nextId + 1
    rcases mem_enqueue.mp he with rfl | hold
    · exact Nat.lt_succ_self t.nextId
    · have hlt := ht.fresh e hold
      omega
  · have hperm := (enqueue_perm ⟨due, ⟨t.nextId⟩, event⟩ t.pending).map (·.id)
    refine hperm.nodup_iff.mpr (List.nodup_cons.mpr ⟨?_, ht.distinct⟩)
    -- All the numbers given out so far are smaller than the next one.
    intro hmem
    obtain ⟨e, he, hid⟩ := List.mem_map.mp hmem
    have hlt := ht.fresh e he
    rw [hid] at hlt
    exact Nat.lt_irrefl _ hlt

theorem Tidy.schedule {t t' : Timeline ε} (ht : t.Tidy) {delay : Duration} {event : ε}
    {id : EventId} (h : t.schedule delay event = some (id, t')) : t'.Tidy := by
  obtain ⟨_, rfl⟩ := schedule_eq_some h
  exact ht.enqueue _ event

/-- Of two events scheduled in a row, the one with the shorter delay first, that one fires first. -/
theorem sublist_schedule_schedule {t t₁ t₂ : Timeline ε} {d₁ d₂ : Duration} {x y : ε}
    {i j : EventId} (h₁ : t.schedule d₁ x = some (i, t₁)) (h₂ : t₁.schedule d₂ y = some (j, t₂))
    (hle : d₁ ≤ d₂) : [i, j].Sublist t₂.ids := by
  obtain ⟨rfl, rfl⟩ := schedule_eq_some h₁
  obtain ⟨rfl, rfl⟩ := schedule_eq_some h₂
  have hdue : max (t.now + d₁) t.now ≤ max (t.now + d₂) t.now := Instant.max_add_le hle
  have hpair := sublist_enqueue_enqueue (e := ⟨max (t.now + d₁) t.now, ⟨t.nextId⟩, x⟩)
    (f := ⟨max (t.now + d₂) t.now, ⟨t.nextId + 1⟩, y⟩) hdue t.pending
  exact hpair.map (·.id)

/-! ## Taking the next event -/

theorem pop_eq_some {t t' : Timeline ε} {e : Entry ε} (h : t.pop = some (e, t')) :
    t.pending = e :: t'.pending ∧ t'.nextId = t.nextId := by
  unfold pop at h
  split at h
  · cases h
  · rename_i hpending
    cases h
    exact ⟨hpending, rfl⟩

/-- To take an event moves the clock to the instant it was due. -/
theorem now_of_pop {t t' : Timeline ε} {e : Entry ε} (h : t.pop = some (e, t')) :
    t'.now = e.due := by
  unfold pop at h
  split at h
  · cases h
  · cases h
    rfl

/-- To advance the clock takes nothing. -/
theorem pending_of_advanceTo {t t' : Timeline ε} {goal : Instant} (h : t.advanceTo goal = some t') :
    t'.pending = t.pending := by
  unfold advanceTo at h
  split at h
  · cases h
  · cases h
    rfl

theorem Tidy.pop {t t' : Timeline ε} (ht : t.Tidy) {e : Entry ε} (h : t.pop = some (e, t')) :
    t'.Tidy ∧ e.id ∉ t'.ids := by
  obtain ⟨hpending, hnext⟩ := pop_eq_some h
  have hdistinct := ht.distinct
  unfold ids at hdistinct
  rw [hpending, List.map_cons, List.nodup_cons] at hdistinct
  refine ⟨⟨?_, hdistinct.2⟩, hdistinct.1⟩
  intro f hf
  rw [hnext]
  refine ht.fresh f ?_
  rw [hpending]
  exact List.mem_cons_of_mem e hf

end Timeline

end LoraLink
