import LoraLink.Proofs.Timeline
import LoraLink.Simulation.Node

/-!
# The history of a timeline

A timeline is asked for one thing after the other: to schedule an event, to give the next one away,
or to move its clock. What was scheduled and what was given away along the way is its history.

The history is that of a queue that loses nothing. Every event that was scheduled is pending or was
given away, once, under its own identifier, and at the instant it was scheduled for, or at once if
that had passed. The clock never goes back and never passes a pending event. And as long as nothing
new is scheduled, events are given away in the order of their instants, those of one instant in the
order in which they were scheduled.

All of this is stated of any kind of timeline, whatever it keeps its events in. Here it is proved
of the one that keeps them in a list. Pending events are in order there, and nothing is due before
now; every operation leaves it so.
-/

namespace LoraLink

namespace Timeline

variable {ε : Type}

/-- What may be asked of a timeline. -/
inductive Op (ε : Type) where
  | schedule (delay : Duration) (event : ε)
  | scheduleAt (due : Instant) (event : ε)
  | pop
  | advanceTo (goal : Instant)

/-- What a timeline answers. -/
inductive Answer (ε : Type) where
  /-- The identifier of the event, unless the timeline is full. -/
  | scheduled (id : Option EventId)
  | popped (next : Option (EventId × ε))
  | advanced (accepted : Bool)
deriving DecidableEq

/-- The answer to an attempt, and the timeline after it: if the attempt failed, as it was. -/
def attempt {α τ : Type} (answer : Option α → Answer ε) (t : τ) :
    Option (α × τ) → Answer ε × τ
  | some (a, t') => (answer (some a), t')
  | none => (answer none, t)

/-- To fail changes nothing. -/
theorem attempt_refused {α τ : Type} {answer : Option α → Answer ε} {refusal : Answer ε}
    (hgiven : ∀ a, answer (some a) ≠ refusal) {t : τ} {x : Option (α × τ)}
    (h : (attempt answer t x).1 = refusal) : (attempt answer t x).2 = t := by
  cases x with
  | none => rfl
  | some x => exact absurd h (hgiven x.1)

/-- The answer to an attempt to take the next event. -/
def Answer.ofNext (e? : Option (Entry ε)) : Answer ε :=
  .popped (e?.map fun e => (e.id, e.event))

/-- The answer to an attempt to move the clock, which gives nothing but a new timeline. -/
def Answer.ofMove (moved? : Option Unit) : Answer ε := .advanced moved?.isSome

/-- The instant that a scheduling asks for, and the event. -/
def Op.requested? (now : Instant) : Op ε → Option (Instant × ε)
  | .schedule delay event => some (now + delay, event)
  | .scheduleAt due event => some (due, event)
  | .pop => none
  | .advanceTo _ => none

/-- The first entry fires before the second. -/
def Entry.Before (e f : Entry ε) : Prop :=
  e.due < f.due ∨ e.due = f.due ∧ e.id.seq < f.id.seq

end Timeline

/-- A kind of timeline: how it acts, and what can be seen of it. -/
structure Clockwork (τ ε : Type) where
  act : τ → Timeline.Op ε → Timeline.Answer ε × τ
  now : τ → Instant
  /-- The events that are still to come, in any order. -/
  pending : τ → List (Timeline.Entry ε)

namespace Clockwork

variable {τ ε : Type} (c : Clockwork τ ε)

/-- The timeline after some operations. -/
def run (t : τ) : List (Timeline.Op ε) → τ
  | [] => t
  | op :: ops => run (c.act t op).2 ops

/-- The answers along the way. -/
def answers (t : τ) : List (Timeline.Op ε) → List (Timeline.Answer ε)
  | [] => []
  | op :: ops => (c.act t op).1 :: answers (c.act t op).2 ops

/-- The entry that a scheduling makes if it succeeds: for the instant it asks for, or for now. -/
def entry? (t : τ) (op : Timeline.Op ε) : Option (Timeline.Entry ε) :=
  match op.requested? (c.now t), (c.act t op).1 with
  | some (due, event), .scheduled (some id) => some ⟨max due (c.now t), id, event⟩
  | _, _ => none

/-- The event that is given away, at the instant it is given away. -/
def fired? (t : τ) (op : Timeline.Op ε) : Option (Timeline.Entry ε) :=
  match (c.act t op).1 with
  | .popped (some (id, event)) => some ⟨c.now (c.act t op).2, id, event⟩
  | _ => none

/-- What was scheduled along the way. -/
def scheduled (t : τ) : List (Timeline.Op ε) → List (Timeline.Entry ε)
  | [] => []
  | op :: ops => (c.entry? t op).toList ++ scheduled (c.act t op).2 ops

/-- What was given away along the way. -/
def popped (t : τ) : List (Timeline.Op ε) → List (Timeline.Entry ε)
  | [] => []
  | op :: ops => (c.fired? t op).toList ++ popped (c.act t op).2 ops

theorem run_append (t : τ) (ops more : List (Timeline.Op ε)) :
    c.run t (ops ++ more) = c.run (c.run t ops) more := by
  induction ops generalizing t with
  | nil => rfl
  | cons op ops ih => exact ih (c.act t op).2

/-- A timeline that begins as `t₀` and holds a limited number of events loses none of them. -/
structure Lossless (capacity : Nat) (t₀ : τ) : Prop where
  /-- The clock never goes back, -/
  monotone : ∀ ops more, c.now (c.run t₀ ops) ≤ c.now (c.run t₀ (ops ++ more))
  /-- and never passes a pending event. -/
  ahead : ∀ ops, ∀ e ∈ c.pending (c.run t₀ ops), c.now (c.run t₀ ops) ≤ e.due
  /-- Identifiers count up. -/
  ids : ∀ ops, (c.scheduled t₀ ops).Pairwise fun e f => e.id.seq < f.id.seq
  /-- A scheduling fails just if the timeline is full, -/
  full : ∀ ops op due event, op.requested? (c.now (c.run t₀ ops)) = some (due, event) →
    ∃ id?, (c.act (c.run t₀ ops) op).1 = .scheduled id? ∧
      (id? = none ↔ (c.pending (c.run t₀ ops)).length = capacity)
  /-- and then it changes nothing. -/
  refused : ∀ ops op, (c.act (c.run t₀ ops) op).1 = .scheduled none →
    (c.act (c.run t₀ ops) op).2 = c.run t₀ ops
  /-- There is a next event unless none is pending. -/
  next : ∀ ops, (c.act (c.run t₀ ops) .pop).1 = .popped none ↔ c.pending (c.run t₀ ops) = []
  /-- What was given away and what is pending are together just what was scheduled. -/
  conserved : ∀ ops, (c.scheduled t₀ ops).Perm (c.popped t₀ ops ++ c.pending (c.run t₀ ops))
  /-- Nothing is given away twice. -/
  once : ∀ ops, ((c.popped t₀ ops).map (·.id)).Nodup
  /-- As long as nothing is scheduled, events are given away in order. -/
  ordered : ∀ ops more, c.scheduled (c.run t₀ ops) more = [] →
    (c.popped (c.run t₀ ops) more).Pairwise Timeline.Entry.Before

end Clockwork

namespace Timeline

variable {ε : Type}

/-! ## The order of entries -/

namespace Entry

theorem before_iff {e f : Entry ε} : e.Before f ↔
    e.due.micros < f.due.micros ∨ e.due.micros = f.due.micros ∧ e.id.seq < f.id.seq := by
  unfold Before
  rw [Instant.lt_def, Instant.ext_iff]

instance (e f : Entry ε) : Decidable (e.Before f) := decidable_of_iff _ before_iff.symm

theorem Before.trans {e f g : Entry ε} (h : e.Before f) (h' : f.Before g) : e.Before g := by
  rw [before_iff] at *
  omega

theorem Before.asymm {e f : Entry ε} (h : e.Before f) : ¬f.Before e := by
  rw [before_iff] at *
  omega

theorem Before.due_le {e f : Entry ε} (h : e.Before f) : e.due ≤ f.due := by
  rw [before_iff] at h
  rw [Instant.le_def]
  omega

end Entry

/-- An entry that was scheduled after all others is put where it belongs. -/
theorem pairwise_enqueue {e : Entry ε} {xs : List (Entry ε)} (h : xs.Pairwise Entry.Before)
    (hnew : ∀ f ∈ xs, f.id.seq < e.id.seq) : (enqueue e xs).Pairwise Entry.Before := by
  induction xs with
  | nil => exact List.pairwise_singleton _ e
  | cons f rest ih =>
    obtain ⟨hfirst, hrest⟩ := List.pairwise_cons.mp h
    rw [enqueue]
    -- The new entry goes in front of the first one that is due later.
    by_cases hdue : e.due < f.due
    · rw [if_pos hdue]
      have hbefore : e.Before f := Or.inl hdue
      refine List.pairwise_cons.mpr ⟨?_, h⟩
      intro g hg
      rcases List.mem_cons.mp hg with rfl | hg
      · exact hbefore
      · exact hbefore.trans (hfirst g hg)
    · rw [if_neg hdue]
      -- At the same instant the older entry stays ahead, since its number is smaller.
      have hbefore : f.Before e := by
        have hseq := hnew f List.mem_cons_self
        rw [Instant.lt_def] at hdue
        rw [Entry.before_iff]
        omega
      refine List.pairwise_cons.mpr ⟨?_, ih hrest fun g hg => hnew g (List.mem_cons_of_mem f hg)⟩
      intro g hg
      rcases mem_enqueue.mp hg with rfl | hg
      · exact hbefore
      · exact hfirst g hg

/-! ## What an operation can do -/

/-- Does what is asked, and answers what came of it. -/
def act (t : Timeline ε) : Op ε → Answer ε × Timeline ε
  | .schedule delay event => attempt .scheduled t (t.schedule delay event)
  | .scheduleAt due event => attempt .scheduled t (t.scheduleAt due event)
  | .pop => attempt .ofNext t t.pop
  | .advanceTo goal => attempt .ofMove t ((t.advanceTo goal).map ((), ·))

/-- Timelines as they are kept in a simulation. -/
def clockwork : Clockwork (Timeline ε) ε where
  act := act
  now := Timeline.now
  pending := Timeline.pending

/-- The entry of an event that is scheduled at this point. -/
def newEntry (t : Timeline ε) (due : Instant) (event : ε) : Entry ε :=
  ⟨max due t.now, ⟨t.nextId⟩, event⟩

/-- What an operation can come to. -/
inductive Acted (t : Timeline ε) : Op ε → Answer ε × Timeline ε → Prop where
  | scheduled {op : Op ε} {due : Instant} {event : ε}
      (hop : op.requested? t.now = some (due, event)) (hroom : t.pending.length < t.capacity) :
      Acted t op (.scheduled (some ⟨t.nextId⟩),
        { t with nextId := t.nextId + 1, pending := enqueue (t.newEntry due event) t.pending })
  | full {op : Op ε} {due : Instant} {event : ε} (hop : op.requested? t.now = some (due, event))
      (hfull : t.capacity ≤ t.pending.length) : Acted t op (.scheduled none, t)
  | popped {e : Entry ε} {rest : List (Entry ε)} (hpending : t.pending = e :: rest) :
      Acted t .pop (.popped (some (e.id, e.event)), { t with now := e.due, pending := rest })
  | empty (hpending : t.pending = []) : Acted t .pop (.popped none, t)
  | advanced {goal : Instant} (hgoal : t.now ≤ goal)
      (hnext : ∀ e ∈ t.pending.head?, goal ≤ e.due) :
      Acted t (.advanceTo goal) (.advanced true, { t with now := goal })
  | stayed {goal : Instant} : Acted t (.advanceTo goal) (.advanced false, t)

/-- Scheduling after a delay is scheduling at an instant, so there is one case for both. -/
theorem acted_scheduleAt (t : Timeline ε) {op : Op ε} {due : Instant} {event : ε}
    (hop : op.requested? t.now = some (due, event))
    (hact : t.act op = attempt .scheduled t (t.scheduleAt due event)) :
    Acted t op (t.act op) := by
  rw [hact]
  unfold scheduleAt
  by_cases hroom : t.pending.length < t.capacity
  · rw [if_pos hroom]
    exact .scheduled hop hroom
  · rw [if_neg hroom]
    exact .full hop (Nat.not_lt.mp hroom)

theorem acted (t : Timeline ε) (op : Op ε) : Acted t op (t.act op) := by
  cases op with
  | schedule delay event => exact acted_scheduleAt t rfl rfl
  | scheduleAt due event => exact acted_scheduleAt t rfl rfl
  | pop =>
    rw [act]
    unfold pop
    cases hpending : t.pending with
    | nil => exact .empty hpending
    | cons e rest => exact .popped hpending
  | advanceTo goal =>
    rw [act]
    unfold advanceTo
    by_cases hrefused : (goal < t.now || t.nextDue?.any (· < goal)) = true
    · rw [if_pos hrefused]
      exact .stayed
    · rw [if_neg hrefused]
      simp only [Bool.or_eq_true, decide_eq_true_eq, not_or] at hrefused
      -- The clock moves only if the goal is neither in the past nor beyond the next entry.
      obtain ⟨hback, hpast⟩ := hrefused
      refine .advanced ?_ ?_
      · rw [Instant.lt_def] at hback
        rw [Instant.le_def]
        omega
      · intro e he
        have hdue : t.nextDue? = some e.due := by
          unfold nextDue?
          rw [Option.mem_def.mp he]
          rfl
        rw [hdue, Option.any_some, decide_eq_true_eq, Instant.lt_def] at hpast
        rw [Instant.le_def]
        omega

/-! ## What every operation keeps -/

/-- A timeline in order. -/
structure Kept (t : Timeline ε) : Prop where
  tidy : t.Tidy
  sorted : t.pending.Pairwise Entry.Before
  ahead : ∀ e ∈ t.pending, t.now ≤ e.due
  bounded : t.pending.length ≤ t.capacity

theorem kept_of_empty {t : Timeline ε} (h : t.pending = []) : Kept t where
  tidy := tidy_of_empty h
  sorted := by simp [h]
  ahead := by simp [h]
  bounded := by simp [h]

/-- The first of the pending events is due no later than any other. -/
theorem Kept.due_head_le {t : Timeline ε} (h : Kept t) {e : Entry ε} {rest : List (Entry ε)}
    (hpending : t.pending = e :: rest) : ∀ f ∈ t.pending, e.due ≤ f.due := by
  have hsorted := h.sorted
  rw [hpending] at hsorted ⊢
  intro f hf
  rcases List.mem_cons.mp hf with rfl | hf
  · exact Instant.le_refl _
  · exact ((List.pairwise_cons.mp hsorted).1 f hf).due_le

/-- **Every operation leaves a timeline in order.** -/
theorem kept_step {t : Timeline ε} (h : Kept t) {op : Op ε} {x : Answer ε × Timeline ε}
    (hact : Acted t op x) : Kept x.2 := by
  cases hact with
  | scheduled hop hroom =>
    rename_i due event
    have hperm := enqueue_perm (t.newEntry due event) t.pending
    refine ⟨h.tidy.enqueue _ event, pairwise_enqueue h.sorted h.tidy.fresh, ?_, ?_⟩
    · intro e he
      rcases mem_enqueue.mp he with rfl | hold
      · exact Instant.le_max_right due t.now
      · exact h.ahead e hold
    · show (enqueue _ t.pending).length ≤ t.capacity
      rw [hperm.length_eq, List.length_cons]
      omega
  | full _ _ => exact h
  | popped hpending =>
    rename_i e rest
    have hfirst := h.due_head_le hpending
    have hpop : t.pop = some (e, { t with now := e.due, pending := rest }) := by
      unfold pop
      rw [hpending]
    have hsorted := h.sorted
    have hbounded := h.bounded
    rw [hpending] at hsorted hbounded hfirst
    refine ⟨(h.tidy.pop hpop).1, (List.pairwise_cons.mp hsorted).2, ?_, ?_⟩
    · exact fun f hf => hfirst f (List.mem_cons_of_mem e hf)
    · show rest.length ≤ t.capacity
      rw [List.length_cons] at hbounded
      omega
  | empty _ => exact h
  | advanced hgoal hnext =>
    rename_i goal
    refine ⟨⟨h.tidy.fresh, h.tidy.distinct⟩, h.sorted, ?_, h.bounded⟩
    -- Not to be past the first event is not to be past any.
    intro f hf
    have hf : f ∈ t.pending := hf
    obtain ⟨e, rest, hpending⟩ := List.exists_cons_of_ne_nil (List.ne_nil_of_mem hf)
    have hfirst : goal ≤ e.due := hnext e (by rw [hpending]; rfl)
    exact Instant.le_trans hfirst (h.due_head_le hpending f hf)
  | stayed => exact h

theorem kept_run {t : Timeline ε} (h : Kept t) (ops : List (Op ε)) : Kept (clockwork.run t ops) := by
  induction ops generalizing t with
  | nil => exact h
  | cons op ops ih => exact ih (kept_step h (acted t op))

/-! ## What an operation adds to the history -/

/-- An operation makes an entry pending, gives the first one away, or does neither. -/
inductive Recorded (t : Timeline ε) (op : Op ε) : Prop where
  | scheduled {e : Entry ε} (hentry : clockwork.entry? t op = some e)
      (hfired : clockwork.fired? t op = none) (hid : e.id.seq = t.nextId)
      (hpending : (t.act op).2.pending = enqueue e t.pending)
      (hnext : (t.act op).2.nextId = t.nextId + 1)
  | popped {e : Entry ε} (hentry : clockwork.entry? t op = none)
      (hfired : clockwork.fired? t op = some e) (hpending : t.pending = e :: (t.act op).2.pending)
      (hnext : (t.act op).2.nextId = t.nextId)
  | nothing (hentry : clockwork.entry? t op = none) (hfired : clockwork.fired? t op = none)
      (hpending : (t.act op).2.pending = t.pending) (hnext : (t.act op).2.nextId = t.nextId)

theorem recorded (t : Timeline ε) (op : Op ε) : Recorded t op := by
  have hentry : clockwork.entry? t op = match op.requested? t.now, (t.act op).1 with
    | some (due, event), .scheduled (some id) => some ⟨max due t.now, id, event⟩
    | _, _ => none := rfl
  have hfired : clockwork.fired? t op = match (t.act op).1 with
    | .popped (some (id, event)) => some ⟨(t.act op).2.now, id, event⟩
    | _ => none := rfl
  have hacted := acted t op
  -- What the history takes down depends on the answer alone, which these six cases tell.
  generalize hx : t.act op = x at hacted hentry hfired
  cases hacted with
  | scheduled hop _ =>
    rw [hop] at hentry
    refine .scheduled hentry hfired rfl ?_ ?_ <;> rw [hx]
    rfl
  | full hop _ =>
    rw [hop] at hentry
    refine .nothing hentry hfired ?_ ?_ <;> rw [hx]
  | popped hpending =>
    refine .popped hentry hfired ?_ ?_ <;> rw [hx]
    exact hpending
  | empty _ => refine .nothing hentry hfired ?_ ?_ <;> rw [hx]
  | advanced _ _ => refine .nothing hentry hfired ?_ ?_ <;> rw [hx]
  | stayed => refine .nothing hentry hfired ?_ ?_ <;> rw [hx]

/-! ## The history of a run -/

/-- Time does not go back. -/
theorem now_step {t : Timeline ε} (h : Kept t) {op : Op ε} {x : Answer ε × Timeline ε}
    (hact : Acted t op x) : t.now ≤ x.2.now := by
  cases hact with
  | popped hpending => exact h.ahead _ (by rw [hpending]; exact List.mem_cons_self)
  | advanced hgoal _ => exact hgoal
  | _ => exact Instant.le_refl t.now

theorem now_run {t : Timeline ε} (h : Kept t) (ops : List (Op ε)) :
    t.now ≤ (clockwork.run t ops).now := by
  induction ops generalizing t with
  | nil => exact Instant.le_refl t.now
  | cons op ops ih =>
    have hacted := acted t op
    exact Instant.le_trans (now_step h hacted) (ih (kept_step h hacted))

theorem capacity_run (t : Timeline ε) (ops : List (Op ε)) :
    (clockwork.run t ops).capacity = t.capacity := by
  induction ops generalizing t with
  | nil => rfl
  | cons op ops ih =>
    have hacted := acted t op
    have hstep : (t.act op).2.capacity = t.capacity := by
      generalize t.act op = x at hacted
      cases hacted <;> rfl
    exact (ih (t.act op).2).trans hstep

/-- Identifiers count up from the next one. -/
theorem scheduled_ids (t : Timeline ε) (ops : List (Op ε)) :
    ((clockwork.scheduled t ops).Pairwise fun e f => e.id.seq < f.id.seq) ∧
      ∀ e ∈ clockwork.scheduled t ops, t.nextId ≤ e.id.seq := by
  induction ops generalizing t with
  | nil => exact ⟨List.Pairwise.nil, fun e he => by cases he⟩
  | cons op ops ih =>
    -- All that is scheduled later is numbered from the next identifier after this operation.
    obtain ⟨hrest, hlater⟩ := ih (t.act op).2
    have hnone : clockwork.entry? t op = none →
        clockwork.scheduled t (op :: ops) = clockwork.scheduled (t.act op).2 ops := by
      intro hentry
      rw [Clockwork.scheduled, hentry]
      rfl
    cases recorded t op with
    | scheduled hentry hfired hid hpending hnext =>
      rename_i e
      rw [hnext] at hlater
      have hcons : clockwork.scheduled t (op :: ops) =
          e :: clockwork.scheduled (t.act op).2 ops := by
        rw [Clockwork.scheduled, hentry]
        rfl
      rw [hcons]
      refine ⟨List.pairwise_cons.mpr ⟨?_, hrest⟩, ?_⟩
      · intro f hf
        have hle := hlater f hf
        omega
      · intro f hf
        rcases List.mem_cons.mp hf with rfl | hf
        · omega
        · have hle := hlater f hf
          omega
    | popped hentry _ _ hnext =>
      rw [hnext] at hlater
      rw [hnone hentry]
      exact ⟨hrest, hlater⟩
    | nothing hentry _ _ hnext =>
      rw [hnext] at hlater
      rw [hnone hentry]
      exact ⟨hrest, hlater⟩

/-- An operation moves entries, and neither makes up nor loses any. -/
theorem conserved_step (t : Timeline ε) (op : Op ε) :
    ((clockwork.entry? t op).toList ++ t.pending).Perm
      ((clockwork.fired? t op).toList ++ (t.act op).2.pending) := by
  cases recorded t op with
  | scheduled hentry hfired _ hpending _ =>
    rw [hentry, hfired, hpending]
    exact (enqueue_perm _ t.pending).symm
  | popped hentry hfired hpending _ =>
    rw [hentry, hfired, hpending]
    rfl
  | nothing hentry hfired hpending _ =>
    rw [hentry, hfired, hpending]

theorem conserved_run (t : Timeline ε) (ops : List (Op ε)) :
    (clockwork.scheduled t ops ++ t.pending).Perm
      (clockwork.popped t ops ++ (clockwork.run t ops).pending) := by
  induction ops generalizing t with
  | nil => exact List.Perm.refl _
  | cons op ops ih =>
    have hrest : (clockwork.scheduled (t.act op).2 ops ++ (t.act op).2.pending).Perm _ :=
      ih (t.act op).2
    have hswap : ∀ as bs cs : List (Entry ε), (as ++ bs ++ cs).Perm (bs ++ (as ++ cs)) := by
      intro as bs cs
      rw [← List.append_assoc]
      exact List.perm_append_comm.append_right cs
    have hstep := (conserved_step t op).append_left (clockwork.scheduled (t.act op).2 ops)
    -- What the operation does is on the left of the rest; each side has it pass the rest and back.
    have hbefore : (clockwork.scheduled t (op :: ops) ++ t.pending).Perm
        (clockwork.scheduled (t.act op).2 ops ++
          ((clockwork.fired? t op).toList ++ (t.act op).2.pending)) :=
      (hswap _ _ _).trans hstep
    have hafter : ((clockwork.fired? t op).toList ++
        (clockwork.scheduled (t.act op).2 ops ++ (t.act op).2.pending)).Perm
        (clockwork.popped t (op :: ops) ++ (clockwork.run t (op :: ops)).pending) := by
      show List.Perm _ ((clockwork.fired? t op).toList ++ clockwork.popped (t.act op).2 ops ++
        (clockwork.run (t.act op).2 ops).pending)
      rw [List.append_assoc]
      exact hrest.append_left _
    rw [← List.append_assoc] at hbefore
    exact hbefore.trans ((hswap _ _ _).trans hafter)

/-- As long as nothing is scheduled, the pending events are given away from the first on. -/
theorem popped_of_unscheduled {t : Timeline ε} {ops : List (Op ε)}
    (hnone : clockwork.scheduled t ops = []) :
    clockwork.popped t ops ++ (clockwork.run t ops).pending = t.pending := by
  induction ops generalizing t with
  | nil => rfl
  | cons op ops ih =>
    -- If nothing is scheduled in all, then neither by the first operation nor by the others.
    obtain ⟨hhead, htail⟩ := List.append_eq_nil_iff.mp hnone
    have hrest : clockwork.popped (t.act op).2 ops ++
        (clockwork.run (t.act op).2 ops).pending = (t.act op).2.pending := ih htail
    show (clockwork.fired? t op).toList ++ clockwork.popped (t.act op).2 ops ++
      (clockwork.run (t.act op).2 ops).pending = t.pending
    rw [List.append_assoc, hrest]
    cases recorded t op with
    | scheduled hentry _ _ _ _ =>
      rw [hentry] at hhead
      cases hhead
    | popped _ hfired hpending _ =>
      rw [hfired, hpending]
      rfl
    | nothing _ hfired hpending _ =>
      rw [hfired, hpending]
      rfl

/-- **A timeline that begins with nothing pending loses nothing.** -/
theorem lossless {t₀ : Timeline ε} (hempty : t₀.pending = []) :
    clockwork.Lossless t₀.capacity t₀ := by
  have hkept : ∀ ops, Kept (clockwork.run t₀ ops) := kept_run (kept_of_empty hempty)
  have hconserved : ∀ ops, (clockwork.scheduled t₀ ops).Perm
      (clockwork.popped t₀ ops ++ (clockwork.run t₀ ops).pending) := by
    intro ops
    have hrun := conserved_run t₀ ops
    rw [hempty, List.append_nil] at hrun
    exact hrun
  refine
    { monotone := ?monotone
      ahead := fun ops => (hkept ops).ahead
      ids := fun ops => (scheduled_ids t₀ ops).1
      full := ?full
      refused := ?refused
      next := ?next
      conserved := hconserved
      once := ?once
      ordered := ?ordered }
  case monotone =>
    intro ops more
    rw [Clockwork.run_append]
    exact now_run (hkept ops) more
  case full =>
    intro ops op due event hop
    have hbounded := (hkept ops).bounded
    rw [capacity_run] at hbounded
    have hacted := acted (clockwork.run t₀ ops) op
    show ∃ id?, ((clockwork.run t₀ ops).act op).1 = .scheduled id? ∧
      (id? = none ↔ (clockwork.run t₀ ops).pending.length = t₀.capacity)
    generalize (clockwork.run t₀ ops).act op = x at hacted
    cases hacted with
    | scheduled _ hroom =>
      rw [capacity_run] at hroom
      have hlength : (clockwork.run t₀ ops).pending.length ≠ t₀.capacity := by omega
      exact ⟨_, rfl, by simp [hlength]⟩
    | full _ hfull =>
      rw [capacity_run] at hfull
      exact ⟨none, rfl, ⟨fun _ => Nat.le_antisymm hbounded hfull, fun _ => rfl⟩⟩
    | _ => cases hop
  case refused =>
    intro ops op hrefused
    have hacted := acted (clockwork.run t₀ ops) op
    change ((clockwork.run t₀ ops).act op).1 = .scheduled none at hrefused
    show ((clockwork.run t₀ ops).act op).2 = clockwork.run t₀ ops
    generalize (clockwork.run t₀ ops).act op = x at hacted hrefused
    cases hacted with
    | full _ _ => rfl
    | _ => cases hrefused
  case next =>
    intro ops
    have hacted := acted (clockwork.run t₀ ops) .pop
    show ((clockwork.run t₀ ops).act .pop).1 = .popped none ↔ (clockwork.run t₀ ops).pending = []
    generalize (clockwork.run t₀ ops).act .pop = x at hacted
    cases hacted with
    | popped hpending => simp [hpending]
    | empty hpending => simp [hpending]
    | scheduled hop _ => cases hop
    | full hop _ => cases hop
  -- What was popped once cannot be popped again, since no two entries carry one number.
  case once =>
    intro ops
    have hids : ((clockwork.scheduled t₀ ops).map (·.id)).Nodup := by
      refine List.pairwise_map.mpr ((scheduled_ids t₀ ops).1.imp ?_)
      intro e f hlt heq
      rw [heq] at hlt
      exact Nat.lt_irrefl _ hlt
    have hperm := (hconserved ops).map (·.id)
    rw [List.map_append] at hperm
    exact (List.nodup_append.mp (hperm.nodup_iff.mp hids)).1
  -- With nothing scheduled in between, what is popped is a beginning of what was pending.
  case ordered =>
    intro ops more hnone
    have hsorted := (hkept ops).sorted
    rw [← popped_of_unscheduled hnone] at hsorted
    exact (List.pairwise_append.mp hsorted).1

end Timeline

end LoraLink
