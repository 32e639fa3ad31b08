import LoraLink.Time

/-!
# The timeline

A timeline holds the events that are still to come, each with the instant it is due and the
identifier it was given when it was scheduled, and a clock. Taking the next event off the timeline
moves the clock to the instant that event was due, so time passes only where something happens.

The pending events are kept as a list in the order in which they will fire: by due instant, and
among events due at one instant by the order in which they were scheduled. Identifiers count up and
are never given twice, so a holder of an identifier can tell a live event from one it no longer
wants.
-/

namespace LoraLink

/-- Names one scheduling: its position among all successful schedulings of the timeline. -/
structure EventId where
  seq : Nat
deriving DecidableEq

namespace Timeline

/-- An event waiting for its instant. -/
structure Entry (ε : Type) where
  due : Instant
  id : EventId
  event : ε

/-- Puts an entry behind all entries that are due no later than it. -/
def enqueue {ε : Type} (e : Entry ε) : List (Entry ε) → List (Entry ε)
  | [] => [e]
  | f :: rest => if e.due < f.due then e :: f :: rest else f :: enqueue e rest

end Timeline

/-- At most `capacity` future events, and the clock they wait for. -/
structure Timeline (ε : Type) where
  capacity : Nat
  now : Instant := .zero
  nextId : Nat := 0
  pending : List (Timeline.Entry ε) := []

namespace Timeline

variable {ε : Type}

/-- How many events are pending, those nobody waits for any more included. -/
def size (t : Timeline ε) : Nat := t.pending.length

/-- Is nothing pending any more? -/
def isEmpty (t : Timeline ε) : Bool := t.pending.isEmpty

/-- When the next event is due. -/
def nextDue? (t : Timeline ε) : Option Instant := t.pending.head?.map (·.due)

/--
Schedules an event at an instant, or now if that instant has passed. A full timeline refuses, and
gives no identifier away.
-/
def scheduleAt (t : Timeline ε) (due : Instant) (event : ε) : Option (EventId × Timeline ε) :=
  if t.pending.length < t.capacity then
    let id : EventId := ⟨t.nextId⟩
    let entry : Entry ε := ⟨max due t.now, id, event⟩
    some (id, { t with nextId := t.nextId + 1, pending := enqueue entry t.pending })
  else
    none

/-- Schedules an event some time from now. -/
def schedule (t : Timeline ε) (delay : Duration) (event : ε) : Option (EventId × Timeline ε) :=
  t.scheduleAt (t.now + delay) event

/-- Takes the next event and moves the clock to the instant it was due. -/
def pop (t : Timeline ε) : Option (Entry ε × Timeline ε) :=
  match t.pending with
  | [] => none
  | e :: rest => some (e, { t with now := e.due, pending := rest })

/-- Moves the clock without firing anything: neither back, nor past the next event. -/
def advanceTo (t : Timeline ε) (goal : Instant) : Option (Timeline ε) :=
  if goal < t.now || t.nextDue?.any (· < goal) then none else some { t with now := goal }

end Timeline

end LoraLink
