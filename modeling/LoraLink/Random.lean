/-!
# Random numbers

Whoever runs a node gives it a source of random words. Asked for the next one, the source answers
with 32 bits, or it fails. Nothing else is known of the words but that the upper half of them does
not come up forever, as it would not if the words were uniform.

A number below a bound is drawn by rejection. The words are cut off at the largest multiple of the
bound that leaves no remainder, words at or past the cut are thrown away, and the first word below
it is reduced. So no residue is favoured. Shuffling a list needs one such number per position but
the first. A position is counted in a word, and the bound is one more, so the last position that a
word can count has none.
-/

namespace LoraLink

/-- A source of random words, and how often it was asked for one. -/
structure Random where
  /-- What the source answers when it was asked `n` times before; nothing, if it fails then. -/
  answer : Nat → Option UInt32
  /-- How many words of the upper half there may be in a row, from an answer on. -/
  patience : Nat → Nat
  /-- What comes then is a word of the lower half, or the source fails. -/
  fair : ∀ n, ∃ k ≤ patience n, ∀ w, answer (n + k) = some w → w < 2147483648
  asked : Nat := 0

namespace Random

/-- Why no number comes. -/
inductive Error where
  /-- The source has failed. -/
  | exhausted
  /-- There is no number below zero. -/
  | emptyRange
  /-- A word cannot hold the bound. -/
  | overflow
deriving DecidableEq

/-- The next word, and the source after that. -/
def next (r : Random) : Option UInt32 × Random :=
  (r.answer r.asked, { r with asked := r.asked + 1 })

/-- Words below the cut are used: the largest multiple of `bound` that is at most `2 ^ 32 - 1`. -/
def cut (bound : UInt32) : UInt32 := 4294967295 - 4294967295 % bound

/-- The first word below `limit`, when the source is asked at most `tries` times. -/
def wordWithin (limit : UInt32) : Nat → Random → Option UInt32 × Random
  | 0, r => (none, r)
  | tries + 1, r =>
    match r.next with
    | (some w, r) => if w < limit then (some w, r) else wordWithin limit tries r
    | (none, r) => (none, r)

/-- The first word below a limit past the lower half; so many tries are enough for it. -/
def wordBelow (r : Random) (limit : UInt32) : Option UInt32 × Random :=
  wordWithin limit (r.patience r.asked + 1) r

/-- A uniform number below `bound`. -/
def below (r : Random) (bound : UInt32) : Except Error UInt32 × Random :=
  if bound = 0 then
    (.error .emptyRange, r)
  else
    match r.wordBelow (cut bound) with
    | (some w, r) => (.ok (w % bound), r)
    | (none, r) => (.error .exhausted, r)

/-- Exchanges two items of a list; positions past its end change nothing. -/
def exchange {α : Type} (xs : List α) (i j : Nat) : List α :=
  match xs[i]?, xs[j]? with
  | some a, some b => (xs.set i b).set j a
  | _, _ => xs

/-- How many positions are not past `i`. The position is cut to a word before it is counted up. -/
def choices (i : Nat) : Except Error UInt32 :=
  let word := UInt32.ofNat i
  if word = 4294967295 then .error .overflow else .ok (word + 1)

/-- For each position from `i` down to 1, exchanges it with a random one not past it. -/
def shuffleFrom {α : Type} : Nat → List α → Random → Except Error Unit × List α × Random
  | 0, xs, r => (.ok (), xs, r)
  | i + 1, xs, r =>
    match choices (i + 1) with
    | .error e => (.error e, xs, r)
    | .ok bound =>
      match r.below bound with
      | (.ok j, r) => shuffleFrom i (exchange xs (i + 1) j.toNat) r
      | (.error e, r) => (.error e, xs, r)

/-- Brings a list into random order. When that fails, the exchanges made so far remain. -/
def shuffle {α : Type} (xs : List α) (r : Random) : Except Error Unit × List α × Random :=
  shuffleFrom (xs.length - 1) xs r

end Random

end LoraLink
