import LoraLink.Random

/-!
# A generator for simulations

In a simulation, a source of random words is scripted. It gives the words of a list and then those
of a linear congruential generator, or it fails once the list is used up, if there is no seed.

Half of its period moves the generator from one half of the words to the other. That is checked by
doubling: a word goes over into the next by an affine map, and two affine maps in a row are one.
-/

namespace LoraLink

namespace Random

/-- The word of the generator after `x`. -/
def successor (x : UInt32) : UInt32 := 1664525 * x + 1013904223

/-- The word that comes `n` words after `x`. -/
def word (n : Nat) (x : UInt32) : UInt32 := Nat.repeat successor n x

theorem word_add (m n : Nat) (x : UInt32) : word (m + n) x = word m (word n x) := by
  induction m with
  | zero => rw [Nat.zero_add]; rfl
  | succ m ih => rw [Nat.succ_add]; exact congrArg successor ih

/-- The coefficients `(a, c)` of the map `x ↦ a * x + c` that `2 ^ k` successors come to. -/
def doubled : Nat → UInt32 × UInt32
  | 0 => (1664525, 1013904223)
  | k + 1 =>
    let (a, c) := doubled k
    (a * a, a * c + c)

theorem word_two_pow (k : Nat) (x : UInt32) :
    word (1 <<< k) x = (doubled k).1 * x + (doubled k).2 := by
  induction k generalizing x with
  | zero => rfl
  | succ k ih =>
    rw [Nat.shiftLeft_succ, Nat.two_mul, word_add, ih, ih, UInt32.mul_add, ← UInt32.mul_assoc,
      UInt32.add_assoc]
    rfl

/-- Half of the period on, the generator gives the word in the other half. -/
theorem word_half (x : UInt32) : word 2147483648 x = x + 2147483648 := by
  have hhalf : 2147483648 = 1 <<< 31 := by decide
  have hdoubled : doubled 31 = (1, 2147483648) := by decide +kernel
  rw [hhalf, word_two_pow, hdoubled, UInt32.one_mul]

/-- Of two words in different halves, one is in the lower half. -/
theorem lower_half {x : UInt32} (h : ¬x < 2147483648) : x + 2147483648 < 2147483648 := by
  rw [UInt32.lt_iff_toNat_lt] at h ⊢
  rw [UInt32.toNat_add]
  have hx := x.toNat_lt
  change ¬x.toNat < 2147483648 at h
  change (x.toNat + 2147483648) % 4294967296 < 2147483648
  omega

/-- What a scripted source answers when it was asked `n` times before. -/
def scriptedAnswer (script : List UInt32) (seed : Option UInt32) (n : Nat) : Option UInt32 :=
  script[n]? <|> seed.map (word (n - script.length + 1))

theorem scriptedAnswer_fair (script : List UInt32) (seed : Option UInt32) (n : Nat) :
    ∃ k ≤ script.length + 2147483648, ∀ w,
      scriptedAnswer script seed (n + k) = some w → w < 2147483648 := by
  have hpast : ∀ k, script.length ≤ k →
      scriptedAnswer script seed (n + k) = seed.map (word (n + k - script.length + 1)) := by
    intro k hk
    unfold scriptedAnswer
    rw [List.getElem?_eq_none (by omega)]
    rfl
  cases seed with
  | none =>
    refine ⟨script.length, Nat.le_add_right _ _, fun w hw => ?_⟩
    rw [hpast _ (Nat.le_refl _)] at hw
    cases hw
  | some x =>
    by_cases hlow : word (n + 1) x < 2147483648
    · refine ⟨script.length, Nat.le_add_right _ _, fun w hw => ?_⟩
      rw [hpast _ (Nat.le_refl _), Nat.add_sub_cancel] at hw
      exact Option.some.inj hw ▸ hlow
    · refine ⟨script.length + 2147483648, Nat.le_refl _, fun w hw => ?_⟩
      have hindex : n + (script.length + 2147483648) - script.length + 1 =
          2147483648 + (n + 1) := by omega
      rw [hpast _ (Nat.le_add_right _ _), hindex] at hw
      obtain rfl := Option.some.inj hw
      rw [word_add, word_half]
      exact lower_half hlow

/-- A source that gives the words of a script, and then those of the generator if it has a seed. -/
def scripted (script : List UInt32) (seed : Option UInt32 := none) : Random where
  answer := scriptedAnswer script seed
  patience _ := script.length + 2147483648
  fair := scriptedAnswer_fair script seed

/-- With a seed, a scripted source never fails. -/
theorem scriptedAnswer_ne_none (script : List UInt32) (seed : UInt32) (n : Nat) :
    scriptedAnswer script (some seed) n ≠ none := by
  unfold scriptedAnswer
  cases script[n]? <;> exact nofun

/-- The source started anew; how often it was asked goes on being counted. -/
def restarted (r : Random) (asked : Nat) : Random where
  answer n := r.answer (n - asked)
  patience n := asked - n + r.patience (n - asked)
  fair n := by
    obtain ⟨k, hk, hfair⟩ := r.fair (n - asked)
    refine ⟨asked - n + k, Nat.add_le_add_left hk _, fun w hw => hfair w ?_⟩
    have hindex : n + (asked - n + k) - asked = n - asked + k := by omega
    rwa [hindex] at hw
  asked := asked

end Random

end LoraLink
