import LoraLink.Proofs.Draw

/-!
# Shuffling rearranges

Whatever words the source gives, and wherever it fails, a shuffle loses no item and makes none up:
each exchange is a permutation, and so are any number of them.

A shuffle of fewer than `2 ^ 32` items fails just if the source does. With more of them, there is a
position that cannot be counted up in a word, so the shuffle does not get past it.
-/

namespace LoraLink

namespace Random

theorem exchange_perm {α : Type} (xs : List α) (i j : Nat) : (exchange xs i j).Perm xs := by
  unfold exchange
  cases hi : xs[i]? with
  | none => exact List.Perm.refl xs
  | some a =>
    cases hj : xs[j]? with
    | none => exact List.Perm.refl xs
    | some b =>
      obtain ⟨hi', rfl⟩ := List.getElem?_eq_some_iff.mp hi
      obtain ⟨hj', rfl⟩ := List.getElem?_eq_some_iff.mp hj
      -- the library knows the exchange of two items of an array
      have hswap : (xs.toArray.swap i j hi' hj').Perm xs.toArray := Array.swap_perm hi' hj'
      simpa using hswap.toList

theorem shuffleFrom_perm {α : Type} (i : Nat) (xs : List α) (r : Random) :
    (shuffleFrom i xs r).2.1.Perm xs := by
  induction i generalizing xs r with
  | zero => exact List.Perm.refl xs
  | succ i ih =>
    rw [shuffleFrom]
    rcases choices (i + 1) with _ | bound
    · exact List.Perm.refl xs
    · dsimp only
      rcases r.below bound with ⟨_ | j, r'⟩
      · exact List.Perm.refl xs
      · exact (ih _ r').trans (exchange_perm xs (i + 1) j.toNat)

/-- A shuffle, finished or not, is a permutation. -/
theorem shuffle_perm {α : Type} (xs : List α) (r : Random) : (shuffle xs r).2.1.Perm xs :=
  shuffleFrom_perm (xs.length - 1) xs r

/-! ## Positions in words -/

theorem choices_eq_ok {i : Nat} (h : i < 4294967295) : choices i = .ok (UInt32.ofNat (i + 1)) := by
  have hne : UInt32.ofNat i ≠ 4294967295 := by
    intro heq
    have hnat := congrArg UInt32.toNat heq
    rw [UInt32.toNat_ofNat_of_lt' (Nat.lt_succ_of_lt h)] at hnat
    exact Nat.ne_of_lt h hnat
  unfold choices
  rw [if_neg hne, UInt32.ofNat_add]
  rfl

theorem choices_last : choices 4294967295 = .error .overflow := by
  have hword : UInt32.ofNat 4294967295 = 4294967295 := rfl
  unfold choices
  rw [if_pos hword]

/-- So many choices go into a word, and there is one. -/
theorem toNat_choices {i : Nat} (h : i < 4294967295) :
    (UInt32.ofNat (i + 1)).toNat = i + 1 := UInt32.toNat_ofNat_of_lt' (Nat.succ_lt_succ h)

theorem choices_pos {i : Nat} (h : i < 4294967295) : 0 < UInt32.ofNat (i + 1) := by
  rw [UInt32.lt_iff_toNat_lt, toNat_choices h]
  exact Nat.succ_pos i

section Outcome

variable {α : Type} {i : Nat} {xs ys : List α} {r r' : Random} {e : Error}

/-- A step of a shuffle in which the position can be counted up. -/
theorem shuffleFrom_succ (h : i + 1 < 4294967295) :
    shuffleFrom (i + 1) xs r =
      match r.below (UInt32.ofNat (i + 2)) with
      | (.ok j, r) => shuffleFrom i (exchange xs (i + 1) j.toNat) r
      | (.error e, r) => (.error e, xs, r) := by
  rewrite [shuffleFrom, choices_eq_ok h]
  rfl

theorem shuffleFrom_error (hi : i < 4294967295)
    (h : shuffleFrom i xs r = (.error e, ys, r')) : e = .exhausted := by
  induction i generalizing xs r with
  | zero => cases h
  | succ i ih =>
    rw [shuffleFrom_succ hi] at h
    rcases hbelow : r.below (UInt32.ofNat (i + 2)) with ⟨f | j, r₁⟩
    · rw [hbelow] at h
      obtain ⟨rfl, -⟩ := (below_eq_error (choices_pos hi)).mp hbelow
      exact (Except.error.inj (Prod.mk.inj h).1).symm
    · rw [hbelow] at h
      exact ih (Nat.lt_of_succ_lt hi) h

/-- A shuffle of a list that a word can count fails only if the source does. -/
theorem shuffle_error (hlen : xs.length < 4294967296)
    (h : shuffle xs r = (.error e, ys, r')) : e = .exhausted :=
  shuffleFrom_error (by omega) h

theorem Endless.shuffleFrom (h : r.Endless) (hi : i < 4294967295) :
    (Random.shuffleFrom i xs r).1 = .ok () := by
  induction i generalizing xs r with
  | zero => rfl
  | succ i ih =>
    obtain ⟨j, r', hbelow, h'⟩ := h.below (choices_pos hi)
    rw [shuffleFrom_succ hi, hbelow]
    exact ih h' (Nat.lt_of_succ_lt hi)

/-- And so it does not fail if the source never does. -/
theorem Endless.shuffle (h : r.Endless) (hlen : xs.length < 4294967296) :
    (Random.shuffle xs r).1 = .ok () := h.shuffleFrom (by omega)

/-- Where the last position has no bound, a shuffle ends before it asks the source. -/
theorem shuffle_of_choices_error (hlen : 1 < xs.length)
    (h : choices (xs.length - 1) = .error e) : shuffle xs r = (.error e, xs, r) := by
  obtain ⟨i, hi⟩ : ∃ i, xs.length - 1 = i + 1 := ⟨xs.length - 2, by omega⟩
  unfold shuffle
  rw [hi] at h ⊢
  rw [shuffleFrom, h]

theorem shuffleFrom_ne_ok (hi : 4294967295 ≤ i) : (shuffleFrom i xs r).1 ≠ .ok () := by
  induction i generalizing xs r with
  | zero => exact absurd hi (by decide)
  | succ i ih =>
    rcases Nat.eq_or_lt_of_le hi with hlast | hlt
    · rw [shuffleFrom, ← hlast, choices_last]
      exact nofun
    · rw [shuffleFrom]
      rcases choices (i + 1) with _ | bound
      · exact nofun
      · dsimp only
        rcases r.below bound with ⟨_ | j, r'⟩
        · exact nofun
        · exact ih (Nat.le_of_lt_succ hlt)

/-- A longer list is not shuffled to the end, whatever the source gives. -/
theorem shuffle_ne_ok (hlen : 4294967296 ≤ xs.length) : (shuffle xs r).1 ≠ .ok () :=
  shuffleFrom_ne_ok (by omega)

end Outcome

end Random

end LoraLink
