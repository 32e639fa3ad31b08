import LoraLink.Random

/-!
# Drawing a number

A number below a bound comes from the first word below the cut. The words before it are thrown away,
and no word after it is asked for. The cut is past the lower half of the words, and a source gives a
word of that half before long, so the bound on the tries never ends a search: either the word is
found, or the source fails before.
-/

namespace LoraLink

namespace Random

/-! ## Words, one after another -/

/-- The source after it was asked `n` more times. -/
def after (r : Random) (n : Nat) : Random := { r with asked := r.asked + n }

/-- The next `n` words are all thrown away. -/
def Rejects (r : Random) (limit : UInt32) (n : Nat) : Prop :=
  ∀ k < n, ∃ v, r.answer (r.asked + k) = some v ∧ limit ≤ v

/-- The first word below the limit is `w`, and those before it are thrown away. -/
def FirstBelow (r : Random) (limit w : UInt32) (r' : Random) : Prop :=
  ∃ n, r.Rejects limit n ∧ r.answer (r.asked + n) = some w ∧ w < limit ∧ r' = r.after (n + 1)

/-- The source fails before it gives a word below the limit. -/
def FailsBelow (r : Random) (limit : UInt32) (r' : Random) : Prop :=
  ∃ n, r.Rejects limit n ∧ r.answer (r.asked + n) = none ∧ r' = r.after (n + 1)

variable {r r' r'' : Random} {limit v w : UInt32} {m n : Nat}

theorem after_after (r : Random) (m n : Nat) : (r.after m).after n = r.after (m + n) :=
  congrArg (fun k => { r with asked := k }) (Nat.add_assoc r.asked m n)

theorem rejects_zero (r : Random) (limit : UInt32) : r.Rejects limit 0 :=
  fun k hk => absurd hk (Nat.not_lt_zero k)

theorem Rejects.cons (hanswer : r.answer r.asked = some v) (hv : limit ≤ v)
    (h : (r.after 1).Rejects limit n) : r.Rejects limit (n + 1) := by
  intro k hk
  cases k with
  | zero => exact ⟨v, hanswer, hv⟩
  | succ k =>
    obtain ⟨u, hu, hle⟩ := h k (Nat.lt_of_succ_lt_succ hk)
    refine ⟨u, ?_, hle⟩
    rw [← hu, after, Nat.add_assoc, Nat.add_comm 1 k]

theorem FirstBelow.later (hanswer : r.answer r.asked = some v) (hv : limit ≤ v)
    (h : (r.after 1).FirstBelow limit w r') : r.FirstBelow limit w r' := by
  obtain ⟨n, hrejects, hw, hlt, rfl⟩ := h
  refine ⟨n + 1, hrejects.cons hanswer hv, ?_, hlt, ?_⟩
  · rw [← hw, after, Nat.add_assoc, Nat.add_comm 1 n]
  · rw [after_after, Nat.add_comm 1 (n + 1)]

theorem FailsBelow.later (hanswer : r.answer r.asked = some v) (hv : limit ≤ v)
    (h : (r.after 1).FailsBelow limit r') : r.FailsBelow limit r' := by
  obtain ⟨n, hrejects, hnone, rfl⟩ := h
  refine ⟨n + 1, hrejects.cons hanswer hv, ?_, ?_⟩
  · rw [← hnone, after, Nat.add_assoc, Nat.add_comm 1 n]
  · rw [after_after, Nat.add_comm 1 (n + 1)]

/-- What is not thrown away ends the search, so searches that end do so at the same word. -/
theorem Rejects.le (h : r.Rejects limit m)
    (hstop : ∀ v, r.answer (r.asked + n) = some v → v < limit) : m ≤ n := by
  refine Nat.le_of_not_lt fun hlt => ?_
  obtain ⟨v, hv, hle⟩ := h n hlt
  exact UInt32.not_lt.mpr hle (hstop v hv)

theorem FirstBelow.unique (h : r.FirstBelow limit v r') (h' : r.FirstBelow limit w r'') :
    v = w ∧ r' = r'' := by
  obtain ⟨m, hm, hv, hltv, rfl⟩ := h
  obtain ⟨n, hn, hw, hltw, rfl⟩ := h'
  have hmn : m ≤ n := hm.le fun u hu => by rwa [Option.some.inj (hu.symm.trans hw)]
  have hnm : n ≤ m := hn.le fun u hu => by rwa [Option.some.inj (hu.symm.trans hv)]
  obtain rfl := Nat.le_antisymm hmn hnm
  exact ⟨Option.some.inj (hv.symm.trans hw), rfl⟩

theorem FailsBelow.unique (h : r.FailsBelow limit r') (h' : r.FailsBelow limit r'') :
    r' = r'' := by
  obtain ⟨m, hm, hnone, rfl⟩ := h
  obtain ⟨n, hn, hnone', rfl⟩ := h'
  have hmn : m ≤ n := hm.le fun u hu => by cases hu.symm.trans hnone'
  have hnm : n ≤ m := hn.le fun u hu => by cases hu.symm.trans hnone
  rw [Nat.le_antisymm hmn hnm]

/-- A source that fails before it gives a word below the limit does not give one. -/
theorem FailsBelow.not_firstBelow (h : r.FailsBelow limit r') : ¬r.FirstBelow limit w r'' := by
  obtain ⟨m, hm, hnone, -⟩ := h
  rintro ⟨n, hn, hw, hlt, -⟩
  have hmn : m ≤ n := hm.le fun u hu => by rwa [Option.some.inj (hu.symm.trans hw)]
  have hnm : n ≤ m := hn.le fun u hu => by cases hu.symm.trans hnone
  obtain rfl := Nat.le_antisymm hmn hnm
  cases hw.symm.trans hnone

/-! ## The search -/

/-- A search finds the first word below the limit, or the source fails, or the tries run out. -/
theorem wordWithin_cases (limit : UInt32) (tries : Nat) (r : Random) :
    (∃ w r', wordWithin limit tries r = (some w, r') ∧ r.FirstBelow limit w r') ∨
      (∃ r', wordWithin limit tries r = (none, r') ∧ r.FailsBelow limit r') ∨
      r.Rejects limit tries := by
  -- By induction on the tries: a word is taken, the source runs dry, or one more is rejected.
  induction tries generalizing r with
  | zero => exact Or.inr (Or.inr (rejects_zero r limit))
  | succ tries ih =>
    rw [wordWithin, next]
    cases hanswer : r.answer r.asked with
    | none => exact Or.inr (Or.inl ⟨_, rfl, 0, rejects_zero r limit, hanswer, rfl⟩)
    | some v =>
      dsimp only
      by_cases hv : v < limit
      · rw [if_pos hv]
        exact Or.inl ⟨v, _, rfl, 0, rejects_zero r limit, hanswer, hv, rfl⟩
      · rw [if_neg hv]
        have hle : limit ≤ v := UInt32.not_lt.mp hv
        rcases ih (r.after 1) with ⟨w, r', hrun, h⟩ | ⟨r', hrun, h⟩ | h
        · exact Or.inl ⟨w, r', hrun, h.later hanswer hle⟩
        · exact Or.inr (Or.inl ⟨r', hrun, h.later hanswer hle⟩)
        · exact Or.inr (Or.inr (h.cons hanswer hle))

/-- The tries do not run out, since the source is fair. -/
theorem wordBelow_cases (r : Random) (hlimit : 2147483648 ≤ limit) :
    (∃ w r', r.wordBelow limit = (some w, r') ∧ r.FirstBelow limit w r') ∨
      ∃ r', r.wordBelow limit = (none, r') ∧ r.FailsBelow limit r' := by
  rcases wordWithin_cases limit (r.patience r.asked + 1) r with h | h | h
  · exact Or.inl h
  · exact Or.inr h
  · obtain ⟨k, hk, hfair⟩ := r.fair r.asked
    have hle : r.patience r.asked + 1 ≤ k :=
      h.le fun v hv => UInt32.lt_of_lt_of_le (hfair v hv) hlimit
    omega

/-! ## Numbers below a bound -/

section Below

variable {b k : UInt32} {e : Error}

theorem cut_toNat (b : UInt32) : (cut b).toNat = 4294967295 - 4294967295 % b.toNat := by
  have hle : 4294967295 % b ≤ (4294967295 : UInt32) := by
    rw [UInt32.le_iff_toNat_le, UInt32.toNat_mod]
    exact Nat.mod_le _ _
  unfold cut
  rw [UInt32.toNat_sub_of_le _ _ hle, UInt32.toNat_mod]
  rfl

/-- The remainder is less than half of what is divided. -/
theorem cut_ge (hb : 0 < b) : 2147483648 ≤ cut b := by
  have hpos : 0 < b.toNat := UInt32.lt_iff_toNat_lt.mp hb
  have hlt : b.toNat < 4294967296 := b.toNat_lt
  have hrest : 4294967295 % b.toNat < b.toNat := Nat.mod_lt _ hpos
  rw [UInt32.le_iff_toNat_le, cut_toNat]
  change 2147483648 ≤ 4294967295 - 4294967295 % b.toNat
  by_cases hhalf : b.toNat ≤ 2147483648
  · omega
  · rw [Nat.mod_eq_sub_mod (by omega), Nat.mod_eq_of_lt (by omega)]
    omega

theorem below_of_firstBelow (hb : 0 < b) (h : r.FirstBelow (cut b) w r') :
    r.below b = (.ok (w % b), r') := by
  unfold below
  rw [if_neg (UInt32.ne_of_lt hb).symm]
  rcases r.wordBelow_cases (cut_ge hb) with ⟨v, r'', hrun, h'⟩ | ⟨r'', -, h'⟩
  · obtain ⟨rfl, rfl⟩ := h.unique h'
    rw [hrun]
  · exact absurd h h'.not_firstBelow

theorem below_of_failsBelow (hb : 0 < b) (h : r.FailsBelow (cut b) r') :
    r.below b = (.error .exhausted, r') := by
  unfold below
  rw [if_neg (UInt32.ne_of_lt hb).symm]
  rcases r.wordBelow_cases (cut_ge hb) with ⟨v, r'', -, h'⟩ | ⟨r'', hrun, h'⟩
  · exact absurd h' h.not_firstBelow
  · rw [hrun, h.unique h']

/-- The number comes from the first word below the cut, however many come before it. -/
theorem below_eq_ok (hb : 0 < b) :
    r.below b = (.ok k, r') ↔ ∃ w, r.FirstBelow (cut b) w r' ∧ k = w % b := by
  constructor
  · intro h
    rcases r.wordBelow_cases (cut_ge hb) with ⟨w, r'', -, hfirst⟩ | ⟨r'', -, hfails⟩
    · obtain ⟨hk, rfl⟩ := Prod.mk.inj (h.symm.trans (below_of_firstBelow hb hfirst))
      exact ⟨w, hfirst, Except.ok.inj hk⟩
    · cases h.symm.trans (below_of_failsBelow hb hfails)
  · rintro ⟨w, h, rfl⟩
    exact below_of_firstBelow hb h

/-- There is no number just if the source fails before it gives a word below the cut. -/
theorem below_eq_error (hb : 0 < b) :
    r.below b = (.error e, r') ↔ e = .exhausted ∧ r.FailsBelow (cut b) r' := by
  constructor
  · intro h
    rcases r.wordBelow_cases (cut_ge hb) with ⟨w, r'', -, hfirst⟩ | ⟨r'', -, hfails⟩
    · cases h.symm.trans (below_of_firstBelow hb hfirst)
    · obtain ⟨he, rfl⟩ := Prod.mk.inj (h.symm.trans (below_of_failsBelow hb hfails))
      exact ⟨Except.error.inj he, hfails⟩
  · rintro ⟨rfl, h⟩
    exact below_of_failsBelow hb h

theorem below_lt (hb : 0 < b) (h : r.below b = (.ok k, r')) : k < b := by
  obtain ⟨w, -, rfl⟩ := (below_eq_ok hb).mp h
  exact UInt32.mod_lt w hb

end Below

/-! ## Sources that never fail -/

/-- The source answers whenever it is asked. -/
def Endless (r : Random) : Prop := ∀ n, r.answer n ≠ none

theorem Endless.below (h : r.Endless) {b : UInt32} (hb : 0 < b) :
    ∃ k r', r.below b = (.ok k, r') ∧ r'.Endless := by
  rcases r.wordBelow_cases (cut_ge hb) with ⟨w, r', -, hfirst⟩ | ⟨-, -, n, -, hnone, -⟩
  · refine ⟨w % b, r', below_of_firstBelow hb hfirst, ?_⟩
    obtain ⟨n, -, -, -, rfl⟩ := hfirst
    exact h
  · exact absurd hnone (h _)

end Random

end LoraLink
