import LoraLink.Proofs.Shuffle
import LoraLink.Simulation.Generator
import Mathlib.Data.FinEnum
import Mathlib.Data.Fintype.BigOperators
import Mathlib.Algebra.BigOperators.Fin
import Mathlib.Data.Nat.Factorial.BigOperators

/-!
# No order is favoured

A number below a bound is the first word below the cut, reduced. The cut is a multiple of the bound,
so as many words lead to each residue. That is for every source: how likely its words are is its own
affair.

A shuffle chooses, for each position from the last down to the second, one of the positions not past
it. There are `n !` ways to choose for `n` items, and each leads to an order of its own: the item at
the last position tells the first choice, and undoing that exchange tells the rest. So the ways to
choose and the orders correspond one to one, and when each choice is uniform, so is the order.
-/

namespace LoraLink

namespace Random

/-! ## Words and residues -/

section Residues

variable {b k : UInt32}

theorem cut_eq (b : UInt32) : (cut b).toNat = b.toNat * (4294967295 / b.toNat) := by
  have hdiv : b.toNat * (4294967295 / b.toNat) + 4294967295 % b.toNat = 4294967295 :=
    Nat.div_add_mod _ _
  rw [cut_toNat]
  omega

/-- As many words below the cut lead to each residue. -/
theorem card_residue (hk : k < b) :
    (Finset.univ.filter fun w : UInt32 => w < cut b ∧ w % b = k).card = 4294967295 / b.toNat := by
  have hk' : k.toNat < b.toNat := UInt32.lt_iff_toNat_lt.mp hk
  have hcut : (cut b).toNat ≤ 4294967295 := cut_toNat b ▸ Nat.sub_le _ _
  have hmem : ∀ w : UInt32, w < cut b ∧ w % b = k ↔
      w.toNat < (cut b).toNat ∧ w.toNat % b.toNat = k.toNat := by
    intro w
    rw [UInt32.lt_iff_toNat_lt, ← UInt32.toNat_inj, UInt32.toNat_mod]
  -- the `i`-th word of residue `k` is `b * i + k`
  have hword : ∀ i < 4294967295 / b.toNat, b.toNat * i + k.toNat < (cut b).toNat := by
    intro i hi
    calc b.toNat * i + k.toNat < b.toNat * (i + 1) := Nat.add_lt_add_left hk' (b.toNat * i)
      _ ≤ b.toNat * (4294967295 / b.toNat) := Nat.mul_le_mul_left b.toNat hi
      _ = (cut b).toNat := (cut_eq b).symm
  have htoNat : ∀ i < 4294967295 / b.toNat,
      (UInt32.ofNat (b.toNat * i + k.toNat)).toNat = b.toNat * i + k.toNat := by
    intro i hi
    have hlt : b.toNat * i + k.toNat < (cut b).toNat := hword i hi
    exact UInt32.toNat_ofNat_of_lt' (by change _ < 4294967296; omega)
  rw [← Finset.card_range (4294967295 / b.toNat)]
  refine Finset.card_nbij' (fun w => w.toNat / b.toNat)
    (fun i => UInt32.ofNat (b.toNat * i + k.toNat)) ?_ ?_ ?_ ?_
  · intro w hw
    obtain ⟨hlt, -⟩ := (hmem w).mp (Finset.mem_filter.mp hw).2
    exact Finset.mem_coe.mpr (Finset.mem_range.mpr (Nat.div_lt_of_lt_mul (cut_eq b ▸ hlt)))
  · intro i hi
    have hi' := Finset.mem_range.mp hi
    refine Finset.mem_coe.mpr (Finset.mem_filter.mpr ⟨Finset.mem_univ _, (hmem _).mpr ⟨?_, ?_⟩⟩)
    · rw [htoNat i hi']
      exact hword i hi'
    · rw [htoNat i hi', Nat.mul_add_mod, Nat.mod_eq_of_lt hk']
  · intro w hw
    obtain ⟨-, hresidue⟩ := (hmem w).mp (Finset.mem_filter.mp hw).2
    apply UInt32.toNat_inj.mp
    change (UInt32.ofNat (b.toNat * (w.toNat / b.toNat) + k.toNat)).toNat = w.toNat
    rw [← hresidue, Nat.div_add_mod, UInt32.ofNat_toNat]
  · intro i hi
    change (UInt32.ofNat (b.toNat * i + k.toNat)).toNat / b.toNat = i
    rw [htoNat i (Finset.mem_range.mp hi), Nat.mul_add_div (Nat.zero_lt_of_lt hk'),
      Nat.div_eq_of_lt hk', Nat.add_zero]

end Residues

/-! ## Choices -/

/-- For each of `m` positions after the first, one of the positions not past it. -/
def Choices (m : Nat) : Type := (i : Fin m) → Fin (i + 2)

namespace Choices

variable {m : Nat}

/-- The choice for the last position, which is made first. -/
def last (c : Choices (m + 1)) : Fin (m + 2) := c (Fin.last m)

/-- The choices for the other positions. -/
def others (c : Choices (m + 1)) : Choices m := fun i => c i.castSucc

/-- Choices with one for another position. -/
def snoc (c : Choices m) (j : Fin (m + 2)) : Choices (m + 1) :=
  Fin.lastCases (motive := fun i => Fin (i + 2)) j c

@[simp] theorem last_snoc (c : Choices m) (j : Fin (m + 2)) : (c.snoc j).last = j :=
  Fin.lastCases_last (motive := fun i => Fin (i + 2))

@[simp] theorem others_snoc (c : Choices m) (j : Fin (m + 2)) : (c.snoc j).others = c :=
  funext fun i => Fin.lastCases_castSucc (motive := fun i => Fin (i + 2)) i

theorem ext_last {c d : Choices (m + 1)} (hlast : c.last = d.last) (hothers : c.others = d.others) :
    c = d := by
  funext i
  cases i using Fin.lastCases with
  | last => exact hlast
  | cast i => exact congrFun hothers i

instance : Fintype (Choices m) := inferInstanceAs (Fintype ((i : Fin m) → Fin (i + 2)))

/-- There are `n !` ways to choose for `n` items. -/
theorem card (m : Nat) : Fintype.card (Choices m) = (m + 1).factorial := by
  calc Fintype.card (Choices m) = ∏ i : Fin m, Fintype.card (Fin (i + 2)) := Fintype.card_pi
    _ = ∏ i : Fin m, ((i : Nat) + 2) := by simp only [Fintype.card_fin]
    _ = ∏ i ∈ Finset.range m, (i + 2) := Fin.prod_univ_eq_prod_range (fun i => i + 2) m
    _ = ∏ i ∈ Finset.range (m + 1), (i + 1) := by simp [Finset.prod_range_succ']
    _ = (m + 1).factorial := Finset.prod_range_add_one_eq_factorial (m + 1)

end Choices

/-- The list after the exchanges that these choices ask for, the last position first. -/
def rearranged {α : Type} : (m : Nat) → Choices m → List α → List α
  | 0, _, xs => xs
  | m + 1, c, xs => rearranged m c.others (exchange xs (m + 1) c.last)

/-- Drawn from a source one after another, the numbers are these choices. -/
def Chooses : (m : Nat) → Choices m → Random → Random → Prop
  | 0, _, r, r' => r' = r
  | m + 1, c, r, r' =>
    ∃ j r₁, r.below (UInt32.ofNat (m + 2)) = (.ok j, r₁) ∧ j.toNat = c.last ∧
      Chooses m c.others r₁ r'

section Choose

variable {α β : Type} {m : Nat} {xs ys : List α} {r r' : Random}

/-- A shuffle that finishes has made its choices, and the exchanges they ask for. -/
theorem shuffleFrom_eq_ok (hm : m < 4294967295) : shuffleFrom m xs r = (.ok (), ys, r') ↔
    ∃ c : Choices m, Chooses m c r r' ∧ ys = rearranged m c xs := by
  -- By induction on the position: one draw settles its slot, and the others are shuffled after it.
  induction m generalizing xs r with
  | zero =>
    constructor
    · intro h
      obtain ⟨-, h⟩ := Prod.mk.inj h
      obtain ⟨rfl, rfl⟩ := Prod.mk.inj h
      exact ⟨fun i => i.elim0, rfl, rfl⟩
    · rintro ⟨c, rfl, rfl⟩
      rfl
  | succ m ih =>
    rw [shuffleFrom_succ hm]
    rcases hbelow : r.below (UInt32.ofNat (m + 2)) with ⟨_ | j, r₁⟩
    · constructor
      · intro h
        cases congrArg Prod.fst h
      · rintro ⟨c, ⟨j, r₂, hlast, -⟩, -⟩
        cases congrArg Prod.fst (hbelow.symm.trans hlast)
    · have hj : j.toNat < m + 2 := by
        rw [← toNat_choices hm]
        exact UInt32.lt_iff_toNat_lt.mp (below_lt (choices_pos hm) hbelow)
      refine (ih (Nat.lt_of_succ_lt hm)).trans ?_
      constructor
      · rintro ⟨c, hc, rfl⟩
        refine ⟨c.snoc ⟨j.toNat, hj⟩, ⟨j, r₁, hbelow, ?_, ?_⟩, ?_⟩
        · rw [Choices.last_snoc]
        · rwa [Choices.others_snoc]
        · rw [rearranged, Choices.last_snoc, Choices.others_snoc]
      · rintro ⟨c, ⟨j', r₂, hlast, hj', hothers⟩, rfl⟩
        obtain ⟨hok, rfl⟩ := Prod.mk.inj (hbelow.symm.trans hlast)
        obtain rfl := Except.ok.inj hok
        exact ⟨c.others, hothers, by rw [rearranged, hj']⟩

/-! ### What an exchange does -/

theorem getElem?_exchange {i j k : Nat} (hi : i < xs.length) (hj : j < xs.length) :
    (exchange xs i j)[k]? = if k = i then xs[j]? else if k = j then xs[i]? else xs[k]? := by
  rw [exchange, List.getElem?_eq_getElem hi, List.getElem?_eq_getElem hj]
  simp only [List.getElem?_set, List.length_set]
  -- Both writes may hit the place asked for, and the later one counts.
  by_cases hkj : j = k
  · subst hkj
    by_cases hji : j = i
    · subst hji
      simp [hj]
    · simp [hji, hj]
  · by_cases hki : i = k
    · subst hki
      simp [hkj, hi]
    · simp [hki, hkj, Ne.symm hki, Ne.symm hkj]

theorem exchange_map (f : α → β) (xs : List α) (i j : Nat) :
    exchange (xs.map f) i j = (exchange xs i j).map f := by
  unfold exchange
  simp only [List.getElem?_map]
  cases xs[i]? with
  | none => rfl
  | some a =>
    cases xs[j]? with
    | none => rfl
    | some b => simp only [Option.map_some, List.map_set]

theorem rearranged_map (f : α → β) (c : Choices m) (xs : List α) :
    rearranged m c (xs.map f) = (rearranged m c xs).map f := by
  induction m generalizing xs with
  | zero => rfl
  | succ m ih => rw [rearranged, exchange_map, ih, rearranged]

theorem rearranged_perm (c : Choices m) (xs : List α) : (rearranged m c xs).Perm xs := by
  induction m generalizing xs with
  | zero => exact List.Perm.refl xs
  | succ m ih => exact (ih c.others _).trans (exchange_perm xs (m + 1) c.last)

/-- Positions after the last one chosen for keep their items. -/
theorem getElem?_rearranged (c : Choices m) (hlen : m < xs.length) {k : Nat} (hk : m < k) :
    (rearranged m c xs)[k]? = xs[k]? := by
  induction m generalizing xs with
  | zero => rfl
  | succ m ih =>
    have hlast : (c.last : Nat) < xs.length := Nat.lt_of_lt_of_le c.last.isLt hlen
    have hlen' : m < (exchange xs (m + 1) c.last).length := by
      rw [(exchange_perm xs (m + 1) c.last).length_eq]
      exact Nat.lt_of_succ_lt hlen
    have hother : k ≠ c.last := Nat.ne_of_gt (Nat.lt_of_lt_of_le c.last.isLt hk)
    rw [rearranged, ih c.others hlen' (Nat.lt_of_succ_lt hk), getElem?_exchange hlen hlast,
      if_neg (Nat.ne_of_gt hk), if_neg hother]

/-! ### Each order from one way to choose -/

/-- Once the other positions agree, the first does too. -/
theorem eq_of_tail (hperm : ys.Perm xs) (h : ∀ k, 0 < k → ys[k]? = xs[k]?) : ys = xs := by
  cases xs with
  | nil => exact List.perm_nil.mp hperm
  | cons x xs =>
    cases ys with
    | nil => exact absurd hperm.length_eq nofun
    | cons y ys =>
      have htail : ys = xs := List.ext_getElem? fun k => h (k + 1) (Nat.succ_pos k)
      subst htail
      have hhead : [y].Perm [x] := (List.perm_append_right_iff ys).mp hperm
      rw [List.singleton_perm_singleton.mp hhead]

/-- The item at the last position chosen for tells which choice was made there. -/
theorem getElem?_last (c : Choices (m + 1)) (hlen : m + 1 < xs.length) :
    (rearranged (m + 1) c xs)[m + 1]? = xs[(c.last : Nat)]? := by
  have hlast : (c.last : Nat) < xs.length := Nat.lt_of_lt_of_le c.last.isLt hlen
  have hlen' : m < (exchange xs (m + 1) c.last).length := by
    rw [(exchange_perm xs (m + 1) c.last).length_eq]
    exact Nat.lt_of_succ_lt hlen
  rw [rearranged, getElem?_rearranged c.others hlen' (Nat.lt_succ_self m),
    getElem?_exchange hlen hlast, if_pos rfl]

/--
An order that leaves the positions after `m` alone comes from one way to choose: the item at
position `m` tells the choice made for it, and with that exchange made the rest is as before.
-/
theorem existsUnique_choices (hnodup : xs.Nodup) (hperm : ys.Perm xs)
    (hagree : ∀ k, m < k → ys[k]? = xs[k]?) (hlen : m ≤ xs.length - 1) :
    ∃! c : Choices m, rearranged m c xs = ys := by
  induction m generalizing xs with
  | zero =>
    exact ⟨nofun, (eq_of_tail hperm hagree).symm, fun c _ => funext fun i => i.elim0⟩
  | succ m ih =>
    have hlast : m + 1 < xs.length := by omega
    have hlast' : m + 1 < ys.length := hperm.length_eq ▸ hlast
    obtain ⟨j, hj, hget⟩ := List.getElem_of_mem (hperm.subset (List.getElem_mem hlast'))
    have hitem : ys[m + 1]? = xs[j]? := by
      rw [List.getElem?_eq_getElem hlast', List.getElem?_eq_getElem hj, hget]
    -- a later position would hold the item twice
    have hle : j < m + 2 := by
      by_contra hlater
      have hsame : ys[j]? = ys[m + 1]? := (hagree j (by omega)).trans hitem.symm
      have hjy : j < ys.length := hperm.length_eq ▸ hj
      have heq : j = m + 1 := (List.getElem?_inj hjy (hperm.nodup_iff.mpr hnodup)).mp hsame
      omega
    have hexchange := exchange_perm xs (m + 1) j
    have hagree' : ∀ k, m < k → ys[k]? = (exchange xs (m + 1) j)[k]? := by
      intro k hk
      rw [getElem?_exchange hlast hj]
      by_cases hkm : k = m + 1
      · rw [if_pos hkm, hkm, hitem]
      · rw [if_neg hkm, if_neg (by omega)]
        exact hagree k (by omega)
    obtain ⟨c, hc, hunique⟩ := ih (hexchange.nodup_iff.mpr hnodup) (hperm.trans hexchange.symm)
      hagree' (by rw [hexchange.length_eq]; omega)
    refine ⟨c.snoc ⟨j, hle⟩, ?_, ?_⟩
    · change rearranged (m + 1) (c.snoc ⟨j, hle⟩) xs = ys
      rw [rearranged, Choices.last_snoc, Choices.others_snoc]
      exact hc
    · intro d hd
      have hchoice : xs[(d.last : Nat)]? = xs[j]? := by
        rw [← getElem?_last d hlast, hd, hitem]
      have heq : d.last = ⟨j, hle⟩ :=
        Fin.ext ((List.getElem?_inj (Nat.lt_of_lt_of_le d.last.isLt hlast) hnodup).mp hchoice)
      refine Choices.ext_last ?_ ?_
      · rw [heq, Choices.last_snoc]
      · rw [Choices.others_snoc]
        refine hunique d.others ?_
        rw [rearranged, heq] at hd
        exact hd

/-- The order in which these choices put `n` positions. -/
def order (n : Nat) (c : Choices (n - 1)) : List Nat := rearranged (n - 1) c (List.range n)

theorem order_bijOn (n : Nat) :
    Set.BijOn (order n) Set.univ { o | o.Perm (List.range n) } := by
  -- Each slot is settled by one draw, so the draws can be read off the order.
  have honce : ∀ o : List Nat, o.Perm (List.range n) → ∃! c, order n c = o := by
    intro o ho
    refine existsUnique_choices List.nodup_range ho ?_ (by rw [List.length_range])
    intro k hk
    have hlen : o.length = n := ho.length_eq.trans List.length_range
    rw [List.getElem?_eq_none (by omega), List.getElem?_eq_none (by rw [List.length_range]; omega)]
  refine ⟨fun c _ => rearranged_perm c (List.range n), ?_, ?_⟩
  · intro c _ d _ hcd
    exact (honce (order n d) (rearranged_perm d (List.range n))).unique hcd rfl
  · intro o ho
    obtain ⟨c, hc, -⟩ := honce o ho
    exact ⟨c, Set.mem_univ c, hc⟩

/-- There is a way to choose for each of the `n !` orders. -/
theorem card_choices (n : Nat) : Fintype.card (Choices (n - 1)) = n.factorial := by
  cases n with
  | zero => rfl
  | succ m => exact Choices.card m

/-- The items end up as the choices order their positions. -/
theorem rearranged_eq_order (c : Choices (xs.length - 1)) :
    ys = rearranged (xs.length - 1) c xs ↔ ys.map some = (order xs.length c).map (xs[·]?) := by
  have hitems : (List.range xs.length).map (xs[·]?) = xs.map some := by
    refine List.ext_getElem (by simp) ?_
    intro k hk _
    simp only [List.length_map, List.length_range] at hk
    simp [hk]
  rw [order, ← rearranged_map, hitems, rearranged_map]
  exact (List.map_inj_right fun _ _ => Option.some.inj).symm

/-- A shuffle that finishes has chosen for each position, and no list is longer than words count. -/
theorem shuffle_eq_ok : shuffle xs r = (.ok (), ys, r') ↔
    xs.length < 4294967296 ∧ ∃ c, Chooses (xs.length - 1) c r r' ∧
      ys.map some = (order xs.length c).map (xs[·]?) := by
  by_cases hlen : xs.length < 4294967296
  · refine (shuffleFrom_eq_ok (by omega)).trans ?_
    simp only [rearranged_eq_order, hlen, true_and]
  · constructor
    · intro h
      exact absurd (congrArg Prod.fst h) (shuffle_ne_ok (Nat.le_of_not_lt hlen))
    · rintro ⟨h, -⟩
      exact absurd h hlen

/--
**No order is favoured.** A number below a bound comes from the first word below the cut, whatever
words come before it, and fails only when the source fails before that; as many words below the cut
lead to each number. A shuffle that finishes has drawn a choice for each position from the last to
the second, and puts the items into the order these choices stand for. Each order of the positions
comes from just one of the `n !` ways to choose. A shuffle that fails loses no item either, and one
of fewer than `2 ^ 32` items fails only when the source does.
-/
theorem shuffle_unbiased (xs : List α) (r : Random) {b : UInt32} (hb : 0 < b) :
    (cut b).toNat = 4294967295 - 4294967295 % b.toNat ∧
      (∀ k r', r.below b = (.ok k, r') ↔ ∃ w, r.FirstBelow (cut b) w r' ∧ k = w % b) ∧
      (∀ e r', r.below b = (.error e, r') ↔ e = .exhausted ∧ r.FailsBelow (cut b) r') ∧
      (∀ k < b, (Finset.univ.filter fun w : UInt32 => w < cut b ∧ w % b = k).card =
        4294967295 / b.toNat) ∧
      (∀ ys r', shuffle xs r = (.ok (), ys, r') ↔
        xs.length < 4294967296 ∧ ∃ c, Chooses (xs.length - 1) c r r' ∧
          ys.map some = (order xs.length c).map (xs[·]?)) ∧
      Set.BijOn (order xs.length) Set.univ { o | o.Perm (List.range xs.length) } ∧
      Fintype.card (Choices (xs.length - 1)) = xs.length.factorial ∧
      ∀ e ys r', shuffle xs r = (.error e, ys, r') →
        ys.Perm xs ∧ (xs.length < 4294967296 → e = .exhausted) := by
  refine ⟨cut_toNat b, fun k r' => below_eq_ok hb, fun e r' => below_eq_error hb,
    fun k hk => card_residue hk, fun ys r' => shuffle_eq_ok, order_bijOn xs.length,
    card_choices xs.length, ?_⟩
  intro e ys r' h
  -- Where a draw fails, the exchanges made so far remain.
  have hperm := shuffle_perm xs r
  rw [h] at hperm
  exact ⟨hperm, fun hlen => shuffle_error hlen h⟩

/-- Three items: the word that the bound 3 throws away, then a choice for each position. -/
theorem shuffle_unbiased_three :
    (∃ c, Chooses 2 c (scripted [4294967295, 6, 8]) ((scripted [4294967295, 6, 8]).after 3) ∧
        [20, 30, 10].map some = (order 3 c).map ([10, 20, 30][·]?)) ∧
      (Finset.univ.filter fun w : UInt32 => w < cut 3 ∧ w % 3 = 2).card = 1431655765 := by
  obtain ⟨-, -, -, hcard, hshuffle, -⟩ :=
    shuffle_unbiased [10, 20, 30] (scripted [4294967295, 6, 8]) (by decide : (0 : UInt32) < 3)
  exact ⟨((hshuffle [20, 30, 10] _).mp rfl).2, hcard 2 (by decide)⟩

theorem shuffle_of_count {n : Nat} (hn : n = 4294967296) (r : Random) :
    shuffle (List.replicate n ()) r = (.error .overflow, List.replicate n (), r) := by
  refine shuffle_of_choices_error ?_ ?_
  · rw [List.length_replicate, hn]
    decide
  · rw [List.length_replicate, hn]
    exact choices_last

/--
The last of `2 ^ 32` positions cannot be counted up in a word. A shuffle of so many items makes no
choice at all: it fails before it asks the source, be it one that has nothing to give or one that
never fails.
-/
theorem shuffle_overflows :
    shuffle (List.replicate 4294967296 ()) (scripted []) =
        (.error .overflow, List.replicate 4294967296 (), scripted []) ∧
      (scripted [] (some 1)).Endless ∧
      shuffle (List.replicate 4294967296 ()) (scripted [] (some 1)) =
        (.error .overflow, List.replicate 4294967296 (), scripted [] (some 1)) :=
  ⟨shuffle_of_count rfl _, scriptedAnswer_ne_none [] 1, shuffle_of_count rfl _⟩

end Choose

end Random

end LoraLink
