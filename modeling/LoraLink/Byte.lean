/-!
# Fields of bytes

On air, numbers are written with the least significant byte first, and small fields share a byte:
two nibbles of four bits, or flags of one bit each.
-/

namespace LoraLink

/-- The low `width` bytes of `n`, least significant first. -/
def littleEndian : Nat → Nat → List UInt8
  | 0, _ => []
  | width + 1, n => UInt8.ofNat n :: littleEndian width (n / 256)

/-- The number whose bytes are given, least significant first. -/
def ofLittleEndian : List UInt8 → Nat
  | [] => 0
  | b :: rest => b.toNat + 256 * ofLittleEndian rest

@[simp] theorem length_littleEndian (width n : Nat) : (littleEndian width n).length = width := by
  induction width generalizing n with
  | zero => rfl
  | succ width ih => simp [littleEndian, ih]

/-- A number of fewer bytes than are written comes back. -/
theorem ofLittleEndian_littleEndian (width n : Nat) :
    ofLittleEndian (littleEndian width n) = n % Nat.pow 256 width := by
  induction width generalizing n with
  | zero => exact (Nat.mod_one n).symm
  | succ width ih =>
    have hlow : (UInt8.ofNat n).toNat = n % 256 := UInt8.toNat_ofNat'
    have hpow : Nat.pow 256 (width + 1) = 256 * Nat.pow 256 width := Nat.mul_comm _ _
    rw [littleEndian, ofLittleEndian, ih, hlow, hpow, Nat.mod_mul]

theorem littleEndian_ofLittleEndian (bytes : List UInt8) :
    littleEndian bytes.length (ofLittleEndian bytes) = bytes := by
  induction bytes with
  | nil => rfl
  | cons b rest ih =>
    have hb := b.toNat_lt
    have hlow : UInt8.ofNat (b.toNat + 256 * ofLittleEndian rest) = b := by
      apply UInt8.toNat_inj.mp
      rw [UInt8.toNat_ofNat']
      omega
    have hhigh : (b.toNat + 256 * ofLittleEndian rest) / 256 = ofLittleEndian rest := by omega
    rw [List.length_cons, littleEndian, ofLittleEndian, hlow, hhigh, ih]

theorem ofLittleEndian_lt (bytes : List UInt8) :
    ofLittleEndian bytes < Nat.pow 256 bytes.length := by
  have h := ofLittleEndian_littleEndian bytes.length (ofLittleEndian bytes)
  rw [littleEndian_ofLittleEndian] at h
  rw [h]
  exact Nat.mod_lt _ (Nat.pow_pos (by decide))

namespace Byte

/-- The upper four bits. -/
def highNibble (b : UInt8) : UInt8 := b / 16

/-- The lower four bits. -/
def lowNibble (b : UInt8) : UInt8 := b % 16

/-- The byte with the given nibbles; of each argument the lower four bits count. -/
def ofNibbles (high low : UInt8) : UInt8 := high % 16 * 16 + low % 16

theorem toNat_ofNibbles (high low : UInt8) :
    (ofNibbles high low).toNat = high.toNat % 16 * 16 + low.toNat % 16 := by
  unfold ofNibbles
  simp only [UInt8.toNat_add, UInt8.toNat_mul, UInt8.toNat_mod, UInt8.reduceToNat]
  omega

theorem highNibble_ofNibbles (high low : UInt8) :
    highNibble (ofNibbles high low) = high % 16 := by
  apply UInt8.toNat_inj.mp
  unfold highNibble
  simp only [UInt8.toNat_div, UInt8.toNat_mod, UInt8.reduceToNat, toNat_ofNibbles]
  omega

theorem lowNibble_ofNibbles (high low : UInt8) :
    lowNibble (ofNibbles high low) = low % 16 := by
  apply UInt8.toNat_inj.mp
  unfold lowNibble
  simp only [UInt8.toNat_mod, UInt8.reduceToNat, toNat_ofNibbles]
  omega

/-- A byte is made of its nibbles. -/
theorem ofNibbles_nibbles (b : UInt8) : ofNibbles (highNibble b) (lowNibble b) = b := by
  have hb := b.toNat_lt
  apply UInt8.toNat_inj.mp
  unfold highNibble lowNibble
  simp only [UInt8.toNat_div, UInt8.toNat_mod, UInt8.reduceToNat, toNat_ofNibbles]
  omega

theorem highNibble_lt (b : UInt8) : (highNibble b).toNat < 16 := by
  have hb := b.toNat_lt
  unfold highNibble
  simp only [UInt8.toNat_div, UInt8.reduceToNat]
  omega

theorem lowNibble_lt (b : UInt8) : (lowNibble b).toNat < 16 := by
  unfold lowNibble
  simp only [UInt8.toNat_mod, UInt8.reduceToNat]
  omega

/-- Is bit `i` set? -/
def flag (b : UInt8) (i : Nat) : Bool := b.toNat.testBit i

/-- Sets or clears bit `i`, which must be below 8. -/
def withFlag (b : UInt8) (i : Nat) (value : Bool) : UInt8 :=
  let mask : UInt8 := UInt8.ofNat (1 <<< i)
  if value then b ||| mask else b &&& ~~~mask

/-- A flag is what it was set to. -/
theorem flag_withFlag (b : UInt8) {i : Nat} (hi : i < 8) (value : Bool) :
    flag (withFlag b i value) i = value := by
  have hmask : (UInt8.ofNat (1 <<< i)).toNat = 1 <<< i := by
    rw [UInt8.toNat_ofNat', Nat.one_shiftLeft]
    exact Nat.mod_eq_of_lt (Nat.pow_lt_pow_right Nat.one_lt_two hi)
  have hset : (1 <<< i).testBit i = true := by rw [Nat.one_shiftLeft, Nat.testBit_two_pow_self]
  unfold flag withFlag
  cases value with
  | true => rw [if_pos rfl, UInt8.toNat_or, Nat.testBit_or, hmask, hset, Bool.or_true]
  | false =>
    have hclear : (UInt8.size - 1 - 1 <<< i).testBit i = false := by
      rw [Nat.sub_sub, Nat.add_comm 1]
      rw [Nat.one_shiftLeft] at hset ⊢
      refine (Nat.testBit_two_pow_sub_succ (Nat.pow_lt_pow_right Nat.one_lt_two hi) i).trans ?_
      rw [hset, Bool.not_true, Bool.and_false]
    rw [if_neg Bool.false_ne_true, UInt8.toNat_and, Nat.testBit_and, UInt8.toNat_not, hmask, hclear,
      Bool.and_false]

/-- Setting or clearing a flag leaves the others as they are. -/
theorem flag_withFlag_of_ne (b : UInt8) {i j : Nat} (hi : i < 8) (hj : j < 8) (hne : i ≠ j)
    (value : Bool) : flag (withFlag b i value) j = flag b j := by
  have hpow : 2 ^ i < 2 ^ 8 := Nat.pow_lt_pow_right Nat.one_lt_two hi
  have hmask : (UInt8.ofNat (1 <<< i)).toNat = 2 ^ i := by
    rw [UInt8.toNat_ofNat', Nat.one_shiftLeft]
    exact Nat.mod_eq_of_lt hpow
  have hother : (2 ^ i).testBit j = false := Nat.testBit_two_pow_of_ne hne
  unfold flag withFlag
  cases value with
  | true => rw [if_pos rfl, UInt8.toNat_or, Nat.testBit_or, hmask, hother, Bool.or_false]
  | false =>
    have hkept : (UInt8.size - 1 - 2 ^ i).testBit j = true := by
      rw [Nat.sub_sub, Nat.add_comm 1]
      refine (Nat.testBit_two_pow_sub_succ hpow j).trans ?_
      rw [hother, decide_eq_true hj]
      rfl
    rw [if_neg Bool.false_ne_true, UInt8.toNat_and, Nat.testBit_and, UInt8.toNat_not, hmask, hkept,
      Bool.and_true]

/-- The upper four flags are those of the upper nibble. -/
theorem flag_of_highNibble {b b' : UInt8} (h : highNibble b = highNibble b') {i : Nat}
    (hi : 4 ≤ i) : flag b i = flag b' i := by
  have hdiv : b.toNat / 16 = b'.toNat / 16 := by
    have hnat := congrArg UInt8.toNat h
    unfold highNibble at hnat
    rwa [UInt8.toNat_div, UInt8.toNat_div] at hnat
  obtain ⟨j, rfl⟩ := Nat.exists_eq_add_of_le' hi
  have hbit : ∀ n : Nat, n.testBit (j + 4) = (n / 16).testBit j := fun n =>
    (Nat.testBit_div_two_pow n j).symm
  unfold flag
  rw [hbit, hbit, hdiv]

end Byte

end LoraLink
