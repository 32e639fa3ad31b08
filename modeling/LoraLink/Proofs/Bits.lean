import LoraLink.Command.Payload
import Mathlib.Algebra.Group.Nat.Defs

/-!
# Fields of bytes by masks and shifts

Nibbles and flags are taken out of a byte and put into it by arithmetic and by single bits. On air
they are masks and shifts, and these come to the same. Two fields are wider than a byte: a channel
mask is a number of 16 bits, whichever way it is looked at, and a frequency is rounded down to what
three bytes can say.
-/

namespace LoraLink

/-! ## Nibbles and flags -/

namespace Byte

theorem highNibble_eq_shift (b : UInt8) : highNibble b = b >>> 4 := by
  apply UInt8.toNat_inj.mp
  unfold highNibble
  simp only [UInt8.toNat_div, UInt8.toNat_shiftRight, UInt8.reduceToNat, Nat.shiftRight_eq_div_pow]

theorem lowNibble_eq_mask (b : UInt8) : lowNibble b = b &&& 0x0F := by
  apply UInt8.toNat_inj.mp
  unfold lowNibble
  simp only [UInt8.toNat_mod, UInt8.toNat_and, UInt8.reduceToNat]
  exact (Nat.and_two_pow_sub_one_eq_mod b.toNat 4).symm

theorem ofNibbles_eq_masks (high low : UInt8) :
    ofNibbles high low = (high <<< 4) ||| (low &&& 0x0F) := by
  have hlow : (low &&& 0x0F).toNat = low.toNat % 16 := by
    rw [UInt8.toNat_and]
    exact Nat.and_two_pow_sub_one_eq_mod low.toNat 4
  have hhigh : (high <<< 4).toNat = (high.toNat % 16) <<< 4 := by
    change high.toNat <<< 4 % 256 = _
    rw [Nat.shiftLeft_eq, Nat.shiftLeft_eq]
    omega
  apply UInt8.toNat_inj.mp
  rw [toNat_ofNibbles, UInt8.toNat_or, hlow, hhigh, ← Nat.shiftLeft_add_eq_or_of_lt (by omega),
    Nat.shiftLeft_eq]

theorem flag_and (a b : UInt8) (i : Nat) : flag (a &&& b) i = (flag a i && flag b i) := by
  unfold flag
  rw [UInt8.toNat_and, Nat.testBit_and]

theorem flag_or (a b : UInt8) (i : Nat) : flag (a ||| b) i = (flag a i || flag b i) := by
  unfold flag
  rw [UInt8.toNat_or, Nat.testBit_or]

theorem flag_zero (i : Nat) : flag 0 i = false := Nat.zero_testBit i

/-- A byte is its flags. -/
theorem eq_of_flags {a b : UInt8} (h : ∀ i < 8, flag a i = flag b i) : a = b := by
  apply UInt8.toNat_inj.mp
  apply Nat.eq_of_testBit_eq
  intro i
  by_cases hi : i < 8
  · exact h i hi
  · have hpow : 2 ^ 8 ≤ 2 ^ i := Nat.pow_le_pow_right (by decide) (Nat.le_of_not_lt hi)
    rw [Nat.testBit_lt_two_pow (Nat.lt_of_lt_of_le a.toNat_lt hpow),
      Nat.testBit_lt_two_pow (Nat.lt_of_lt_of_le b.toNat_lt hpow)]

/-- The byte with one flag. -/
def single (i : Nat) : UInt8 := UInt8.ofNat (1 <<< i)

theorem flag_single {i : Nat} (hi : i < 8) (j : Nat) : flag (single i) j = decide (i = j) := by
  have hpow : 2 ^ i < 2 ^ 8 := Nat.pow_lt_pow_right Nat.one_lt_two hi
  unfold flag single
  rw [UInt8.toNat_ofNat', Nat.one_shiftLeft, Nat.mod_eq_of_lt hpow, Nat.testBit_two_pow]

theorem and_single (b : UInt8) {i : Nat} (hi : i < 8) :
    b &&& single i = if flag b i then single i else 0 := by
  refine eq_of_flags fun j _ => ?_
  rw [flag_and, flag_single hi]
  by_cases hij : i = j
  · subst hij
    cases flag b i <;> simp [flag_single hi, flag_zero]
  · cases flag b i <;> simp [flag_single hi, flag_zero, hij]

theorem flag_eq_mask (b : UInt8) {i : Nat} (hi : i < 8) : flag b i = (b &&& single i != 0) := by
  have hne : single i ≠ 0 := by
    intro hzero
    have hset := flag_single hi i
    rw [hzero, flag_zero, decide_eq_true rfl] at hset
    cases hset
  rw [and_single b hi]
  cases flag b i with
  | true => exact (bne_iff_ne.mpr hne).symm
  | false => rfl

/-- Setting a flag leaves it as it was given, and the others as they were. -/
theorem flag_withFlag_eq (b : UInt8) {i j : Nat} (hi : i < 8) (hj : j < 8) (value : Bool) :
    flag (withFlag b i value) j = if i = j then value else flag b j := by
  by_cases hij : i = j
  · rw [if_pos hij, ← hij]
    exact flag_withFlag b hi value
  · rw [if_neg hij]
    exact flag_withFlag_of_ne b hi hj hij value

theorem withFlag_eq_masks (b : UInt8) {i : Nat} (hi : i < 8) (value : Bool) :
    withFlag b i value = (b &&& ~~~single i) ||| (if value then single i else 0) := by
  cases value with
  | false => exact UInt8.or_zero.symm
  | true =>
    refine eq_of_flags fun j hj => ?_
    have hclear : flag (b &&& ~~~single i) j = if i = j then false else flag b j :=
      flag_withFlag_eq b hi hj false
    rw [flag_withFlag_eq b hi hj, if_pos rfl, flag_or, hclear, flag_single hi]
    by_cases hij : i = j <;> simp [hij]

/-- A mask is found in a byte just if all its flags are set. -/
theorem all_flags_eq_mask (b mask : UInt8) (is : List Nat)
    (hmask : ∀ i < 8, flag mask i = true → i ∈ is) (his : ∀ i ∈ is, i < 8 ∧ flag mask i = true) :
    is.all (flag b) = (b &&& mask == mask) := by
  rw [Bool.eq_iff_iff, beq_iff_eq, List.all_eq_true]
  constructor
  · intro h
    -- Bytes are equal if all their flags are, and outside the mask both sides are off.
    refine eq_of_flags fun i hi => ?_
    rw [flag_and]
    cases hset : flag mask i with
    | false => exact Bool.and_false _
    | true => rw [h i (hmask i hi hset), Bool.and_true]
  · intro h i hi
    have hset := (his i hi).2
    rw [← h, flag_and, Bool.and_eq_true] at hset
    exact hset.1

theorem flags_two (b : UInt8) : (flag b 0 && flag b 1) = (b &&& 0x03 == 0x03) := by
  rw [← all_flags_eq_mask b 0x03 [0, 1] (by decide) (by decide)]
  simp only [List.all_cons, List.all_nil, Bool.and_true]

theorem flags_three (b : UInt8) :
    (flag b 0 && flag b 1 && flag b 2) = (b &&& 0x07 == 0x07) := by
  rw [← all_flags_eq_mask b 0x07 [0, 1, 2] (by decide) (by decide)]
  simp only [List.all_cons, List.all_nil, Bool.and_true, Bool.and_assoc]

theorem lowNibble_mod (b : UInt8) : lowNibble b % 16 = lowNibble b :=
  UInt8.mod_eq_of_lt (lowNibble_lt b)

theorem highNibble_mod (b : UInt8) : highNibble b % 16 = highNibble b :=
  UInt8.mod_eq_of_lt (highNibble_lt b)

/-- Three bits are not cut by four. -/
theorem three_bits (b : UInt8) : b % 8 % 16 % 8 = b % 8 := by
  apply UInt8.toNat_inj.mp
  simp only [UInt8.toNat_mod, UInt8.reduceToNat]
  omega

end Byte

namespace DutyCycleReq

/-- A power of two by its exponent: none of the time at 255, and else `1 / 2 ^ k` for the lower four
bits `k` of the byte. -/
theorem fraction_eq (p : DutyCycleReq) :
    p.fraction = .ofFloat (if p.exponent = 255 then 0.0
      else 1.0 / (UInt64.ofNat (2 ^ (p.exponent.toNat % 16))).toFloat) := by
  have hnibble : (Byte.lowNibble p.exponent).toNat = p.exponent.toNat % 16 := UInt8.toNat_mod _ _
  unfold fraction
  rw [Nat.one_shiftLeft, hnibble]

end DutyCycleReq

namespace DevStatusAns

/-- The six bits of a margin are signed: the third from the top is shifted to the sign and back. -/
theorem margin_eq_shifts (p : DevStatusAns) :
    p.margin = ((p.marginByte <<< 2).toInt8 >>> 2).toInt := by
  have hall : ∀ n : Fin 256,
      Int.bmod n.val 64 = ((UInt8.ofNat n.val <<< 2).toInt8 >>> 2).toInt := by
    decide +kernel
  have hone := hall ⟨p.marginByte.toNat, p.marginByte.toNat_lt⟩
  rwa [UInt8.ofNat_toNat] at hone

theorem setMargin_eq_ok (p : DevStatusAns) {m : Int} (h : -32 ≤ m ∧ m ≤ 31) :
    p.setMargin m = .ok { p with marginByte := UInt8.ofNat (m % 64).toNat } := if_pos h

theorem setMargin_eq_error (p : DevStatusAns) {m : Int} (h : ¬(-32 ≤ m ∧ m ≤ 31)) :
    p.setMargin m = .error .marginOutOfRange := if_neg h

/-- Six bits hold the margins that are not refused. -/
theorem margin_sixBits (battery : UInt8) {m : Int} (h : -32 ≤ m ∧ m ≤ 31) :
    margin ⟨battery, UInt8.ofNat (m % 64).toNat⟩ = m := by
  have hbyte : (UInt8.ofNat (m % 64).toNat).toNat = (m % 64).toNat := by
    rw [UInt8.toNat_ofNat']
    omega
  unfold margin
  dsimp only
  rw [hbyte, Int.toNat_of_nonneg (Int.emod_nonneg m (by decide))]
  exact (Int.emod_bmod m 64).trans (Int.bmod_eq_of_le (by omega) (by omega))

/-- A margin that six bits can hold is read as it was set. -/
theorem margin_setMargin (p : DevStatusAns) {m : Int} (hlo : -32 ≤ m) (hhi : m ≤ 31) :
    ∃ p', p.setMargin m = .ok p' ∧ p'.margin = m :=
  ⟨_, p.setMargin_eq_ok ⟨hlo, hhi⟩, margin_sixBits p.battery ⟨hlo, hhi⟩⟩

end DevStatusAns

/-! ## Fields wider than a byte -/

namespace WireFrequency

/-- Three bytes hold the frequency in units of 100 Hz, as far as it goes into them. -/
theorem hertz_ofHertz (n : Nat) : (ofHertz n).hertz = n / 100 % 16777216 * 100 := by
  have hbytes : (ofHertz n).bytes = littleEndian 3 (n / 100) := by
    unfold ofHertz bytes
    rw [littleEndian, littleEndian, littleEndian, littleEndian, Nat.div_div_eq_div_mul (n / 100)]
  unfold hertz
  rw [hbytes, ofLittleEndian_littleEndian]

/-- What three bytes can hold is rounded down to a multiple of 100 Hz. -/
theorem hertz_ofHertz_of_lt {n : Nat} (h : n < 1677721600) :
    (ofHertz n).hertz = n - n % 100 := by
  rw [hertz_ofHertz]
  omega

/-- The greatest frequency there is, well within 32 bits. -/
theorem hertz_le (f : WireFrequency) : f.hertz ≤ 1677721500 := by
  have hlt := ofLittleEndian_lt f.bytes
  have hlen : f.bytes.length = 3 := rfl
  have hpow : Nat.pow 256 3 = 16777216 := by decide
  rw [hlen, hpow] at hlt
  unfold hertz
  omega

end WireFrequency

namespace ChannelMask

/-- The bytes of a mask as a number of 16 bits. -/
def word (m : ChannelMask) : Nat := ofLittleEndian m.bytes

theorem word_lt (m : ChannelMask) : m.word < 65536 := by
  have hlt := ofLittleEndian_lt m.bytes
  have hlen : m.bytes.length = 2 := rfl
  have hpow : Nat.pow 256 2 = 65536 := by decide
  rwa [hlen, hpow] at hlt

theorem word_ofNat {n : Nat} (h : n < 65536) : (ofNat n).word = n :=
  (ofLittleEndian_littleEndian 2 n).trans (Nat.mod_eq_of_lt h)

theorem testBit_word (m : ChannelMask) (i : Nat) :
    m.word.testBit i = if i < 8 then Byte.flag m.low i else Byte.flag m.high (i - 8) := by
  have hword : m.word = 2 ^ 8 * m.high.toNat + m.low.toNat := Nat.add_comm _ _
  rw [hword, Nat.testBit_two_pow_mul_add _ m.low.toNat_lt]
  rfl

theorem isEnabled?_eq (m : ChannelMask) (i : Nat) :
    m.isEnabled? i = if i < 16 then some (m.word.testBit i) else none := by
  unfold isEnabled?
  rw [testBit_word]
  by_cases hlow : i < 8
  · rw [if_pos hlow, if_pos (by omega), if_pos hlow]
  · rw [if_neg hlow, if_neg hlow]

theorem statuses_eq_bits (m : ChannelMask) :
    m.statuses = (List.range 16).map m.word.testBit := by
  refine List.map_congr_left fun i hi => ?_
  rw [isEnabled?_eq, if_pos (List.mem_range.mp hi)]
  rfl

/-- No two masks have the same statuses. -/
theorem eq_of_statuses {m m' : ChannelMask} (h : m.statuses = m'.statuses) : m = m' := by
  have hword : m.word = m'.word := by
    apply Nat.eq_of_testBit_eq
    intro i
    by_cases hi : i < 16
    · rw [statuses_eq_bits, statuses_eq_bits] at h
      exact List.map_inj_left.mp h i (List.mem_range.mpr hi)
    -- Above the sixteenth bit both words are zero.
    · have hpow : 2 ^ 16 ≤ 2 ^ i := Nat.pow_le_pow_right (by decide) (Nat.le_of_not_lt hi)
      rw [Nat.testBit_lt_two_pow (Nat.lt_of_lt_of_le m.word_lt hpow),
        Nat.testBit_lt_two_pow (Nat.lt_of_lt_of_le m'.word_lt hpow)]
  have hbytes : m.bytes = m'.bytes := by
    rw [← littleEndian_ofLittleEndian m.bytes, ← littleEndian_ofLittleEndian m'.bytes]
    exact congrArg (littleEndian 2) hword
  obtain ⟨low, high⟩ := m
  cases hbytes
  rfl

end ChannelMask

end LoraLink
