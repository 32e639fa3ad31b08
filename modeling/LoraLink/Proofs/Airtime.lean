import Mathlib.Algebra.Order.Floor.Div
import Mathlib.Data.Rat.Floor
import Mathlib.Tactic.Ring
import LoraLink.Radio.WordAirtime

/-!
# Time on air is the modem's formula

The formula of a LoRa modem is one about fractions: a symbol is `2 ^ SF / BW` long, the preamble
ends in a quarter of a symbol, and the blocks of a payload are a quotient rounded up, if it is
positive. It is worked out in words of 64 bits. For every frame whose length is below `2 ^ 32` the
words hold what comes out on the way, so nothing overflows, nothing is divided by zero, and the time
is that of the formula, with each division rounded as the formula rounds it.

Where the bandwidth is a power of two times 31.25 kHz, a symbol is a multiple of four microseconds,
and nothing is rounded but the blocks.
-/

namespace LoraLink

/-! ## Words -/

namespace Word

variable {α β : Type}

theorem ok_bind (a : α) (f : α → Except WordFault β) : Except.ok a >>= f = f a := rfl

theorem unsigned_eq {n : Nat} (h : n ≤ 18446744073709551615) : unsigned n = .ok n := if_pos h

theorem unsigned_bind {n : Nat} (h : n ≤ 18446744073709551615)
    (f : Nat → Except WordFault α) : unsigned n >>= f = f n := by
  rw [unsigned_eq h, ok_bind]

theorem signed_eq {n : Int} (h : -9223372036854775808 ≤ n) (h' : n ≤ 9223372036854775807) :
    signed n = .ok n := if_pos ⟨h, h'⟩

theorem signed_bind {n : Int} (h : -9223372036854775808 ≤ n) (h' : n ≤ 9223372036854775807)
    (f : Int → Except WordFault α) : signed n >>= f = f n := by
  rw [signed_eq h h', ok_bind]

theorem quotient_eq {n d : Nat} (h : 0 < d) : quotient n d = .ok (n / d) :=
  if_neg (Nat.ne_of_gt h)

/-- What is not negative is rounded down. -/
theorem signedQuotient_eq {n d : Nat} (h : 0 < d) (hn : n ≤ 9223372036854775807) :
    signedQuotient n d = .ok ((n / d : Nat) : Int) := by
  have hle : n / d ≤ n := Nat.div_le_self n d
  unfold signedQuotient
  rw [if_neg (by omega), ← Int.ofNat_tdiv]
  exact signed_eq (Int.le_trans (by decide) (Int.natCast_nonneg _)) (by exact_mod_cast hle.trans hn)

theorem toSigned_eq {n : Nat} (h : n ≤ 9223372036854775807) : toSigned n = n :=
  Int.bmod_eq_of_le (by omega) (by omega)

theorem toUnsigned_eq {n : Nat} (h : n ≤ 18446744073709551615) : toUnsigned n = n := by
  unfold toUnsigned
  omega

end Word

/-! ## Tables -/

theorem SpreadingFactor.bits_bounds (sf : SpreadingFactor) : 5 ≤ sf.bits ∧ sf.bits ≤ 12 :=
  ⟨sf.five_le, sf.le_twelve⟩

/-- A power of two times 31.25 kHz. -/
def Bandwidth.Dyadic (b : Bandwidth) : Prop := b.hertz ∈ [31250, 62500, 125000, 250000, 500000]

instance (b : Bandwidth) : Decidable b.Dyadic := inferInstanceAs (Decidable (b.hertz ∈ _))

theorem CodingRate.denominator_eq (r : CodingRate) : r.denominator = r.extra + 4 := by
  cases r <;> rfl

theorem CodingRate.denominator_le (r : CodingRate) : r.denominator ≤ 8 := by
  cases r <;> decide

/-! ## Symbols -/

namespace Modulation

theorem chips_le (m : Modulation) : 1 <<< m.spreadingFactor.bits ≤ 4096 := by
  rw [Nat.one_shiftLeft]
  exact Nat.pow_le_pow_right (n := 2) (by omega) m.spreadingFactor.bits_bounds.2

/-- The longest symbol is the one of SF12 on 7.8 kHz. -/
theorem symbolMicros_le (m : Modulation) : m.symbolMicros ≤ 524455 := by
  have hchips := m.chips_le
  calc m.symbolMicros ≤ 4096 * 1000000 / 7810 :=
        Nat.div_le_div (by omega) m.bandwidth.hertz_ge (by omega)
    _ ≤ 524455 := by decide

theorem symbolWord_eq (m : Modulation) : m.symbolWord = .ok m.symbolMicros := by
  have hchips := m.chips_le
  have hhertz := m.bandwidth.hertz_ge
  unfold symbolWord
  rw [Word.unsigned_bind (by omega), Word.unsigned_bind (by omega)]
  exact Word.quotient_eq (by omega)

/-- A symbol is `2 ^ SF / BW`, in microseconds and rounded down. -/
theorem symbolMicros_eq (m : Modulation) :
    (m.symbolMicros : Int)
      = ⌊(2 ^ m.spreadingFactor.bits * 1000000 : ℚ) / m.bandwidth.hertz⌋ := by
  have h := Rat.floor_intCast_div_natCast (2 ^ m.spreadingFactor.bits * 1000000) m.bandwidth.hertz
  push_cast at h
  rw [h, symbolMicros, Nat.one_shiftLeft]
  push_cast
  rfl

/-- On a dyadic bandwidth the quotient is whole, and so is a quarter of it. -/
theorem symbolMicros_dyadic {m : Modulation} (h : m.bandwidth.Dyadic) :
    m.symbolMicros * m.bandwidth.hertz = 2 ^ m.spreadingFactor.bits * 1000000
      ∧ 4 ∣ m.symbolMicros := by
  have hall : ∀ k < 8, ∀ hertz ∈ [31250, 62500, 125000, 250000, 500000],
      (1 <<< (5 + k)) * 1000000 / hertz * hertz = 2 ^ (5 + k) * 1000000
        ∧ 4 ∣ (1 <<< (5 + k)) * 1000000 / hertz := by
    decide
  obtain ⟨hlo, hhi⟩ := m.spreadingFactor.bits_bounds
  obtain ⟨k, hk⟩ := Nat.exists_eq_add_of_le hlo
  have hsymbol := hall k (by omega) m.bandwidth.hertz h
  rw [← hk] at hsymbol
  exact hsymbol

end Modulation

namespace TransmitConfig

variable (c : TransmitConfig)

/-! ## Words hold what comes out -/

theorem preambleQuarters_le (hpreamble : c.preambleSymbols < 65536) :
    (4 * c.preambleSymbols + 17) * c.modulation.symbolMicros ≤ 262157 * 524455 :=
  Nat.mul_le_mul (by omega) c.modulation.symbolMicros_le

theorem preambleWord_eq (hpreamble : c.preambleSymbols < 65536) :
    c.preambleWord c.modulation.symbolMicros
      = .ok ((4 * c.preambleSymbols + 17) * c.modulation.symbolMicros / 4) := by
  have hquarters := c.preambleQuarters_le hpreamble
  unfold preambleWord
  rw [Word.unsigned_bind (by omega), Word.unsigned_bind (by omega),
    Word.unsigned_bind (by omega)]
  exact Word.quotient_eq (by omega)

/--
The bits of a payload that are left for coded blocks. There are less than none where the first
symbols have room for more than the payload.
-/
def codedBits (len : Nat) : Int :=
  8 * len - 4 * c.modulation.spreadingFactor.bits + 28 + 16 * c.checksum.toNat
    - 20 * c.implicitHeader.toNat

/-- The bits that go into one block. -/
def blockBits : Int :=
  4 * (c.modulation.spreadingFactor.bits - 2 * c.lowDataRateOptimization.toNat)

theorem codedBits_le (len : Nat) : c.codedBits len ≤ 8 * len + 24 := by
  have hsf := c.modulation.spreadingFactor.bits_bounds
  have hcrc := c.checksum.toNat_le
  unfold codedBits
  omega

theorem blockBits_bounds : 12 ≤ c.blockBits ∧ c.blockBits ≤ 48 := by
  have hsf := c.modulation.spreadingFactor.bits_bounds
  have hde := c.lowDataRateOptimization.toNat_le
  unfold blockBits
  omega

theorem codedBitsWord_eq {len : Nat} (hlen : len < 4294967296) :
    c.codedBitsWord len = .ok (c.codedBits len) := by
  have hsf := c.modulation.spreadingFactor.bits_bounds
  have hcrc := c.checksum.toNat_le
  have hih := c.implicitHeader.toNat_le
  unfold codedBitsWord
  rw [Word.toSigned_eq (by omega)]
  iterate 7 rw [Word.signed_bind (by omega) (by omega)]
  exact Word.signed_eq (by omega) (by omega)

theorem blockBitsWord_eq : c.blockBitsWord = .ok c.blockBits := by
  have hsf := c.modulation.spreadingFactor.bits_bounds
  have hde := c.lowDataRateOptimization.toNat_le
  unfold blockBitsWord
  rw [Word.signed_bind (by omega) (by omega), Word.signed_bind (by omega) (by omega)]
  exact Word.signed_eq (by omega) (by omega)

/-- Subtraction that stops at nothing takes the place of the sign. -/
theorem payloadBlocks_eq (len : Nat) :
    c.payloadBlocks len
      = ((c.codedBits len).toNat + c.blockBits.toNat - 1) / c.blockBits.toNat := by
  have hsf := c.modulation.spreadingFactor.bits_bounds
  have hde := c.lowDataRateOptimization.toNat_le
  have hcoded : (c.codedBits len).toNat = 8 * len + 28 + 16 * c.checksum.toNat
      - (4 * c.modulation.spreadingFactor.bits + 20 * c.implicitHeader.toNat) := by
    unfold codedBits
    omega
  have hblock : c.blockBits.toNat
      = 4 * (c.modulation.spreadingFactor.bits - 2 * c.lowDataRateOptimization.toNat) := by
    unfold blockBits
    omega
  -- Both terms are spelled with natural numbers, which truncate where the integers are negative.
  rw [hcoded, hblock]
  rfl

theorem payloadBlocks_le (len : Nat) : c.payloadBlocks len ≤ 8 * len + 71 := by
  have hcoded := c.codedBits_le len
  have hblock := c.blockBits_bounds
  rw [payloadBlocks_eq]
  calc _ ≤ (c.codedBits len).toNat + c.blockBits.toNat - 1 := Nat.div_le_self _ _
    _ ≤ 8 * len + 71 := by omega

theorem blocksWord_eq {len : Nat} (hlen : len < 4294967296) :
    c.blocksWord len = .ok (c.payloadBlocks len : Int) := by
  have hcoded := c.codedBits_le len
  have hblock := c.blockBits_bounds
  unfold blocksWord
  rw [codedBitsWord_eq c hlen, Word.ok_bind, blockBitsWord_eq, Word.ok_bind, payloadBlocks_eq]
  split
  case isTrue hpos =>
    rw [Word.signed_bind (by omega) (by omega), Word.signed_bind (by omega) (by omega)]
    have hbits : c.codedBits len + c.blockBits - 1
        = (((c.codedBits len).toNat + c.blockBits.toNat - 1 : Nat) : Int) := by omega
    have hper : c.blockBits = (c.blockBits.toNat : Int) := by omega
    rw [hbits, hper]
    exact Word.signedQuotient_eq (by omega) (by omega)
  case isFalse hneg =>
    -- One bit less than a block makes none.
    rw [Nat.div_eq_of_lt (by omega)]
    rfl

theorem codedSymbols_le {len : Nat} (hlen : len < 4294967296) :
    c.payloadBlocks len * c.codingRate.denominator ≤ 34359738431 * 8 := by
  have hblocks := c.payloadBlocks_le len
  exact Nat.mul_le_mul (by omega) c.codingRate.denominator_le

theorem payloadMicros_le {len : Nat} (hlen : len < 4294967296) :
    (8 + c.payloadBlocks len * c.codingRate.denominator) * c.modulation.symbolMicros
      ≤ 274877907456 * 524455 := by
  have hsymbols := c.codedSymbols_le hlen
  exact Nat.mul_le_mul (by omega) c.modulation.symbolMicros_le

theorem micros_airtime {len : Nat} (hlen : len < 4294967296)
    (hpreamble : c.preambleSymbols < 65536) : (c.airtime len).micros = c.airMicros len := by
  have hquarters := c.preambleQuarters_le hpreamble
  have hpayload := c.payloadMicros_le hlen
  have hle : c.airMicros len ≤ 18446744073709551615 := by
    simp only [airMicros]
    omega
  exact Nat.min_eq_left hle

/-- **No operation on words faults**, and what they come to is the airtime. -/
theorem timeOnAir_eq {len : Nat} (hlen : len < 4294967296)
    (hpreamble : c.preambleSymbols < 65536) : c.timeOnAir len = .ok (c.airtime len) := by
  have hquarters := c.preambleQuarters_le hpreamble
  have hsymbols := c.codedSymbols_le hlen
  have hpayload := c.payloadMicros_le hlen
  have hrate := c.codingRate.denominator_le
  have hextra : (c.codingRate.extra : Int) + 4 = c.codingRate.denominator := by
    rw [CodingRate.denominator_eq]
    rfl
  -- Every intermediate result is bounded by one of the facts above, so none overflows.
  unfold timeOnAir
  rw [Modulation.symbolWord_eq, Word.ok_bind, preambleWord_eq c hpreamble, Word.ok_bind,
    blocksWord_eq c hlen, Word.ok_bind, hextra, Word.signed_bind (by omega) (by omega),
    ← Int.natCast_mul, Word.signed_bind (by omega) (by omega),
    Word.toUnsigned_eq (by omega), Word.unsigned_bind (by omega),
    Word.unsigned_bind (by omega), Word.unsigned_bind (by omega)]
  rfl

/-! ## The formula -/

/-- Rounding up by hand: the divisor less one is put on top, if there is something to divide. -/
theorem ceil_div_eq {n d : Int} (hd : 0 < d) :
    max 0 ⌈(n : ℚ) / d⌉ = ((n.toNat + d.toNat - 1) / d.toNat : Nat) := by
  lift d to Nat using hd.le
  have hdpos : (0 : ℚ) < d := by exact_mod_cast hd
  -- both are the least number of blocks, none of them negative, into which `n` goes
  refine eq_of_forall_ge_iff fun z => ?_
  rcases lt_or_ge z 0 with hz | hz
  · exact iff_of_false (fun h => not_le.mpr hz ((le_max_left _ _).trans h))
      (fun h => not_le.mpr hz ((Int.natCast_nonneg _).trans h))
  · lift z to Nat using hz
    have hraised : (n.toNat + d - 1) / d ≤ z ↔ n.toNat ≤ d * z :=
      ceilDiv_le_iff_le_mul (show 0 < d by omega)
    calc max 0 ⌈(n : ℚ) / d⌉ ≤ z ↔ (n : ℚ) / d ≤ z := by
          rw [max_le_iff, Int.ceil_le]
          exact and_iff_right (Int.natCast_nonneg z)
      _ ↔ n ≤ d * z := by
          rw [div_le_iff₀ hdpos, mul_comm]
          exact_mod_cast Iff.rfl
      _ ↔ n.toNat ≤ d * z := by
          rw [Int.toNat_le]
          push_cast
          rfl
      _ ↔ (((n.toNat + d - 1) / d : Nat) : Int) ≤ z := by
          rw [Int.ofNat_le, hraised]

/-- The coded blocks by the formula. -/
def formulaBlocks (len : Nat) : Int := max 0 ⌈(c.codedBits len : ℚ) / c.blockBits⌉

/-- The microseconds on air by the formula, in which symbols of whole microseconds are counted. -/
def formulaMicros (len : Nat) : Int :=
  ⌊((4 * c.preambleSymbols + 17) * c.modulation.symbolMicros : ℚ) / 4⌋
    + (8 + c.formulaBlocks len * (c.codingRate.extra + 4)) * c.modulation.symbolMicros

/-- The time on air in microseconds, no part of which is rounded but the number of blocks. -/
def exactMicros (len : Nat) : ℚ :=
  (c.preambleSymbols + 17 / 4 + (8 + c.formulaBlocks len * (c.codingRate.extra + 4)))
    * (2 ^ c.modulation.spreadingFactor.bits * 1000000 / c.modulation.bandwidth.hertz)

theorem payloadBlocks_eq_formula (len : Nat) : c.payloadBlocks len = c.formulaBlocks len := by
  have hblock := c.blockBits_bounds
  rw [payloadBlocks_eq, formulaBlocks, ceil_div_eq (by omega)]

theorem airMicros_eq_formula (len : Nat) : (c.airMicros len : Int) = c.formulaMicros len := by
  have hpreamble := Rat.floor_intCast_div_natCast
    ((4 * c.preambleSymbols + 17) * c.modulation.symbolMicros) 4
  push_cast at hpreamble
  rw [formulaMicros, hpreamble, ← payloadBlocks_eq_formula, airMicros, CodingRate.denominator_eq]
  push_cast
  rfl

/-- Where a symbol is a multiple of four microseconds, the formula rounds nothing but the blocks. -/
theorem airMicros_eq_exact (hb : c.modulation.bandwidth.Dyadic) (len : Nat) :
    (c.airMicros len : ℚ) = c.exactMicros len := by
  obtain ⟨hsymbol, k, hk⟩ := Modulation.symbolMicros_dyadic hb
  have hhertz : (c.modulation.bandwidth.hertz : ℚ) ≠ 0 := by
    have := c.modulation.bandwidth.hertz_ge
    exact_mod_cast (by omega : c.modulation.bandwidth.hertz ≠ 0)
  have hTs : (2 ^ c.modulation.spreadingFactor.bits * 1000000 : ℚ) / c.modulation.bandwidth.hertz
      = c.modulation.symbolMicros := by
    rw [div_eq_iff hhertz]
    exact_mod_cast hsymbol.symm
  have hblocks : (c.formulaBlocks len : ℚ) = c.payloadBlocks len := by
    rw [← payloadBlocks_eq_formula]
    rfl
  -- The quarter symbols come out even, as the symbol time is a multiple of four.
  have hquarters : (4 * c.preambleSymbols + 17) * (4 * k) / 4
      = (4 * c.preambleSymbols + 17) * k := by
    rw [Nat.mul_left_comm, Nat.mul_div_cancel_left _ (by omega)]
  rw [exactMicros, hTs, hblocks, airMicros, CodingRate.denominator_eq, hk, hquarters]
  push_cast
  ring

/-! ## Longer frames -/

theorem payloadBlocks_mono {len longer : Nat} (h : len ≤ longer) :
    c.payloadBlocks len ≤ c.payloadBlocks longer := Nat.div_le_div_right (by omega)

theorem airMicros_mono {len longer : Nat} (h : len ≤ longer) :
    c.airMicros len ≤ c.airMicros longer := by
  have hblocks := Nat.mul_le_mul_right c.codingRate.denominator (c.payloadBlocks_mono h)
  exact Nat.add_le_add_left (Nat.mul_le_mul_right _ (Nat.add_le_add_left hblocks 8)) _

theorem airMicros_mono_preamble {n : Nat} (h : c.preambleSymbols ≤ n) (len : Nat) :
    c.airMicros len ≤ { c with preambleSymbols := n }.airMicros len := by
  have hpreamble : (4 * c.preambleSymbols + 17) * c.modulation.symbolMicros / 4
      ≤ (4 * n + 17) * c.modulation.symbolMicros / 4 :=
    Nat.div_le_div_right (Nat.mul_le_mul_right _ (by omega))
  exact Nat.add_le_add_right hpreamble _

/-- What is longer in microseconds is no shorter on a clock that stops. -/
theorem ofMicros_mono {a b : Nat} (h : a ≤ b) : Duration.ofMicros a ≤ Duration.ofMicros b :=
  min_le_min_right horizon h

/--
**Time on air is the modem's formula.** In words of 64 bits nothing overflows and nothing is divided
by zero; a symbol is `2 ^ SF / BW` rounded down; and the airtime grows with the frame and with the
preamble. On a dyadic bandwidth nothing is rounded.
-/
theorem airtime_formula {len : Nat} (hlen : len < 4294967296)
    (hpreamble : c.preambleSymbols < 65536) :
    c.timeOnAir len = .ok (c.airtime len)
      ∧ ((c.airtime len).micros : Int) = c.formulaMicros len
      ∧ (c.modulation.symbolMicros : Int)
          = ⌊(2 ^ c.modulation.spreadingFactor.bits * 1000000 : ℚ) / c.modulation.bandwidth.hertz⌋
      ∧ (∀ longer, len ≤ longer → c.airtime len ≤ c.airtime longer)
      ∧ (∀ n, c.preambleSymbols ≤ n →
          c.airtime len ≤ { c with preambleSymbols := n }.airtime len)
      ∧ (c.modulation.bandwidth.Dyadic → ((c.airtime len).micros : ℚ) = c.exactMicros len) := by
  have hmicros := c.micros_airtime hlen hpreamble
  refine ⟨c.timeOnAir_eq hlen hpreamble, ?_, c.modulation.symbolMicros_eq, ?_, ?_, ?_⟩
  · rw [hmicros, airMicros_eq_formula]
  · intro longer h
    exact ofMicros_mono (c.airMicros_mono h)
  · intro n h
    exact ofMicros_mono (c.airMicros_mono_preamble h len)
  · intro hb
    rw [hmicros, airMicros_eq_exact c hb]

/-- An empty frame in the first symbols of SF12, where there is room for 40 bits more. -/
theorem airtime_formula_room_left :
    let c : TransmitConfig := ⟨14, 868100000, .fourFifths, ⟨.sf12, .khz125⟩, 8, true, false, true⟩
    c.codedBits 0 = -40 ∧ c.timeOnAir 0 = .ok (.ofMicros 663552)
      ∧ c.formulaMicros 0 = 663552 ∧ c.exactMicros 0 = 663552
      ∧ c.airtime 0 ≤ c.airtime 10 ∧ c.airtime 0 ≤ { c with preambleSymbols := 12 }.airtime 0 := by
  intro c
  obtain ⟨hword, hformula, -, hlonger, hpreamble, hexact⟩ :=
    airtime_formula c (show 0 < 4294967296 by decide) (show 8 < 65536 by decide)
  have hmicros : c.airtime 0 = .ofMicros 663552 := by decide
  have hdyadic : c.modulation.bandwidth.Dyadic := by decide
  rw [hmicros] at hword hformula
  refine ⟨by decide, hword, hformula.symm, ?_, hlonger 10 (by decide), hpreamble 12 (by decide)⟩
  rw [← hexact hdyadic, hmicros]
  rfl

end TransmitConfig

end LoraLink
