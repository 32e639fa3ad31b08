/-!
# Instants and durations

Every node of a network reads one logical clock that counts whole microseconds. The counter has 64
bits, so there is a last instant and a longest duration, and the arithmetic stops there instead of
wrapping: a sum that does not fit is the last instant, a difference that would be negative is empty.

The longest duration stands for "never". It is what a waiting time is when no amount of waiting
helps, and saturation keeps it stable: never plus anything is never.
-/

namespace LoraLink

/-- The largest count of microseconds the clock can hold. -/
abbrev horizon : Nat := 18446744073709551615

/-- A point on the clock, in microseconds since its start. -/
@[ext]
structure Instant where
  micros : Nat
  le_horizon : micros ≤ horizon

/-- A span of time in microseconds. -/
@[ext]
structure Duration where
  micros : Nat
  le_horizon : micros ≤ horizon

/-! ## Durations -/

namespace Duration

instance : DecidableEq Duration := fun a b =>
  decidable_of_iff (a.micros = b.micros) Duration.ext_iff.symm

/-- The span of `n` microseconds, or the longest span if `n` is past it. -/
def ofMicros (n : Nat) : Duration := ⟨min n horizon, Nat.min_le_right _ _⟩

def ofMillis (n : Nat) : Duration := ofMicros (n * 1000)

def ofSeconds (n : Nat) : Duration := ofMicros (n * 1000000)

/-- No time at all. -/
def zero : Duration := ⟨0, Nat.zero_le _⟩

/-- The longest span, read as "never". -/
def never : Duration := ⟨horizon, Nat.le_refl _⟩

instance : Inhabited Duration := ⟨zero⟩

def isZero (d : Duration) : Bool := d.micros == 0

/-- Does the span stand for "never"? -/
def isNever (d : Duration) : Bool := d.micros == horizon

instance : LE Duration := ⟨fun a b => a.micros ≤ b.micros⟩

instance : LT Duration := ⟨fun a b => a.micros < b.micros⟩

instance (a b : Duration) : Decidable (a ≤ b) := inferInstanceAs (Decidable (a.micros ≤ b.micros))

instance (a b : Duration) : Decidable (a < b) := inferInstanceAs (Decidable (a.micros < b.micros))

instance : Max Duration := maxOfLe

instance : Min Duration := minOfLe

instance : Add Duration := ⟨fun a b => ofMicros (a.micros + b.micros)⟩

/-- The difference stops at zero. -/
instance : Sub Duration :=
  ⟨fun a b => ⟨a.micros - b.micros, Nat.le_trans (Nat.sub_le _ _) a.le_horizon⟩⟩

/-- `n` times as long. -/
def scale (d : Duration) (n : Nat) : Duration := ofMicros (d.micros * n)

/-- Whole milliseconds, rounded down. -/
def millis (d : Duration) : Nat := d.micros / 1000

/-- The count of microseconds as the nearest floating-point number. -/
def toFloat (d : Duration) : Float := (UInt64.ofNat d.micros).toFloat

def seconds (d : Duration) : Float := d.toFloat / 1000000

/--
The span of which `d` is the given fraction, to the nearest microsecond.

A quotient at or past `2 ^ 64` is never; one that is negative or not a number is no time at all.
-/
def divideBy (d : Duration) (fraction : Float) : Duration :=
  let quotient := d.toFloat / fraction + 0.5
  if 18446744073709551616.0 ≤ quotient then never else ofMicros quotient.toUInt64.toNat

@[simp] theorem micros_zero : zero.micros = 0 := rfl

@[simp] theorem micros_never : never.micros = horizon := rfl

@[simp] theorem micros_ofMicros (n : Nat) : (ofMicros n).micros = min n horizon := rfl

@[simp] theorem micros_add (a b : Duration) : (a + b).micros = min (a.micros + b.micros) horizon :=
  rfl

@[simp] theorem micros_sub (a b : Duration) : (a - b).micros = a.micros - b.micros := rfl

theorem le_def (a b : Duration) : a ≤ b ↔ a.micros ≤ b.micros := Iff.rfl

theorem lt_def (a b : Duration) : a < b ↔ a.micros < b.micros := Iff.rfl

end Duration

/-! ## Instants -/

namespace Instant

instance : DecidableEq Instant := fun a b =>
  decidable_of_iff (a.micros = b.micros) Instant.ext_iff.symm

/-- The instant `n` microseconds after the start, or the last instant if `n` is past it. -/
def ofMicros (n : Nat) : Instant := ⟨min n horizon, Nat.min_le_right _ _⟩

def ofMillis (n : Nat) : Instant := ofMicros (n * 1000)

def ofSeconds (n : Nat) : Instant := ofMicros (n * 1000000)

/-- The start of the clock. -/
def zero : Instant := ⟨0, Nat.zero_le _⟩

instance : Inhabited Instant := ⟨zero⟩

instance : LE Instant := ⟨fun a b => a.micros ≤ b.micros⟩

instance : LT Instant := ⟨fun a b => a.micros < b.micros⟩

instance (a b : Instant) : Decidable (a ≤ b) := inferInstanceAs (Decidable (a.micros ≤ b.micros))

instance (a b : Instant) : Decidable (a < b) := inferInstanceAs (Decidable (a.micros < b.micros))

instance : Max Instant := maxOfLe

instance : HAdd Instant Duration Instant := ⟨fun t d => ofMicros (t.micros + d.micros)⟩

/-- The time from `earlier` to `t`, empty if `earlier` is in the future. -/
def since (t earlier : Instant) : Duration :=
  ⟨t.micros - earlier.micros, Nat.le_trans (Nat.sub_le _ _) t.le_horizon⟩

@[simp] theorem micros_zero : zero.micros = 0 := rfl

@[simp] theorem micros_ofMicros (n : Nat) : (ofMicros n).micros = min n horizon := rfl

@[simp] theorem micros_add (t : Instant) (d : Duration) :
    (t + d).micros = min (t.micros + d.micros) horizon := rfl

@[simp] theorem micros_since (t earlier : Instant) :
    (t.since earlier).micros = t.micros - earlier.micros := rfl

theorem le_def (a b : Instant) : a ≤ b ↔ a.micros ≤ b.micros := Iff.rfl

theorem lt_def (a b : Instant) : a < b ↔ a.micros < b.micros := Iff.rfl

end Instant

end LoraLink
