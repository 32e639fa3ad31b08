/-!
# Decimal numbers as floats

A decimal number becomes a float in two steps. First its digits are gathered into a significand of
64 bits. From the first whole digit on that does not fit any more, whole digits only count as
powers of ten; from the first digit behind the point on that does not fit, digits are dropped. Then
the significand is rounded to a float, and multiplied with or divided by a power of ten that is
rounded itself.

Where significand and power are exact as floats, which is so up to `2 ^ 53` and `10 ^ 22`, the
result is the nearest float. Beyond that it may differ from it in the last bits, and close to the
largest float it may overflow though the number does not.
-/

namespace LoraLink

/-- The number `significand * 10 ^ exponent`. -/
structure Decimal where
  significand : Nat := 0
  exponent : Int := 0

namespace Decimal

/-- Significands have 64 bits. -/
def maxSignificand : Nat := 18446744073709551615

/-- A significand with one more digit, if that fits. -/
def shift? (significand : Nat) (digit : Char) : Option Nat :=
  let n := 10 * significand + (digit.toNat - '0'.toNat)
  if n ≤ maxSignificand then some n else none

/-- Adds the digits before the point. -/
def addWhole (d : Decimal) : List Char → Decimal
  | [] => d
  | c :: cs =>
    match shift? d.significand c with
    | some significand => { d with significand }.addWhole cs
    | none => { d with exponent := d.exponent + (c :: cs).length }

/-- Adds the digits behind the point. -/
def addFraction (d : Decimal) : List Char → Decimal
  | [] => d
  | c :: cs =>
    match shift? d.significand c with
    | some significand => { significand, exponent := d.exponent - 1 : Decimal }.addFraction cs
    | none => d

/-- The largest power of ten that is finite as a float. -/
def maxPower : Nat := 308

def powerOfTen (n : Nat) : Float := Float.ofScientific 1 false n

/-- Infinite if the product is too large. -/
def multiply (x : Float) (n : Nat) : Float :=
  if n ≤ maxPower then x * powerOfTen n
  else if x == 0.0 then x
  else 1.0 / 0.0

/-- Divides by the largest power as often as needed, or until nothing is left. -/
def divide (x : Float) (n : Nat) : Float :=
  if n ≤ maxPower then x / powerOfTen n
  else if x == 0.0 then x
  else divide (x / powerOfTen maxPower) (n - maxPower)
termination_by n
decreasing_by simp only [maxPower] at *; omega

/-- The float a decimal number becomes. -/
def toFloat (d : Decimal) : Float :=
  let x := (UInt64.ofNat d.significand).toFloat
  if 0 ≤ d.exponent then multiply x d.exponent.toNat else divide x (-d.exponent).toNat

end Decimal

end LoraLink
