/-!
# Hexadecimal text

Bytes as text: two digits for each, the upper half first, letters in lower case.
-/

namespace LoraLink

namespace Hex

/-- The digit for a number below 16. -/
def digit (n : Nat) : Char := Char.ofNat (if n < 10 then '0'.toNat + n else 'a'.toNat + (n - 10))

/-- The number a digit stands for. -/
def value? (c : Char) : Option Nat :=
  if '0' ≤ c && c ≤ '9' then some (c.toNat - '0'.toNat)
  else if 'a' ≤ c && c ≤ 'f' then some (c.toNat - 'a'.toNat + 10)
  else none

/-- The lower `width` digits of a number, the highest first. -/
def ofNat : Nat → Nat → List Char
  | 0, _ => []
  | width + 1, n => ofNat width (n / 16) ++ [digit (n % 16)]

/-- The number that digits write. -/
def toNat? (cs : List Char) : Option Nat :=
  cs.foldlM (fun n c => (value? c).map (16 * n + ·)) 0

def encode (bytes : List UInt8) : String :=
  String.ofList (bytes.flatMap fun b => ofNat 2 b.toNat)

/-- The 16 digits of a 64-bit word. -/
def ofWord (w : UInt64) : String := String.ofList (ofNat 16 w.toNat)

/-- The bytes that pairs of digits write. -/
def decodeChars? : List Char → Option (List UInt8)
  | [] => some []
  | a :: b :: rest => do
    let high ← value? a
    let low ← value? b
    return UInt8.ofNat (16 * high + low) :: (← decodeChars? rest)
  | _ => none

def decode? (s : String) : Option (List UInt8) := decodeChars? s.toList

end Hex

end LoraLink
