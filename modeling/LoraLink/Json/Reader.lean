import LoraLink.Json.Basic
import LoraLink.Json.Decimal

/-!
# Reading JSON

A text holds one value, with blanks around it and between its parts. Each reader takes what it reads
off the front of the characters and gives the rest.
-/

namespace LoraLink

namespace Json

def isBlank (c : Char) : Bool := c = ' ' || c = '\t' || c = '\n' || c = '\r'

def skipBlanks (cs : List Char) : List Char := cs.dropWhile isBlank

/-! ## Numbers -/

/-- The number that decimal digits write. -/
def ofDigits (ds : List Char) : Nat := ds.foldl (fun n d => 10 * n + (d.toNat - '0'.toNat)) 0

/-- Digits, of which there must be at least one. -/
def readDigits? (cs : List Char) : Option (List Char × List Char) :=
  match cs.takeWhile Char.isDigit with
  | [] => none
  | ds => some (ds, cs.dropWhile Char.isDigit)

/-- The digits behind a point, if there is a point. -/
def readFraction? : List Char → Option (List Char × List Char)
  | '.' :: cs => readDigits? cs
  | cs => some ([], cs)

/-- The exponent behind an `e`, if there is an `e`. -/
def readExponent? : List Char → Option (Option Int × List Char)
  | 'e' :: cs | 'E' :: cs =>
    match cs with
    | '-' :: cs => (readDigits? cs).map fun (ds, cs) => (some (-(ofDigits ds : Int)), cs)
    | '+' :: cs => (readDigits? cs).map fun (ds, cs) => (some (ofDigits ds : Int), cs)
    | cs => (readDigits? cs).map fun (ds, cs) => (some (ofDigits ds : Int), cs)
  | cs => some (none, cs)

/-- A number without its sign. A leading zero stands alone. -/
def readMagnitude? (negative : Bool) (cs : List Char) : Option (Json × List Char) := do
  let (whole, cs) ← readDigits? cs
  guard (whole.length = 1 || whole.head? ≠ some '0')
  let (fraction, cs) ← readFraction? cs
  let (exponent, cs) ← readExponent? cs
  let d := (({} : Decimal).addWhole whole).addFraction fraction
  let n := d.significand
  let x := { d with exponent := d.exponent + exponent.getD 0 : Decimal }.toFloat
  -- Whole digits that did not fit have raised the exponent.
  let isInteger := fraction.isEmpty && exponent.isNone && d.exponent = 0 && !(negative && n = 0)
  let value :=
    if isInteger then Json.integer (if negative then -n else n)
    else Json.float (if negative then -x else x)
  return (value, cs)

def readNumber? : List Char → Option (Json × List Char)
  | '-' :: cs => readMagnitude? true cs
  | cs => readMagnitude? false cs

/-! ## Strings -/

def hexDigit? (c : Char) : Option Nat :=
  if c.isDigit then some (c.toNat - '0'.toNat)
  else if 'a' ≤ c && c ≤ 'f' then some (c.toNat - 'a'.toNat + 10)
  else if 'A' ≤ c && c ≤ 'F' then some (c.toNat - 'A'.toNat + 10)
  else none

/-- The 16 bits that four hexadecimal digits write. -/
def hexUnit? (a b c d : Char) : Option Nat := do
  return ((← hexDigit? a) * 16 + (← hexDigit? b)) * 256 + (← hexDigit? c) * 16 + (← hexDigit? d)

/-- What a backslash makes of the letter behind it. -/
def escaped? : Char → Option Char
  | '"' => some '"'
  | '\\' => some '\\'
  | '/' => some '/'
  | 'b' => some '\x08'
  | 'f' => some '\x0c'
  | 'n' => some '\n'
  | 'r' => some '\r'
  | 't' => some '\t'
  | _ => none

/-- A character as it stands in a string, or 16 bits given by their number. -/
abbrev StringUnit := Char ⊕ Nat

/-- The units of a string up to its closing quote. -/
def readUnits? : List Char → Option (List StringUnit × List Char)
  | [] => none
  | '"' :: cs => some ([], cs)
  | '\\' :: 'u' :: a :: b :: c :: d :: cs => do
    let unit ← hexUnit? a b c d
    let (units, cs) ← readUnits? cs
    return (.inr unit :: units, cs)
  | '\\' :: e :: cs => do
    let c ← escaped? e
    let (units, cs) ← readUnits? cs
    return (.inl c :: units, cs)
  | c :: cs => do
    guard (32 ≤ c.toNat && c ≠ '\\')
    let (units, cs) ← readUnits? cs
    return (.inl c :: units, cs)

/-- The characters that units stand for: two halves of a surrogate pair are one character. -/
def joinUnits? : List StringUnit → Option (List Char)
  | [] => some []
  | .inl c :: units => (joinUnits? units).map (c :: ·)
  | .inr hi :: .inr lo :: units =>
    if 0xD800 ≤ hi && hi < 0xDC00 then
      if 0xDC00 ≤ lo && lo < 0xE000 then
        let code := 0x10000 + (hi - 0xD800) * 0x400 + (lo - 0xDC00)
        (joinUnits? units).map (Char.ofNat code :: ·)
      else none
    else if 0xDC00 ≤ hi && hi < 0xE000 then none
    else (joinUnits? (.inr lo :: units)).map (Char.ofNat hi :: ·)
  | .inr unit :: units =>
    if 0xD800 ≤ unit && unit < 0xE000 then none
    else (joinUnits? units).map (Char.ofNat unit :: ·)

/-- The text of a string whose opening quote has been read. -/
def readText? (cs : List Char) : Option (Option String × List Char) :=
  (readUnits? cs).map fun (units, cs) => ((joinUnits? units).map String.ofList, cs)

/-! ## Values -/

mutual

/-- A value, with blanks in front of it. -/
def readValue? : Nat → List Char → Option (Json × List Char)
  | 0, _ => none
  | fuel + 1, cs =>
    match skipBlanks cs with
    | 'n' :: 'u' :: 'l' :: 'l' :: cs => some (.null, cs)
    | 't' :: 'r' :: 'u' :: 'e' :: cs => some (.bool true, cs)
    | 'f' :: 'a' :: 'l' :: 's' :: 'e' :: cs => some (.bool false, cs)
    | '"' :: cs => (readText? cs).map fun (t, cs) => (.string t, cs)
    | '[' :: cs =>
      match skipBlanks cs with
      | ']' :: cs => some (.array [], cs)
      | cs => (readItems? fuel cs).map fun (items, cs) => (.array items, cs)
    | '\x7b' :: cs =>
      match skipBlanks cs with
      | '\x7d' :: cs => some (.object [], cs)
      | cs => (readMembers? fuel cs).map fun (members, cs) => (.object members, cs)
    | cs => readNumber? cs

/-- The items of an array, of which there is at least one, and its closing bracket. -/
def readItems? : Nat → List Char → Option (List Json × List Char)
  | 0, _ => none
  | fuel + 1, cs =>
    match readValue? fuel cs with
    | none => none
    | some (item, cs) =>
      match skipBlanks cs with
      | ',' :: cs => (readItems? fuel cs).map fun (items, cs) => (item :: items, cs)
      | ']' :: cs => some ([item], cs)
      | _ => none

/-- The members of an object, of which there is at least one, and its closing brace. -/
def readMembers? : Nat → List Char → Option (List (Option String × Json) × List Char)
  | 0, _ => none
  | fuel + 1, cs =>
    match skipBlanks cs with
    | '"' :: cs =>
      match readText? cs with
      | some (name, cs) =>
        match skipBlanks cs with
        | ':' :: cs =>
          match readValue? fuel cs with
          | none => none
          | some (value, cs) =>
            match skipBlanks cs with
            | ',' :: cs =>
              (readMembers? fuel cs).map fun (members, cs) => ((name, value) :: members, cs)
            | '\x7d' :: cs => some ([(name, value)], cs)
            | _ => none
        | _ => none
      | none => none
    | _ => none

end

/-- The value a text holds. Every call takes a character or is followed by one that does. -/
def parse? (s : String) : Option Json :=
  let cs := s.toList
  match readValue? (2 * cs.length + 2) cs with
  | some (value, rest) => if (skipBlanks rest).isEmpty then some value else none
  | none => none

end Json

end LoraLink
