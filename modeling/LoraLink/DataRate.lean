/-!
# Data rates

A region numbers its modulations: the data rates 0 to 15, slowest first. What a number stands for,
and which of them may be used, is up to the region.
-/

namespace LoraLink

/-- The index of a data rate in its region's table. -/
abbrev DataRate := Fin 16

namespace DataRate

/-- The data rate with the given index, if there is one. -/
def ofNat? (n : Nat) : Option DataRate := if h : n < 16 then some ⟨n, h⟩ else none

/-- The next slower data rate. -/
def lower? (d : DataRate) : Option DataRate :=
  match d with
  | ⟨0, _⟩ => none
  | ⟨n + 1, h⟩ => some ⟨n, Nat.lt_of_succ_lt h⟩

/-- Lies `d` between `lo` and `hi`, both included? -/
def inRange (d lo hi : DataRate) : Bool := lo ≤ d && d ≤ hi

end DataRate

end LoraLink
