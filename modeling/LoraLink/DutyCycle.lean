/-!
# Duty cycles

A duty cycle is the share of time a sender may be on air. It comes from outside, so it can be
anything that a floating-point number can be; whoever depends on its being a share checks that.
-/

namespace LoraLink

/-- A share of time, by the bits of its number. So even what is no number stays what it was. -/
structure DutyCycle where
  bits : UInt64
deriving DecidableEq

namespace DutyCycle

/-- The share of time that a float is. -/
def ofFloat (share : Float) : DutyCycle := ⟨share.toBits⟩

/-- The float back. -/
def share (c : DutyCycle) : Float := Float.ofBits c.bits

/-- Is it a share of time, and not none of it? -/
def isValid (c : DutyCycle) : Bool := 0.0 < c.share && c.share ≤ 1.0

end DutyCycle

end LoraLink
