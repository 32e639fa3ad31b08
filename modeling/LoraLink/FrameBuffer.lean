/-!
# Frame buffers

A frame is assembled in a buffer of fixed capacity, piece by piece. A piece is written whole or not
at all, so when a frame does not fit, what the buffer holds is the pieces before the first that did
not.
-/

namespace LoraLink

/-- The bytes written so far, never more than the capacity. -/
structure FrameBuffer where
  capacity : Nat
  bytes : List UInt8
  fits : bytes.length ≤ capacity

namespace FrameBuffer

/-- A buffer with nothing in it. -/
def empty (capacity : Nat) : FrameBuffer := ⟨capacity, [], Nat.zero_le _⟩

/-- Takes everything out of the buffer. -/
def clear (b : FrameBuffer) : FrameBuffer := empty b.capacity

/-- Adds a piece behind what is there, if there is room for all of it. -/
def append? (b : FrameBuffer) (piece : List UInt8) : Option FrameBuffer :=
  if h : b.bytes.length + piece.length ≤ b.capacity then
    some ⟨b.capacity, b.bytes ++ piece, by simpa using h⟩
  else
    none

/-- Overwrites every byte written so far with one value. -/
def fill (b : FrameBuffer) (value : UInt8) : FrameBuffer :=
  ⟨b.capacity, List.replicate b.bytes.length value, by simpa using b.fits⟩

/--
Writes pieces in order until one does not fit. Says whether all were written; the buffer holds those
that were.
-/
def appendAll (b : FrameBuffer) : List (List UInt8) → Bool × FrameBuffer
  | [] => (true, b)
  | piece :: rest =>
    match b.append? piece with
    | some b => b.appendAll rest
    | none => (false, b)

end FrameBuffer

end LoraLink
