import LoraLink.Frame.Data
import LoraLink.FrameBuffer

/-!
# Writing data frames

A draft holds what a data frame says besides its payload and its commands. Writing it puts the
commands into the options or, on port 0, into the payload, works out the length of the options and
closes with an integrity code of four zeros.
-/

namespace LoraLink

/-- Why a frame, or the header of one, cannot be written. -/
inductive EncodeError where
  /-- A command goes the other way. -/
  | wrongDirection
  /-- Data on port 0, where commands go. -/
  | dataOnPortZero
  /-- Data without a port. -/
  | missingPort
  | optionsTooLong
  | bufferTooSmall
deriving DecidableEq

/--
Writes a header behind what a buffer holds. A header that is too long in itself leaves the buffer
as it was; one that does not fit leaves there the pieces that did.
-/
def FrameHeader.write (h : FrameHeader) (buffer : FrameBuffer) :
    Except EncodeError Unit × FrameBuffer :=
  match h.pieces? with
  | none => (.error .optionsTooLong, buffer)
  | some pieces =>
    match buffer.appendAll pieces with
    | (true, buffer) => (.ok (), buffer)
    | (false, buffer) => (.error .bufferTooSmall, buffer)

/-- A data frame to be written. -/
structure Draft where
  direction : Direction := .up
  confirmed : Bool := false
  address : DeviceAddress := ⟨0⟩
  /-- The control byte; its lower nibble is overwritten. -/
  control : UInt8 := 0
  counter : UInt16 := 0
  port : Option UInt8 := none

namespace Draft

/-- The frame header with the given options. -/
def header (d : Draft) (options : List Command) : FrameHeader :=
  { address := d.address, control := ⟨d.control, d.direction⟩, counter := d.counter, options }

/-- What follows the frame header, in the pieces in which it is written. -/
def bodyPieces (d : Draft) (payload : List UInt8) (commands : List Command) : List (List UInt8) :=
  let port := match d.port with
    | some p => [[p]]
    | none => []
  let content :=
    if d.port = some 0 then commands.flatMap fun c => [[c.id], c.payload] else [payload]
  port ++ content ++ [List.replicate integrityLength 0]

/-- The whole frame in pieces, or the first thing that is wrong with it. -/
def pieces (d : Draft) (payload : List UInt8) (commands : List Command) :
    Except EncodeError (List (List UInt8)) :=
  if commands.any fun c => c.direction ≠ d.direction then .error .wrongDirection
  else if d.port = some 0 ∧ payload ≠ [] then .error .dataOnPortZero
  else if d.port = none ∧ payload ≠ [] then .error .missingPort
  else
    match (d.header (if d.port = some 0 then [] else commands)).pieces? with
    | none => .error .optionsTooLong
    | some headerPieces =>
      let first := MessageHeader.ofParts (.data d.direction d.confirmed) true
      .ok ([first.raw] :: headerPieces ++ d.bodyPieces payload commands)

/-- The bytes of the frame. -/
def encode (d : Draft) (payload : List UInt8) (commands : List Command) :
    Except EncodeError (List UInt8) :=
  (d.pieces payload commands).map List.flatten

/--
Writes the frame over what a buffer holds. A draft that is wrong in itself leaves the buffer as it
was; one that is too long leaves there the pieces that fitted.
-/
def write (d : Draft) (payload : List UInt8) (commands : List Command) (buffer : FrameBuffer) :
    Except EncodeError Unit × FrameBuffer :=
  match d.pieces payload commands with
  | .error e => (.error e, buffer)
  | .ok pieces =>
    match buffer.clear.appendAll pieces with
    | (true, buffer) => (.ok (), buffer)
    | (false, buffer) => (.error .bufferTooSmall, buffer)

end Draft

end LoraLink
