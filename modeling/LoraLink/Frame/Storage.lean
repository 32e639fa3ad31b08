import LoraLink.Frame.Draft

/-!
# Writing frames in place

A `FrameBuffer` holds the bytes that were written and nothing else. A device has an array of fixed
length and counts how many of its bytes are in use: a piece is copied over what stands behind them,
and clearing the array only sets the count back. A copy past the end of the array would be a fault,
whatever it is that is copied.

The writer here goes by positions in the array and tells such a fault from what a caller is told.
-/

namespace LoraLink

/-- An array of bytes, and how many of them are in use. -/
structure Storage where
  memory : List UInt8
  used : Nat

/-- The bytes in use. -/
def Storage.content (s : Storage) : List UInt8 := s.memory.take s.used

/-- What stops a writer that goes by positions, whatever it is that it writes. -/
inductive WriteFault where
  /-- A piece would end behind the array. -/
  | outOfRange
deriving DecidableEq

/-- Writes into an array. -/
abbrev Writer (α : Type) : Type := ExceptT EncodeError (StateT Storage (Except WriteFault)) α

namespace Writer

/-- What comes of it, and the array afterwards. -/
def runOn {α : Type} (w : Writer α) (s : Storage) :
    Except WriteFault (Except EncodeError α × Storage) :=
  StateT.run (ExceptT.run w) s

/-- Starts anew; the bytes stay in memory. -/
def clear : Writer Unit := modify fun s => { s with used := 0 }

/-- Copies a piece over the bytes from a position on. -/
def copy (start : Nat) (piece : List UInt8) : Writer Unit := do
  let s ← get
  if start + piece.length ≤ s.memory.length then
    set { s with memory := Command.patch s.memory start piece }
  else throwThe WriteFault .outOfRange

/-- Adds a piece behind the bytes in use, if there is room for all of it. -/
def extend (piece : List UInt8) : Writer Unit := do
  let s ← get
  if s.used + piece.length ≤ s.memory.length then
    copy s.used piece
    modify fun s => { s with used := s.used + piece.length }
  else throw .bufferTooSmall

/-- Adds commands, each identifier and each payload for itself. -/
def extendCommands : List Command → Writer Unit
  | [] => pure ()
  | c :: cs => do
    extend [c.id]
    extend c.payload
    extendCommands cs

/-- Adds a header. -/
def extendHeader (h : FrameHeader) : Writer Unit := do
  let len := Command.sizeAll h.options
  if maxOptionsLength < len then throw .optionsTooLong
  else
    extend h.address.bytes
    extend [(h.control.setOptionsLength len).raw]
    extend (littleEndian 2 h.counter.toNat)
    extendCommands h.options

/-- Writes the port, if there is one. -/
def extendPort : Option UInt8 → Writer Unit
  | some port => extend [port]
  | none => pure ()

end Writer

/--
Tries to add a command to the options. It may not make them too long, and the list of options has
room for 15. A header to which it cannot be added stays as it is.
-/
def FrameHeader.tryPush (h : FrameHeader) (c : Command) : Except EncodeError Unit × FrameHeader :=
  if maxOptionsLength < Command.sizeAll h.options + c.size then (.error .optionsTooLong, h)
  else
    match h.pushUnsized? c with
    | none => (.error .optionsTooLong, h)
    | some h => (.ok (), h)

/--
Adds commands to the options one after another. None may make the options too long, and the list of
options has room for 15.
-/
def FrameHeader.pushAll (h : FrameHeader) : List Command → Except EncodeError FrameHeader
  | [] => .ok h
  | c :: cs =>
    if maxOptionsLength < Command.sizeAll h.options + c.size then .error .optionsTooLong
    else
      match h.pushUnsized? c with
      | none => .error .optionsTooLong
      | some h => h.pushAll cs

namespace Draft

/-- Adds the commands on port 0, and the payload on any other. -/
def extendContent (d : Draft) (payload : List UInt8) (commands : List Command) : Writer Unit :=
  if d.port = some 0 then Writer.extendCommands commands else Writer.extend payload

/-- Writes the frame over what an array holds. -/
def build (d : Draft) (payload : List UInt8) (commands : List Command) : Writer Unit := do
  if commands.any fun c => c.direction ≠ d.direction then throw .wrongDirection
  else if d.port = some 0 ∧ payload ≠ [] then throw .dataOnPortZero
  else if d.port = none ∧ payload ≠ [] then throw .missingPort
  else
    let header ← MonadExcept.ofExcept
      ((d.header []).pushAll (if d.port = some 0 then [] else commands))
    Writer.clear
    Writer.extend [(MessageHeader.ofParts (.data d.direction d.confirmed) true).raw]
    Writer.extendHeader header
    Writer.extendPort d.port
    d.extendContent payload commands
    Writer.extend (List.replicate integrityLength 0)

end Draft

end LoraLink
