import LoraLink.Frame.Header

/-!
# Data frames

A data frame is a message header, a frame header, and, if anything follows, a port and a payload;
the last four bytes are the integrity code, which is not checked. Commands travel in the options
or, on port 0, in the payload, never in both.
-/

namespace LoraLink

/-- Why bytes are no data frame. -/
inductive DecodeError where
  | empty
  | unknownFormat
  | notData
  /-- Too short for its headers and the integrity code. -/
  | tooShort
  /-- Options beside commands in the payload. -/
  | commandsTwice
deriving DecidableEq

/-- The length of the integrity code. -/
def integrityLength : Nat := 4

/-- The message header, a frame header without options, and the integrity code. -/
def minFrameLength : Nat := 12

/-- A decoded data frame. -/
structure DataFrame where
  messageHeader : MessageHeader
  direction : Direction
  header : FrameHeader
  port : Option UInt8
  payload : List UInt8
deriving DecidableEq

namespace DataFrame

/-- Port and payload: the first byte behind the headers is the port. -/
def splitPort : List UInt8 → Option UInt8 × List UInt8
  | [] => (none, [])
  | port :: payload => (some port, payload)

/-- Reads a data frame. If more than one thing is wrong, the error is the first in their order. -/
def decode (bytes : List UInt8) : Except DecodeError DataFrame :=
  match bytes with
  | [] => .error .empty
  | first :: rest =>
    let messageHeader : MessageHeader := ⟨first⟩
    if !messageHeader.knownFormat then .error .unknownFormat
    else match messageHeader.type.direction? with
      | none => .error .notData
      | some direction =>
        if bytes.length < minFrameLength then .error .tooShort
        else match FrameHeader.decode? direction (rest.take (rest.length - integrityLength)) with
          | none => .error .tooShort
          | some (header, body) =>
            let (port, payload) := splitPort body
            if port = some 0 ∧ header.options ≠ [] then .error .commandsTwice
            else .ok { messageHeader, direction, header, port, payload }

/-- The type that the first byte tells. -/
def type (f : DataFrame) : MessageType := f.messageHeader.type

/-- Does the frame come from a device? -/
def isUplink (f : DataFrame) : Bool := f.type.isUplink

/-- Is the frame to be acknowledged? -/
def isConfirmed (f : DataFrame) : Bool := f.type.isConfirmed

/-- The commands of the frame, and why they end early if they do. -/
def commands (f : DataFrame) : List Command × Option Command.StreamError :=
  let inPayload := if f.port = some 0 then f.payload else []
  let (cs, e) := Command.decodeAll f.direction inPayload
  (f.header.options ++ cs, e)

end DataFrame

end LoraLink
