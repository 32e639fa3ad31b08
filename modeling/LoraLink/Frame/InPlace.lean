import LoraLink.Frame.Data

/-!
# Reading frames in place

`DataFrame.decode` takes a frame apart from its first byte on. A device has the frame in a buffer
and reads it where it stands: it looks at single bytes by their index, and cuts out pieces by where
they start and where they end. So it can fail in ways that have nothing to do with what the frame
says: a position may lie outside the buffer, and there may be more commands among the options than
the device keeps room for.

The readers here go by positions and tell such a fault from what is wrong with the frame.
-/

namespace LoraLink

/-- What stops a reader that goes by positions, whatever it is that it reads. -/
inductive ReadFault where
  /-- There is nothing at a position. -/
  | outOfRange
  /-- There is no room for another command. -/
  | optionsFull
deriving DecidableEq

/-- The byte at an index. -/
def byteAt (bytes : List UInt8) (i : Nat) : Except ReadFault UInt8 :=
  match bytes[i]? with
  | some b => .ok b
  | none => .error .outOfRange

/-- The bytes from one position up to another. -/
def slice (bytes : List UInt8) (start stop : Nat) : Except ReadFault (List UInt8) :=
  if start ≤ stop ∧ stop ≤ bytes.length then .ok ((bytes.take stop).drop start)
  else .error .outOfRange

/-- The bytes between a first position and a number of bytes at the end. -/
def sliceUpTo (bytes : List UInt8) (start left : Nat) : Except ReadFault (List UInt8) :=
  if left ≤ bytes.length then slice bytes start (bytes.length - left) else .error .outOfRange

namespace Command

/-- How many bytes follow the identifier of a command. -/
def Kind.payloadLength : Kind → Nat
  | linkCheckReq | dutyCycleAns | devStatusReq | rxTimingSetupAns | txParamSetupAns => 0
  | linkADRAns | dutyCycleReq | rxParamSetupAns | newChannelAns | rxTimingSetupReq
  | txParamSetupReq | dlChannelAns => 1
  | linkCheckAns | devStatusAns => 2
  | linkADRReq | rxParamSetupReq | dlChannelReq => 4
  | newChannelReq => 5

/-- The command that bytes start with, and the length of its payload. -/
def readOne (dir : Direction) (bytes : List UInt8) :
    Except ReadFault (Except StreamError (Command × Nat)) := do
  match Kind.ofId? (← byteAt bytes 0) dir with
  | none => return .error .unknown
  | some kind =>
    let behind ← slice bytes 1 bytes.length
    if behind.length < kind.payloadLength then return .error .truncated
    else
      match ofPayload? kind (← slice behind 0 kind.payloadLength) with
      | some (c, _) => return .ok (c, kind.payloadLength)
      | none => throw .outOfRange

/--
The commands from an index on, behind those that were read before. The first that cannot be read
ends the options.
-/
def readOptions (dir : Direction) (bytes : List UInt8) (index : Nat) (options : List Command) :
    Except ReadFault (List Command) := do
  if index < bytes.length then
    match ← readOne dir (← slice bytes index bytes.length) with
    | .error _ => return options
    | .ok (c, len) =>
      if options.length < maxOptionsLength then
        readOptions dir bytes (index + (1 + len)) (options ++ [c])
      else throw .optionsFull
  else return options
termination_by bytes.length - index

end Command

/-- The header that bytes start with, and how many of them it takes up. -/
def FrameHeader.read (dir : Direction) (bytes : List UInt8) :
    Except ReadFault (Option (FrameHeader × Nat)) := do
  if bytes.length < 7 then return none
  else
    let control : FrameControl := ⟨← byteAt bytes 4, dir⟩
    let len := control.optionsLength
    if bytes.length < 7 + len then return none
    else
      let options ← Command.readOptions dir (← slice bytes 7 (7 + len)) 0 []
      let counter := UInt16.ofNat (ofLittleEndian [← byteAt bytes 5, ← byteAt bytes 6])
      let raw ← slice bytes 0 4
      let address : DeviceAddress :=
        .ofBytes (← byteAt raw 0) (← byteAt raw 1) (← byteAt raw 2) (← byteAt raw 3)
      return some ({ address, control, counter, options }, 7 + len)

/-- Reads a data frame. If more than one thing is wrong, the error is the first in their order. -/
def DataFrame.read (bytes : List UInt8) : Except ReadFault (Except DecodeError DataFrame) := do
  if bytes = [] then return .error .empty
  else
    let messageHeader : MessageHeader := ⟨← byteAt bytes 0⟩
    if !messageHeader.knownFormat then return .error .unknownFormat
    else
      match messageHeader.type.direction? with
      | none => return .error .notData
      | some direction =>
        if bytes.length < minFrameLength then return .error .tooShort
        else
          let body ← sliceUpTo bytes 1 integrityLength
          match ← FrameHeader.read direction body with
          | none => return .error .tooShort
          | some (header, used) =>
            let (port, payload) := splitPort (← slice body used body.length)
            if port = some 0 ∧ header.options ≠ [] then return .error .commandsTwice
            else return .ok { messageHeader, direction, header, port, payload }

end LoraLink
