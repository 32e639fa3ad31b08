import LoraLink.Command.Stream

/-!
# Headers of frames

A frame starts with a byte that says what kind of message it is. A data frame goes on with a frame
header: the address of the device, a byte of control flags, a frame counter, and up to 15 bytes of
options, which are MAC commands. How many bytes of options there are stands in the lower nibble of
the control byte. It is trusted when a header is read, and worked out from the commands when one is
written.
-/

namespace LoraLink

/-! ## The message header -/

/-- What a message is for. -/
inductive MessageType where
  | joinRequest | joinAccept | unconfirmedDataUp | unconfirmedDataDown | confirmedDataUp
  | confirmedDataDown | reserved | proprietary
deriving DecidableEq

namespace MessageType

/-- The upper three bits of the message header. -/
def code : MessageType → UInt8
  | joinRequest => 0
  | joinAccept => 1
  | unconfirmedDataUp => 2
  | unconfirmedDataDown => 3
  | confirmedDataUp => 4
  | confirmedDataDown => 5
  | reserved => 6
  | proprietary => 7

/-- The message type with a code, of which the lower three bits count. -/
def ofCode (code : UInt8) : MessageType :=
  if code % 8 = 0 then joinRequest
  else if code % 8 = 1 then joinAccept
  else if code % 8 = 2 then unconfirmedDataUp
  else if code % 8 = 3 then unconfirmedDataDown
  else if code % 8 = 4 then confirmedDataUp
  else if code % 8 = 5 then confirmedDataDown
  else if code % 8 = 6 then reserved
  else proprietary

/-- The type of data frames. -/
def data : Direction → (confirmed : Bool) → MessageType
  | .up, false => unconfirmedDataUp
  | .up, true => confirmedDataUp
  | .down, false => unconfirmedDataDown
  | .down, true => confirmedDataDown

/-- Which way a data frame goes; other messages have no frame header. -/
def direction? : MessageType → Option Direction
  | unconfirmedDataUp | confirmedDataUp => some .up
  | unconfirmedDataDown | confirmedDataDown => some .down
  | _ => none

/-- Only frames with data go one way or the other. -/
def isData (t : MessageType) : Bool := t.direction?.isSome

/-- Does a message of this type come from a device? -/
def isUplink (t : MessageType) : Bool := t.direction? = some .up

/-- Does the sender ask for an acknowledgement? -/
def isConfirmed : MessageType → Bool
  | confirmedDataUp | confirmedDataDown => true
  | _ => false

end MessageType

/-- The first byte of every message. -/
structure MessageHeader where
  raw : UInt8
deriving DecidableEq

namespace MessageHeader

/-- The header of a message of the one format this library knows, or of some other. -/
def ofParts (type : MessageType) (knownFormat : Bool) : MessageHeader :=
  ⟨type.code * 32 + if knownFormat then 0 else 1⟩

/-- The upper three bits are the type. -/
def type (h : MessageHeader) : MessageType := .ofCode (h.raw / 32)

/-- Are the two bits that tell the format zero? -/
def knownFormat (h : MessageHeader) : Bool := h.raw % 4 = 0

end MessageHeader

/-! ## The address and the control byte -/

/-- The address of a device within its network. -/
structure DeviceAddress where
  value : UInt32
deriving DecidableEq

namespace DeviceAddress

/-- An address on air, the lowest byte first. -/
def bytes (a : DeviceAddress) : List UInt8 := littleEndian 4 a.value.toNat

/-- The address whose bytes are given. -/
def ofBytes (b₀ b₁ b₂ b₃ : UInt8) : DeviceAddress :=
  ⟨UInt32.ofNat (ofLittleEndian [b₀, b₁, b₂, b₃])⟩

/-- The upper seven bits name the network. -/
def networkId (a : DeviceAddress) : Nat := (a.value >>> 25).toNat

end DeviceAddress

/-- The control byte of a frame header. Some flags have a meaning in one direction only. -/
structure FrameControl where
  raw : UInt8
  direction : Direction
deriving DecidableEq

namespace FrameControl

/-- Does the frame come from a device? -/
def isUplink (c : FrameControl) : Bool := c.direction = .up

/-- Does the network control the data rate of the device? -/
def adr (c : FrameControl) : Bool := Byte.flag c.raw 7

/-- Does the device ask to hear from the network? Uplinks only. -/
def adrAckReq (c : FrameControl) : Bool := c.isUplink && Byte.flag c.raw 6

/-- Is the last confirmed frame of the other side acknowledged? -/
def ack (c : FrameControl) : Bool := Byte.flag c.raw 5

/-- Has the network more to send? Downlinks only. -/
def pending (c : FrameControl) : Bool := !c.isUplink && Byte.flag c.raw 4

/-- Does the device listen at set times? Uplinks only. -/
def classB (c : FrameControl) : Bool := c.isUplink && Byte.flag c.raw 4

/-- The length of the options in bytes. -/
def optionsLength (c : FrameControl) : Nat := (Byte.lowNibble c.raw).toNat

/-- Says whether the data rate may be adapted. -/
def setAdr (c : FrameControl) (b : Bool) : FrameControl := { c with raw := Byte.withFlag c.raw 7 b }

/-- Asks the network for a downlink. -/
def setAdrAckReq (c : FrameControl) (b : Bool) : FrameControl :=
  { c with raw := Byte.withFlag c.raw 6 b }

/-- Says that a confirmed frame was received. -/
def setAck (c : FrameControl) (b : Bool) : FrameControl := { c with raw := Byte.withFlag c.raw 5 b }

/-- The bit that means "pending" on a downlink and "class B" on an uplink. -/
def setBit4 (c : FrameControl) (b : Bool) : FrameControl :=
  { c with raw := Byte.withFlag c.raw 4 b }

/-- Of the length the lower four bits count. -/
def setOptionsLength (c : FrameControl) (n : Nat) : FrameControl :=
  { c with raw := Byte.ofNibbles (Byte.highNibble c.raw) (UInt8.ofNat n) }

end FrameControl

/-! ## The frame header -/

/-- The most bytes of options a header can have. -/
def maxOptionsLength : Nat := 15

/-- A frame header, its options decoded. -/
structure FrameHeader where
  address : DeviceAddress
  control : FrameControl
  counter : UInt16
  options : List Command := []
deriving DecidableEq

namespace FrameHeader

/-- A header without flags and options. -/
def ofAddress (address : DeviceAddress) (dir : Direction) (counter : UInt16) : FrameHeader :=
  { address, control := ⟨0, dir⟩, counter }

/-- The length on air. -/
def size (h : FrameHeader) : Nat := 7 + Command.sizeAll h.options

/-- Adds a command to the options, if they then still fit. -/
def push? (h : FrameHeader) (c : Command) : Option FrameHeader :=
  if Command.sizeAll h.options + c.size ≤ maxOptionsLength then
    some { h with options := h.options ++ [c] }
  else
    none

/--
Adds a command to the options with regard to their number only. A header made like this may be too
long to be written.
-/
def pushUnsized? (h : FrameHeader) (c : Command) : Option FrameHeader :=
  if h.options.length < maxOptionsLength then some { h with options := h.options ++ [c] } else none

/--
The header that bytes start with, and the bytes behind it. Options behind the first that cannot be
decoded are lost; the rest of the header is not.
-/
def decode? (dir : Direction) : List UInt8 → Option (FrameHeader × List UInt8)
  | a₀ :: a₁ :: a₂ :: a₃ :: c :: n₀ :: n₁ :: rest =>
    let control : FrameControl := ⟨c, dir⟩
    let len := control.optionsLength
    if rest.length < len then none
    else
      let header : FrameHeader :=
        { address := .ofBytes a₀ a₁ a₂ a₃
          control
          counter := UInt16.ofNat (ofLittleEndian [n₀, n₁])
          options := (Command.decodeAll dir (rest.take len)).1 }
      some (header, rest.drop len)
  | _ => none

/--
The header as it is written, in the pieces in which it goes into a buffer; nothing if the options
are too long.
-/
def pieces? (h : FrameHeader) : Option (List (List UInt8)) :=
  let len := Command.sizeAll h.options
  if len ≤ maxOptionsLength then
    some (h.address.bytes :: [(h.control.setOptionsLength len).raw] ::
      littleEndian 2 h.counter.toNat :: h.options.flatMap fun c => [[c.id], c.payload])
  else
    none

end FrameHeader

end LoraLink
