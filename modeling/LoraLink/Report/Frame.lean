import LoraLink.Command.Named
import LoraLink.Frame.Data

/-!
# Reports on frames and commands

What frames and commands say, field by field, as JSON. Raw bytes are given beside what they mean,
so a report also shows what no field covers.
-/

namespace LoraLink

namespace Json

def nat (n : Nat) : Json := .integer n

def list {α : Type} (f : α → Json) (xs : List α) : Json := .array (xs.map f)

/-- Bytes as hexadecimal text. -/
def bytes (bs : List UInt8) : Json := .text (Hex.encode bs)

/-- A duty cycle is reported by its bits, so that every value can be told from every other. -/
def dutyCycle (c : DutyCycle) : Json := .text (Hex.ofWord c.bits)

/-- Absent values are null. -/
def option {α : Type} (f : α → Json) (x : Option α) : Json := (x.map f).getD .null

end Json

namespace Report

open Json

/-- A command: what it is, its bytes, and its fields. -/
def command (c : Command) : Json :=
  .ofMembers
    [ ("cmd", text c.kind.name), ("cid", nat c.id.toNat), ("uplink", bool (c.direction = .up)),
      ("len", nat c.size), ("payload", bytes c.payload), ("fields", .ofMembers c.fields) ]

def messageTypeName : MessageType → String
  | .joinRequest => "JoinRequest"
  | .joinAccept => "JoinAccept"
  | .unconfirmedDataUp => "UnconfirmedDataUp"
  | .unconfirmedDataDown => "UnconfirmedDataDown"
  | .confirmedDataUp => "ConfirmedDataUp"
  | .confirmedDataDown => "ConfirmedDataDown"
  | .reserved => "RFU"
  | .proprietary => "Proprietary"

def messageHeader (h : MessageHeader) : Json :=
  .ofMembers
    [ ("raw", nat h.raw.toNat), ("mtype", text (messageTypeName h.type)),
      ("major", text (if h.knownFormat then "LoRaWANR1" else "RFU")), ("data", bool h.type.isData),
      ("uplink", bool h.type.isUplink), ("confirmed", bool h.type.isConfirmed) ]

def address (a : DeviceAddress) : Json :=
  .ofMembers
    [("value", nat a.value.toNat), ("nwk_id", nat a.networkId), ("bytes", bytes a.bytes)]

def control (c : FrameControl) : Json :=
  .ofMembers
    [ ("raw", nat c.raw.toNat), ("uplink", bool c.isUplink), ("adr", bool c.adr),
      ("adr_ack_req", bool c.adrAckReq), ("ack", bool c.ack), ("f_pending", bool c.pending),
      ("class_b", bool c.classB), ("f_opts_len", nat c.optionsLength) ]

/-- A header is never empty: address, control byte and counter are always there. -/
def header (h : FrameHeader) : Json :=
  .ofMembers
    [ ("dev_addr", address h.address), ("fctrl", control h.control),
      ("fcnt", nat h.counter.toNat), ("len", nat h.size), ("uplink", bool h.control.isUplink),
      ("empty", bool (h.size = 0)), ("fopts", list command h.options) ]

/-- All of a frame but its commands. -/
def frame (f : DataFrame) : List (String × Json) :=
  [ ("mhdr", messageHeader f.messageHeader), ("mtype", text (messageTypeName f.type)),
    ("uplink", bool f.isUplink), ("confirmed", bool f.isConfirmed), ("fhdr", header f.header),
    ("f_port", option Record.write f.port), ("frm_payload", bytes f.payload) ]

end Report

end LoraLink
