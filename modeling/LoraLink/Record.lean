import LoraLink.Json.Reader
import LoraLink.Settings
import LoraLink.Plan.Channel
import LoraLink.Frame.Header

/-!
# Records

How settings, channels, sub-bands and their parts are written as JSON, and what is accepted for
them.

A structure is an object with a member for each field; it may also be the array of its fields in
order. Members with other names are skipped, whatever they hold, but a name that is no text is
refused, and so is a field that appears twice. A field that may be absent can be `null` or left
out. An integer must fit its field; where a float is wanted an integer will do, but not the other
way round.
-/

namespace LoraLink

/-- Types with a JSON form. -/
class Record (α : Type) where
  write : α → Json
  read? : Json → Option α

namespace Record

/-! ## Numbers and switches -/

/-- An integer of at least `lo` and at most `hi`. -/
def readInteger? (lo hi : Int) : Json → Option Int
  | .integer n => if lo ≤ n ∧ n ≤ hi then some n else none
  | _ => none

/-- A natural number of at most `hi`. -/
def readNat? (hi : Nat) (v : Json) : Option Nat := (readInteger? 0 hi v).map Int.toNat

instance : Record Bool where
  write := .bool
  read?
    | .bool b => some b
    | _ => none

/-- The finite float a number is. -/
def readFloat? : Json → Option Float
  | .integer n => let x := Json.nearest n; if x.isFinite then some x else none
  | .float x => if x.isFinite then some x else none
  | _ => none

instance : Record DutyCycle where
  write c := .float c.share
  read? v := (readFloat? v).map .ofFloat

instance : Record UInt8 where
  write n := .integer n.toNat
  read? v := (readNat? 255 v).map UInt8.ofNat

instance : Record UInt16 where
  write n := .integer n.toNat
  read? v := (readNat? 65535 v).map UInt16.ofNat

/-- A frequency in Hz. -/
def readFrequency? : Json → Option Nat := readNat? 4294967295

/-- A power in dBm. -/
def readPower? : Json → Option Int := readInteger? (-128) 127

instance : Record Instant where
  write t := .integer t.micros
  read? v := (readNat? horizon v).map Instant.ofMicros

instance : Record Duration where
  write d := .integer d.micros
  read? v := (readNat? horizon v).map Duration.ofMicros

/-! ## Names -/

/-- The name of a data rate. -/
def rateName (rate : DataRate) : String := "_" ++ toString rate.val

/-- The data rate with a name. -/
def rateOfName? (name : String) : Option DataRate :=
  (List.finRange 16).find? fun rate => rateName rate = name

/-- A data rate is its name; the name may also be the only member of an object, with no value. -/
instance : Record DataRate where
  write rate := .text (rateName rate)
  read?
    | .string (some name) => rateOfName? name
    | .object [(some name, .null)] => rateOfName? name
    | _ => none

/-- An address is its four bytes as they stand on air. -/
instance : Record DeviceAddress where
  write a := .array (a.bytes.map Record.write)
  read?
    | .array [a, b, c, d] => do
      return .ofBytes (← Record.read? a) (← Record.read? b) (← Record.read? c) (← Record.read? d)
    | _ => none

/-! ## Structures -/

/-- The members of an object, unless the name of one is no text. -/
def named? (members : List (Option String × Json)) : Option (List (String × Json)) :=
  members.mapM fun (name, value) => name.map (·, value)

/-- The value of the only member with a name; refused if there are several. -/
def member? (members : List (String × Json)) (name : String) : Option (Option Json) :=
  match members.filter (·.1 = name) with
  | [] => some none
  | [(_, value)] => some (some value)
  | _ => none

/-- The values of the fields of a structure, by their names in order. -/
def fields? (names : List String) : Json → Option (List (Option Json))
  | .object members => do names.mapM (member? (← named? members))
  | .array items => if items.length = names.length then some (items.map some) else none
  | _ => none

/-- A field that must be there. -/
def required {α : Type} (read : Json → Option α) (v : Option Json) : Option α := v.bind read

/-- A field that may be absent. -/
def optional {α : Type} (read : Json → Option α) : Option Json → Option (Option α)
  | none | some .null => some none
  | some v => (read v).map some

/-- The form of a field that may be absent. -/
def writeOptional {α : Type} (write : α → Json) : Option α → Json
  | none => .null
  | some a => write a

instance : Record Channel where
  write c :=
    .ofMembers
      [ ("frequency", .integer c.frequency),
        ("reply_frequency", .integer c.replyFrequency),
        ("min_data_rate", write c.minDataRate),
        ("max_data_rate", write c.maxDataRate),
        ("enabled_for_uplink", .bool c.enabled) ]
  read? v := do
    let [frequency, reply, lo, hi, enabled] ←
      fields? ["frequency", "reply_frequency", "min_data_rate", "max_data_rate",
        "enabled_for_uplink"] v
      | none
    return {
      frequency := ← required readFrequency? frequency
      replyFrequency := ← required readFrequency? reply
      minDataRate := ← required read? lo
      maxDataRate := ← required read? hi
      enabled := ← required read? enabled }

instance : Record SubBand where
  write b :=
    .ofMembers
      [ ("first_frequency", .integer b.firstFrequency),
        ("last_frequency", .integer b.lastFrequency),
        ("duty_cycle", write b.dutyCycle),
        ("max_tx_power", .integer b.maxPower),
        ("next_transmission_time", write b.nextStart) ]
  read? v := do
    let [first, last, dutyCycle, power, next] ←
      fields? ["first_frequency", "last_frequency", "duty_cycle", "max_tx_power",
        "next_transmission_time"] v
      | none
    return {
      firstFrequency := ← required readFrequency? first
      lastFrequency := ← required readFrequency? last
      dutyCycle := ← required read? dutyCycle
      maxPower := ← required readPower? power
      nextStart := ← required read? next }

instance : Record Settings where
  write s :=
    .ofMembers
      [ ("adr_enabled", .bool s.adr),
        ("aggregated_duty_cycle", write s.aggregatedDutyCycle),
        ("tx_power", writeOptional .integer s.txPower),
        ("tx_data_rate", writeOptional write s.txDataRate),
        ("rx1_data_rate_offset", writeOptional write s.rx1DataRateOffset),
        ("rx_delay", writeOptional write s.rxDelay),
        ("rx2_data_rate", writeOptional write s.rx2DataRate),
        ("rx2_frequency", writeOptional (fun n => .integer n) s.rx2Frequency),
        ("number_of_transmissions", write s.transmissions),
        ("max_number_of_transmissions", write s.maxTransmissions),
        ("retransmit_timeout", write s.retransmitTimeout),
        ("rx_window_symbols", write s.rxWindowSymbols) ]
  read? v := do
    let [adr, dutyCycle, power, rate, offset, delay, rx2Rate, rx2Frequency, transmissions,
        maxTransmissions, timeout, symbols] ←
      fields? ["adr_enabled", "aggregated_duty_cycle", "tx_power", "tx_data_rate",
        "rx1_data_rate_offset", "rx_delay", "rx2_data_rate", "rx2_frequency",
        "number_of_transmissions", "max_number_of_transmissions", "retransmit_timeout",
        "rx_window_symbols"] v
      | none
    return {
      adr := ← required read? adr
      aggregatedDutyCycle := ← required read? dutyCycle
      txPower := ← optional readPower? power
      txDataRate := ← optional read? rate
      rx1DataRateOffset := ← optional read? offset
      rxDelay := ← optional read? delay
      rx2DataRate := ← optional read? rx2Rate
      rx2Frequency := ← optional readFrequency? rx2Frequency
      transmissions := ← required read? transmissions
      maxTransmissions := ← required read? maxTransmissions
      retransmitTimeout := ← required read? timeout
      rxWindowSymbols := ← required read? symbols }

end Record

end LoraLink
