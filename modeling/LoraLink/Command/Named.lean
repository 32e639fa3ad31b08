import LoraLink.Command.Stream
import LoraLink.Hex
import LoraLink.Record

/-!
# Commands by name

In scripts and reports commands and their fields go by name. The fields that can be read and the
fields that can be written are not quite the same: some are written two at a time.
-/

namespace LoraLink

namespace Command

namespace Kind

/-- All kinds with their names. -/
def names : List (String × Kind) :=
  [("LinkCheckReq", linkCheckReq), ("LinkCheckAns", linkCheckAns), ("LinkADRReq", linkADRReq),
    ("LinkADRAns", linkADRAns), ("DutyCycleReq", dutyCycleReq), ("DutyCycleAns", dutyCycleAns),
    ("RXParamSetupReq", rxParamSetupReq), ("RXParamSetupAns", rxParamSetupAns),
    ("DevStatusReq", devStatusReq), ("DevStatusAns", devStatusAns),
    ("NewChannelReq", newChannelReq), ("NewChannelAns", newChannelAns),
    ("RXTimingSetupReq", rxTimingSetupReq), ("RXTimingSetupAns", rxTimingSetupAns),
    ("TXParamSetupReq", txParamSetupReq), ("TXParamSetupAns", txParamSetupAns),
    ("DlChannelReq", dlChannelReq), ("DlChannelAns", dlChannelAns)]

def name (k : Kind) : String := ((names.find? (·.2 = k)).map (·.1)).getD ""

def ofName? (name : String) : Option Kind := (names.find? (·.1 = name)).map (·.2)

/-- No payload is longer. -/
def maxPayload : Nat := 5

end Kind

/-- The command of a kind whose payload is all zeros. -/
def zero? (kind : Kind) : Option Command :=
  (ofPayload? kind (List.replicate Kind.maxPayload 0)).map (·.1)

/-- What can be read off a command, by name. -/
def fields : Command → List (String × Json)
  | linkCheckAns p => [("margin", Record.write p.margin), ("gateway_count", Record.write p.gatewayCount)]
  | linkADRReq p =>
    [ ("data_rate", Record.write p.dataRate),
      ("tx_power", Record.write p.txPower),
      ("channel_mask", .text (Hex.encode p.channelMask.bytes)),
      ("statuses", .array (p.channelMask.statuses.map .bool)),
      ("mask_ctrl", Record.write p.maskControl),
      ("nb_trans", Record.write p.transmissions) ]
  | linkADRAns p =>
    [ ("channel_mask_ack", .bool p.channelMaskAck), ("data_rate_ack", .bool p.dataRateAck),
      ("tx_power_ack", .bool p.txPowerAck), ("ack", .bool p.ack) ]
  | dutyCycleReq p => [("raw", Record.write p.exponent), ("fraction", .text (Hex.ofWord p.fraction.bits))]
  | rxParamSetupReq p =>
    [ ("rx1_dr_offset", Record.write p.rx1DataRateOffset),
      ("rx2_data_rate", Record.write p.rx2DataRate), ("frequency", .integer p.frequency.hertz) ]
  | rxParamSetupAns p =>
    [ ("channel_ack", .bool p.channelAck), ("rx2_data_rate_ack", .bool p.rx2DataRateAck),
      ("rx1_dr_offset_ack", .bool p.rx1OffsetAck), ("ack", .bool p.ack) ]
  | devStatusAns p => [("battery", Record.write p.battery), ("margin", .integer p.margin)]
  | newChannelReq p =>
    [ ("channel_index", Record.write p.channelIndex), ("frequency", .integer p.frequency.hertz),
      ("min_data_rate", Record.write p.minDataRate), ("max_data_rate", Record.write p.maxDataRate) ]
  | newChannelAns p =>
    [ ("channel_frequency_ack", .bool p.frequencyAck),
      ("data_rate_range_ack", .bool p.dataRateRangeAck), ("ack", .bool p.ack) ]
  | rxTimingSetupReq p => [("delay", Record.write p.delay)]
  | txParamSetupReq p =>
    [ ("downlink_dwell_time", .bool p.downlinkDwellTime),
      ("uplink_dwell_time", .bool p.uplinkDwellTime), ("max_eirp", Record.write p.maxEirp) ]
  | dlChannelReq p =>
    [("channel_index", Record.write p.channelIndex), ("frequency", .integer p.frequency.hertz)]
  | dlChannelAns p =>
    [ ("channel_frequency_ack", .bool p.frequencyAck),
      ("uplink_frequency_exists_ack", .bool p.uplinkFrequencyAck), ("ack", .bool p.ack) ]
  | linkCheckReq | dutyCycleAns | devStatusReq | rxTimingSetupAns | txParamSetupAns => []

/-- Reads the only value, and applies a writer to it. -/
def writeOne {α : Type} [Record α] (f : α → Command) : List Json → Option (Except FieldError Command)
  | [a] => (Record.read? a).map fun a => .ok (f a)
  | _ => none

/-- Reads two values, and applies a writer to them. -/
def writeTwo (f : UInt8 → UInt8 → Command) : List Json → Option (Except FieldError Command)
  | [a, b] => do return .ok (f (← Record.read? a) (← Record.read? b))
  | _ => none

/-- Reads a frequency, and applies a writer to it. -/
def writeFrequency (f : Nat → Command) : List Json → Option (Except FieldError Command)
  | [a] => (Record.readFrequency? a).map fun a => .ok (f a)
  | _ => none

/--
Writes a field that goes by a name. There is nothing if the command has no such field, or if the
values are not of the field's type.
-/
def write? (c : Command) (field : String) (values : List Json) :
    Option (Except FieldError Command) :=
  match c, field with
  | linkCheckAns p, "margin" => writeOne (fun v => linkCheckAns { p with margin := v }) values
  | linkCheckAns p, "gateway_count" =>
    writeOne (fun v => linkCheckAns { p with gatewayCount := v }) values
  | linkADRReq p, "data_rate" => writeOne (fun v => linkADRReq (p.setDataRate v)) values
  | linkADRReq p, "tx_power" => writeOne (fun v => linkADRReq (p.setTxPower v)) values
  | linkADRReq p, "channel_mask" =>
    writeOne (fun v : UInt16 => linkADRReq (p.setChannelMask (.ofNat v.toNat))) values
  | linkADRReq p, "redundancy" => writeTwo (fun a b => linkADRReq (p.setRedundancy a b)) values
  | linkADRAns p, "channel_mask_ack" =>
    writeOne (fun v => linkADRAns (p.setChannelMaskAck v)) values
  | linkADRAns p, "data_rate_ack" => writeOne (fun v => linkADRAns (p.setDataRateAck v)) values
  | linkADRAns p, "tx_power_ack" => writeOne (fun v => linkADRAns (p.setTxPowerAck v)) values
  | dutyCycleReq _, "max_duty_cycle" => writeOne (fun v => dutyCycleReq ⟨v⟩) values
  | rxParamSetupReq p, "dl_settings" =>
    writeTwo (fun a b => rxParamSetupReq (p.setSettings a b)) values
  | rxParamSetupReq p, "frequency" =>
    writeFrequency (fun v => rxParamSetupReq (p.setFrequency v)) values
  | rxParamSetupAns p, "channel_ack" =>
    writeOne (fun v => rxParamSetupAns (p.setChannelAck v)) values
  | rxParamSetupAns p, "rx2_data_rate_ack" =>
    writeOne (fun v => rxParamSetupAns (p.setRx2DataRateAck v)) values
  | rxParamSetupAns p, "rx1_dr_offset_ack" =>
    writeOne (fun v => rxParamSetupAns (p.setRx1OffsetAck v)) values
  | devStatusAns p, "battery" => writeOne (fun v => devStatusAns { p with battery := v }) values
  | devStatusAns p, "margin" =>
    match values with
    | [a] => (Record.readPower? a).map fun v => (p.setMargin v).map devStatusAns
    | _ => none
  | newChannelReq p, "channel_index" =>
    writeOne (fun v => newChannelReq { p with channelIndex := v }) values
  | newChannelReq p, "frequency" =>
    writeFrequency (fun v => newChannelReq (p.setFrequency v)) values
  | newChannelReq p, "data_rate_range" =>
    writeTwo (fun a b => newChannelReq (p.setDataRateRange a b)) values
  | newChannelAns p, "channel_frequency_ack" =>
    writeOne (fun v => newChannelAns (p.setFrequencyAck v)) values
  | newChannelAns p, "data_rate_range_ack" =>
    writeOne (fun v => newChannelAns (p.setDataRateRangeAck v)) values
  | rxTimingSetupReq p, "delay" =>
    match values with
    | [a] => (Record.read? a).map fun v => (p.setDelay v).map rxTimingSetupReq
    | _ => none
  | dlChannelReq p, "channel_index" =>
    writeOne (fun v => dlChannelReq { p with channelIndex := v }) values
  | dlChannelReq p, "frequency" =>
    writeFrequency (fun v => dlChannelReq (p.setFrequency v)) values
  | dlChannelAns p, "channel_frequency_ack" =>
    writeOne (fun v => dlChannelAns (p.setFrequencyAck v)) values
  | dlChannelAns p, "uplink_frequency_exists_ack" =>
    writeOne (fun v => dlChannelAns (p.setUplinkFrequencyAck v)) values
  | _, _ => none

end Command

end LoraLink
