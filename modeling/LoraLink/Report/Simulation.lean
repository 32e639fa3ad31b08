import LoraLink.Report.Plan
import LoraLink.Simulation.Script

/-!
# Reports on simulations

What nodes did and how they are, as JSON: the log, and a brief or a full account of each node. The
things that scripts and reports name have one name in both.
-/

namespace LoraLink

namespace Report

open Json Simulation

/-! ## Names -/

def alarmNames : List (String × Alarm) :=
  [("OpenRx1", .openRx1), ("CloseRx1", .closeRx1), ("OpenRx2", .openRx2), ("CloseRx2", .closeRx2),
    ("Retransmit", .retransmit)]

def radioStateNames : List (String × RadioState) :=
  [("Sleep", .sleep), ("Standby", .standby), ("Tx", .tx), ("Rx", .rx)]

def radioFunctionNames : List (String × RadioFunction) :=
  [("send", .send), ("standby", .standby), ("sleep", .sleep), ("frequency", .setFrequency),
    ("sf", .setSpreadingFactor)]

/-- The name of a value in a list of names. -/
def nameIn {α : Type} [DecidableEq α] (names : List (String × α)) (a : α) : String :=
  ((names.find? (·.2 = a)).map (·.1)).getD ""

/-- The value with a name in a list of names. -/
def named? {α : Type} (names : List (String × α)) (name : String) : Option α :=
  (names.find? (·.1 = name)).map (·.2)

def alarmName : Alarm → String := nameIn alarmNames

def radioRequestName (q : RadioRequest) : String :=
  nameIn radioFunctionNames (.ofRequest q)

/-! ## The log -/

def reception (q : Reception) : List (String × Json) :=
  [("rssi", integer q.rssi), ("snr", integer q.snr)]

/-- The name of an event, and what it carries. -/
def event : Event → String × List (String × Json)
  | .sent counter index dataRate len =>
    ("SentNewPacket", [("fcnt", Record.write counter), ("channel", nat index),
      ("data_rate", rate dataRate), ("len", nat len)])
  | .retransmitted counter index transmission =>
    ("Retransmitted", [("fcnt", Record.write counter), ("channel", nat index),
      ("transmission", nat transmission)])
  | .rxWindowsPending => ("RxWindowsPending", [])
  | .payloadTooLarge len limit => ("PayloadTooLarge", [("len", nat len), ("max", nat limit)])
  | .aggregatedDutyCycleBlocked wait =>
    ("AggregatedDutyCycleBlocked", [("wait", Record.write wait)])
  | .dutyCycleBlocked => ("DutyCycleBlocked", [])
  | .received port payload q =>
    ("Received", [("f_port", option Record.write port), ("payload", bytes payload)] ++ reception q)
  | .uplinkReceived frame q => ("UplinkReceived", ("frame", bytes frame) :: reception q)
  | .acknowledged n => ("Acknowledged", [("transmissions", nat n)])
  | .maxTransmissionsReached n => ("MaxTransmissionsReached", [("transmissions", nat n)])
  | .retransmissionAbandoned n => ("RetransmissionAbandoned", [("transmissions", nat n)])
  | .linkCheck margin gateways =>
    ("LinkCheck", [("margin", Record.write margin), ("gateway_count", Record.write gateways)])
  | .dataRateChanged before after =>
    ("DataRateChanged", [("from", rate before), ("to", rate after)])
  | .txPowerChanged before after =>
    ("TxPowerChanged", [("from", integer before), ("to", integer after)])

def transmitConfig (c : TransmitConfig) : Json :=
  .ofMembers
    [ ("pw", integer c.power), ("frequency", nat c.frequency),
      ("cr", nat c.codingRate.denominator), ("sf", nat c.modulation.spreadingFactor.bits),
      ("bw", nat c.modulation.bandwidth.hertz), ("preamble", nat c.preambleSymbols),
      ("implicit", bool c.implicitHeader), ("crc", bool c.checksum),
      ("ldro", bool c.lowDataRateOptimization) ]

/-- What a request to the radio carries. -/
def radioRequest : RadioRequest → List (String × Json)
  | .send config frame => [("cfg", transmitConfig config), ("frame", bytes frame)]
  | .setFrequency frequency => [("value", nat frequency)]
  | .setSpreadingFactor sf => [("value", nat sf.bits)]
  | .standby => []
  | .sleep => []

def logEntry : LogEntry → List (String × Json)
  | .sent config frame airtime =>
    ("radio", text "send") :: radioRequest (.send config frame) ++ [("air", Record.write airtime)]
  | .radio q => ("radio", text (radioRequestName q)) :: radioRequest q
  | .event e => ("event", text (event e).1) :: (event e).2
  | .linkChecked gateways margin =>
    [ ("hook", text "link_check"), ("gateway_count", Record.write gateways),
      ("margin", Record.write margin) ]
  | .txDoneLost => [("driver", text "tx_done lost, timeline full")]

def logItem (item : LogItem) : Json := .ofMembers (("n", nat item.node) :: logEntry item.entry)

/-! ## Nodes -/

/-- What can be seen of a radio and a machine at a glance. -/
def brief (n : Node) : List (String × Json) :=
  let radio := ("radio", text (nameIn radioStateNames n.radio.state))
  match n.machine with
  | .device r d =>
    [ ("fcnt", Record.write d.counter), ("adr_cnt", nat d.adrAckCount),
      ("pending", bool d.rxWindowsPending), ("retx", bool d.retransmissionPending),
      ("dr", rate (d.dataRate r)), ("pw", integer (d.power r)),
      ("cmds", list (fun c => bytes c.encode) d.queue), radio, ("draws", nat n.random.asked) ]
  | .gateway _ g => [("transmitting", bool g.transmitting), radio]

/-- A brief account, the plan, and the settings and the queue of a device. -/
def full (n : Node) : Json :=
  let more :=
    match n.machine with
    | .device _ d =>
      [ ("dev_addr", nat d.address.value.toNat), ("config", settings d.settings),
        ("mac_commands", list command d.queue) ]
    | .gateway _ _ => []
  .ofMembers (brief n ++ ("plan", plan n.machine.plan) :: more)

end Report

end LoraLink
