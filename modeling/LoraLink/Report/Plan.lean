import LoraLink.Report.Frame
import LoraLink.Plan.Basic
import LoraLink.Region.Basic

/-!
# Reports on settings, plans and regions

The settings of a device and the tables of a region, under the names by which scripts set them. A
plan is reported as its taken slots, its sub-bands with their clocks, and the slots uplinks may
use.
-/

namespace LoraLink

namespace Report

open Json

def rate (d : DataRate) : Json := nat d.val

def settings (s : Settings) : Json :=
  .ofMembers
    [ ("adr_enabled", bool s.adr),
      ("aggregated_duty_cycle", dutyCycle s.aggregatedDutyCycle),
      ("tx_power", option integer s.txPower),
      ("tx_data_rate", option rate s.txDataRate),
      ("rx1_data_rate_offset", option Record.write s.rx1DataRateOffset),
      ("rx_delay", option Record.write s.rxDelay),
      ("rx2_data_rate", option rate s.rx2DataRate),
      ("rx2_frequency", option nat s.rx2Frequency),
      ("number_of_transmissions", Record.write s.transmissions),
      ("max_number_of_transmissions", Record.write s.maxTransmissions),
      ("retransmit_timeout", Record.write s.retransmitTimeout),
      ("rx_window_symbols", Record.write s.rxWindowSymbols) ]

def subBand (b : SubBand) : Json :=
  .ofMembers
    [ ("first", nat b.firstFrequency), ("last", nat b.lastFrequency),
      ("duty_cycle", dutyCycle b.dutyCycle), ("max_tx_power", integer b.maxPower),
      ("next", Record.write b.nextStart) ]

def channel (c : Channel) : Json :=
  .ofMembers
    [ ("frequency", nat c.frequency), ("min", rate c.minDataRate), ("max", rate c.maxDataRate),
      ("reply", nat c.replyFrequency), ("enabled", bool c.enabled) ]

def plan (p : Plan) : Json :=
  .ofMembers
    [ ("channels", list (fun (i, c) => .array [nat i, channel c]) p.definedChannels),
      ("sub_bands", list subBand p.subBands), ("enabled", list nat p.enabledChannels) ]

/-- The defaults of a region, and those of the settings. -/
def region (r : Region) : Json :=
  .ofMembers
    [ ("default_channels", nat r.defaultFrequencies.length),
      ("sub_bands", list subBand r.subBands),
      ("ul_data_rate_range", .array [rate r.uplinkRates.1, rate r.uplinkRates.2]),
      ("default_data_rate", rate r.defaultRate),
      ("default_coding_rate", nat r.codingRate.denominator),
      ("default_rx2_frequency", nat r.defaultRx2Frequency),
      ("default_rx2_data_rate", rate r.defaultRx2Rate),
      ("default_tx_power", integer r.defaultPower),
      ("min_frequency", nat r.minFrequency),
      ("max_frequency", nat r.maxFrequency),
      ("supports_tx_param_setup", bool r.supportsTxParamSetup),
      ("default_rx_delay", Record.write r.defaultRxDelay),
      ("default_rx1_data_rate_offset", nat r.defaultRx1Offset),
      ("preamble_symbols", nat r.preambleSymbols),
      ("adr_ack_limit", nat r.adrAckLimit),
      ("adr_ack_delay", nat r.adrAckDelay),
      ("config", settings {}) ]

end Report

end LoraLink
