import LoraLink.Command.Field
import LoraLink.DutyCycle

/-!
# Payloads of MAC commands

One structure per command that carries anything, with its bytes as they stand on air. Bits that no
field uses are kept, so a payload that is read and written again does not change.

For every field there is a reader, and for the fields that this library writes also a writer, which
touches no bit outside its field unless it says so. Two writers refuse values that do not fit.
-/

namespace LoraLink

/-- What a writer refuses. -/
inductive FieldError where
  | marginOutOfRange
  | delayOutOfRange
deriving DecidableEq

/-! ## Link check -/

/-- How well the network heard the last uplink. -/
structure LinkCheckAns where
  /-- Demodulation margin in dB. -/
  margin : UInt8
  /-- Gateways that heard it. -/
  gatewayCount : UInt8
deriving DecidableEq

/-! ## Link adaptation -/

/-- Data rate, power, channels and repetitions the network asks for. -/
structure LinkADRReq where
  rateAndPower : UInt8
  channelMask : ChannelMask
  redundancy : UInt8
deriving DecidableEq

namespace LinkADRReq

/-- The data rate asked for, as a number; 15 keeps the present one. -/
def dataRate (p : LinkADRReq) : UInt8 := Byte.highNibble p.rateAndPower

/-- An index into the region's table of powers. -/
def txPower (p : LinkADRReq) : UInt8 := Byte.lowNibble p.rateAndPower

/-- How the channel mask is to be read; three bits. -/
def maskControl (p : LinkADRReq) : UInt8 := Byte.highNibble p.redundancy % 8

/-- How often each uplink is sent. Here 0 stays 0; whoever takes the request takes it for 1. -/
def transmissions (p : LinkADRReq) : UInt8 := Byte.lowNibble p.redundancy

/-- Writes the upper half of the first byte. -/
def setDataRate (p : LinkADRReq) (rate : UInt8) : LinkADRReq :=
  { p with rateAndPower := Byte.ofNibbles rate (Byte.lowNibble p.rateAndPower) }

/-- Writes the lower half of the first byte. -/
def setTxPower (p : LinkADRReq) (power : UInt8) : LinkADRReq :=
  { p with rateAndPower := Byte.ofNibbles (Byte.highNibble p.rateAndPower) power }

/-- Writes the two bytes of the mask. -/
def setChannelMask (p : LinkADRReq) (mask : ChannelMask) : LinkADRReq :=
  { p with channelMask := mask }

/-- Writes the whole byte: its top bit is cleared. -/
def setRedundancy (p : LinkADRReq) (maskControl transmissions : UInt8) : LinkADRReq :=
  { p with redundancy := Byte.ofNibbles (maskControl % 8) transmissions }

end LinkADRReq

/-- Which parts of a `LinkADRReq` were accepted. -/
structure LinkADRAns where
  flags : UInt8
deriving DecidableEq

namespace LinkADRAns

/-- Could the mask be applied? -/
def channelMaskAck (p : LinkADRAns) : Bool := Byte.flag p.flags 0

/-- Was the data rate accepted? -/
def dataRateAck (p : LinkADRAns) : Bool := Byte.flag p.flags 1

/-- Was the power accepted? -/
def txPowerAck (p : LinkADRAns) : Bool := Byte.flag p.flags 2

/-- Were all three accepted? -/
def ack (p : LinkADRAns) : Bool := p.channelMaskAck && p.dataRateAck && p.txPowerAck

/-- Says whether the mask could be applied. -/
def setChannelMaskAck (p : LinkADRAns) (b : Bool) : LinkADRAns := ⟨Byte.withFlag p.flags 0 b⟩

/-- Says whether the data rate was accepted. -/
def setDataRateAck (p : LinkADRAns) (b : Bool) : LinkADRAns := ⟨Byte.withFlag p.flags 1 b⟩

/-- Says whether the power was accepted. -/
def setTxPowerAck (p : LinkADRAns) (b : Bool) : LinkADRAns := ⟨Byte.withFlag p.flags 2 b⟩

end LinkADRAns

/-! ## Duty cycle -/

/-- A limit on the share of time the device may transmit, over all sub-bands. -/
structure DutyCycleReq where
  exponent : UInt8
deriving DecidableEq

namespace DutyCycleReq

/-- `1 / 2 ^ exponent`, of which the lower four bits count; 255 means silence. -/
def fraction (p : DutyCycleReq) : DutyCycle :=
  .ofFloat <|
    if p.exponent = 255 then 0.0
    else 1.0 / (UInt64.ofNat (1 <<< (Byte.lowNibble p.exponent).toNat)).toFloat

end DutyCycleReq

/-! ## Receive windows -/

/-- Data rate offset of the first window, data rate and frequency of the second. -/
structure RXParamSetupReq where
  settings : UInt8
  frequency : WireFrequency
deriving DecidableEq

namespace RXParamSetupReq

/-- How much slower than the uplink the first window is; three bits. -/
def rx1DataRateOffset (p : RXParamSetupReq) : UInt8 := Byte.highNibble p.settings % 8

/-- The data rate of the second window, as a number. -/
def rx2DataRate (p : RXParamSetupReq) : UInt8 := Byte.lowNibble p.settings

/-- Writes the whole byte: its top bit is cleared. -/
def setSettings (p : RXParamSetupReq) (offset rate : UInt8) : RXParamSetupReq :=
  { p with settings := Byte.ofNibbles (offset % 8) rate }

/-- Writes the frequency of the second window, as three bytes in units of 100 Hz. -/
def setFrequency (p : RXParamSetupReq) (hertz : Nat) : RXParamSetupReq :=
  { p with frequency := .ofHertz hertz }

end RXParamSetupReq

/-- Which parts of an `RXParamSetupReq` were accepted. -/
structure RXParamSetupAns where
  flags : UInt8
deriving DecidableEq

namespace RXParamSetupAns

/-- Was the frequency accepted? -/
def channelAck (p : RXParamSetupAns) : Bool := Byte.flag p.flags 0

/-- Was the data rate of the second window accepted? -/
def rx2DataRateAck (p : RXParamSetupAns) : Bool := Byte.flag p.flags 1

/-- Was the offset of the first window accepted? -/
def rx1OffsetAck (p : RXParamSetupAns) : Bool := Byte.flag p.flags 2

/-- Were all three accepted? -/
def ack (p : RXParamSetupAns) : Bool := p.channelAck && p.rx2DataRateAck && p.rx1OffsetAck

/-- Says whether the frequency was accepted. -/
def setChannelAck (p : RXParamSetupAns) (b : Bool) : RXParamSetupAns := ⟨Byte.withFlag p.flags 0 b⟩

/-- Says whether the data rate of the second window was accepted. -/
def setRx2DataRateAck (p : RXParamSetupAns) (b : Bool) : RXParamSetupAns :=
  ⟨Byte.withFlag p.flags 1 b⟩

/-- Says whether the offset of the first window was accepted. -/
def setRx1OffsetAck (p : RXParamSetupAns) (b : Bool) : RXParamSetupAns :=
  ⟨Byte.withFlag p.flags 2 b⟩

end RXParamSetupAns

/-! ## Device status -/

/-- Battery level and how well the device heard the request. -/
structure DevStatusAns where
  /-- 0 on external power, 1 to 254 the level, 255 if unknown. -/
  battery : UInt8
  marginByte : UInt8
deriving DecidableEq

namespace DevStatusAns

/-- The lower six bits as a signed number of dB, -32 to 31. -/
def margin (p : DevStatusAns) : Int := Int.bmod p.marginByte.toNat 64

/-- Writes the whole byte, or refuses a margin that six bits cannot hold. -/
def setMargin (p : DevStatusAns) (margin : Int) : Except FieldError DevStatusAns :=
  if -32 ≤ margin ∧ margin ≤ 31 then
    .ok { p with marginByte := UInt8.ofNat (margin % 64).toNat }
  else
    .error .marginOutOfRange

end DevStatusAns

/-! ## Channels -/

/-- A channel to create, replace or, at frequency 0, delete. -/
structure NewChannelReq where
  channelIndex : UInt8
  frequency : WireFrequency
  rates : UInt8
deriving DecidableEq

namespace NewChannelReq

/-- The lowest data rate of the channel, as a number. -/
def minDataRate (p : NewChannelReq) : UInt8 := Byte.lowNibble p.rates

/-- The highest data rate of the channel, as a number. -/
def maxDataRate (p : NewChannelReq) : UInt8 := Byte.highNibble p.rates

/-- Writes the frequency of the channel, as three bytes in units of 100 Hz. -/
def setFrequency (p : NewChannelReq) (hertz : Nat) : NewChannelReq :=
  { p with frequency := .ofHertz hertz }

/-- Writes both ends of the range, each into its half of the byte. -/
def setDataRateRange (p : NewChannelReq) (lo hi : UInt8) : NewChannelReq :=
  { p with rates := Byte.ofNibbles hi lo }

end NewChannelReq

/-- Which parts of a `NewChannelReq` were accepted. -/
structure NewChannelAns where
  flags : UInt8
deriving DecidableEq

namespace NewChannelAns

/-- Were slot and frequency accepted? -/
def frequencyAck (p : NewChannelAns) : Bool := Byte.flag p.flags 0

/-- Was the range of data rates accepted? -/
def dataRateRangeAck (p : NewChannelAns) : Bool := Byte.flag p.flags 1

/-- Were both accepted? -/
def ack (p : NewChannelAns) : Bool := p.frequencyAck && p.dataRateRangeAck

/-- Says whether slot and frequency were accepted. -/
def setFrequencyAck (p : NewChannelAns) (b : Bool) : NewChannelAns := ⟨Byte.withFlag p.flags 0 b⟩

/-- Says whether the range of data rates was accepted. -/
def setDataRateRangeAck (p : NewChannelAns) (b : Bool) : NewChannelAns :=
  ⟨Byte.withFlag p.flags 1 b⟩

end NewChannelAns

/-- The frequency on which the replies to a channel's uplinks come back. -/
structure DlChannelReq where
  channelIndex : UInt8
  frequency : WireFrequency
deriving DecidableEq

namespace DlChannelReq

/-- Writes the frequency of the replies, as three bytes in units of 100 Hz. -/
def setFrequency (p : DlChannelReq) (hertz : Nat) : DlChannelReq :=
  { p with frequency := .ofHertz hertz }

end DlChannelReq

/-- Which parts of a `DlChannelReq` were accepted. -/
structure DlChannelAns where
  flags : UInt8
deriving DecidableEq

namespace DlChannelAns

/-- Was the frequency accepted? -/
def frequencyAck (p : DlChannelAns) : Bool := Byte.flag p.flags 0

/-- Is there a channel in the slot? -/
def uplinkFrequencyAck (p : DlChannelAns) : Bool := Byte.flag p.flags 1

/-- Were both accepted? -/
def ack (p : DlChannelAns) : Bool := p.frequencyAck && p.uplinkFrequencyAck

/-- Says whether the frequency was accepted. -/
def setFrequencyAck (p : DlChannelAns) (b : Bool) : DlChannelAns := ⟨Byte.withFlag p.flags 0 b⟩

/-- Says whether there is a channel in the slot. -/
def setUplinkFrequencyAck (p : DlChannelAns) (b : Bool) : DlChannelAns :=
  ⟨Byte.withFlag p.flags 1 b⟩

end DlChannelAns

/-! ## Timing and transmit parameters -/

/-- Delay of the first receive window. -/
structure RXTimingSetupReq where
  settings : UInt8
deriving DecidableEq

namespace RXTimingSetupReq

/-- In seconds. Here 0 stays 0; whoever takes the request takes it for 1. -/
def delay (p : RXTimingSetupReq) : UInt8 := Byte.lowNibble p.settings

/-- Writes the whole byte, or refuses a delay that four bits cannot hold. -/
def setDelay (p : RXTimingSetupReq) (delay : UInt8) : Except FieldError RXTimingSetupReq :=
  if delay ≤ 15 then .ok { p with settings := delay } else .error .delayOutOfRange

end RXTimingSetupReq

/-- Dwell times and greatest radiated power. -/
structure TXParamSetupReq where
  settings : UInt8
deriving DecidableEq

namespace TXParamSetupReq

/-- Is a downlink limited to 400 ms? -/
def downlinkDwellTime (p : TXParamSetupReq) : Bool := Byte.flag p.settings 5

/-- Is an uplink limited to 400 ms? -/
def uplinkDwellTime (p : TXParamSetupReq) : Bool := Byte.flag p.settings 4

/-- An index into the table of radiated powers. -/
def maxEirp (p : TXParamSetupReq) : UInt8 := Byte.lowNibble p.settings

end TXParamSetupReq

end LoraLink
