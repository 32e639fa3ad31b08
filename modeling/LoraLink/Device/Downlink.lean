import LoraLink.Device.Adaptation

/-!
# Downlinks

What a device does with a frame it received. A frame that is not a downlink for this device means
nothing to it. Of one that is, the commands are carried out one after the other, each request
queueing its answer; then the payload is handed on.

A request is carried out completely or not at all, and its answer says which of its parts were
acceptable. Here nothing is asked of the host. Only the channel plan can object, with a fault, to a
channel that it cannot hold.
-/

namespace LoraLink

namespace EndDevice

/-- What a command makes of a device. -/
structure Handled where
  device : EndDevice
  answer : Option Command := none
  actions : List Action := []

/-- What the host knows that goes into answers. -/
structure Status where
  reception : Reception
  battery : Option Float32
  externalPower : Bool

/--
The battery level as it is reported: 0 on external power, 255 if unknown, and else 1 to 254, in
proportion to the share that is left.
-/
def Status.batteryByte (s : Status) : UInt8 :=
  if s.externalPower then 0
  else match s.battery with
    | none => 255
    | some level =>
      let share : Float32 := if level < 0.0 then 0.0 else if 1.0 < level then 1.0 else level
      (share * 253.0).toUInt8 + 1

variable (r : Region)

/-! ## Requests -/

/-- The data rate a request asks for, if uplinks may use it; 15 keeps the present one. -/
def requestedRate (d : EndDevice) (p : LinkADRReq) : Option DataRate :=
  if p.dataRate = 15 then some (d.dataRate r)
  else match DataRate.ofNat? p.dataRate.toNat with
    | some rate =>
      if rate.inRange r.uplinkRates.1 r.uplinkRates.2 && r.hasModulation rate then some rate
      else none
    | none => none

/-- The power a request asks for, if the region has it; 15 keeps the present one. -/
def requestedPower (d : EndDevice) (p : LinkADRReq) : Option Int :=
  if p.txPower = 15 then some (d.power r)
  else match r.power p.txPower.toNat with
    | .ok power => some power
    | .error _ => none

/-- Would some channel of those selected support the data rate? Of all, if the mask is no good. -/
def rateUsable (p : Plan) (mask : Except PlanError (List Bool)) : Option DataRate → Bool
  | none => false
  | some rate =>
    match mask with
    | .ok statuses => p.maskSupports statuses rate
    | .error _ => p.definedChannels.any (·.2.supports rate)

/-- Data rate, power, channels and repetitions at once. -/
def handleLinkADR (d : EndDevice) (p : LinkADRReq) : Handled :=
  let mask := d.plan.resolveMask p.channelMask p.maskControl.toNat
  let rate := d.requestedRate r p
  let power := d.requestedPower r p
  let usable := rateUsable d.plan mask rate
  let answer := (((LinkADRAns.mk 0).setChannelMaskAck mask.toBool).setDataRateAck usable)
    |>.setTxPowerAck power.isSome
  let unchanged : Handled := { device := d, answer := some (.linkADRAns answer) }
  match mask, rate, power with
  | .ok statuses, some rate, some power =>
    if usable then
      let d := { d with plan := d.plan.selectChannels statuses }
      let (d, rateEvents) := d.setDataRate r rate
      let (d, powerEvents) := d.setPower r power
      let transmissions := if p.transmissions = 0 then 1 else p.transmissions
      { device := { d with settings := { d.settings with transmissions } }
        answer := some (.linkADRAns answer)
        actions := (rateEvents ++ powerEvents).map .event }
    else unchanged
  | _, _, _ => unchanged

/-- The parameters of both receive windows. -/
def handleRxParamSetup (d : EndDevice) (p : RXParamSetupReq) : Handled :=
  let offsetOk : Bool := p.rx1DataRateOffset ≤ 5
  let rate := (DataRate.ofNat? p.rx2DataRate.toNat).filter r.hasModulation
  let answer := (((RXParamSetupAns.mk 0).setRx1OffsetAck offsetOk).setRx2DataRateAck rate.isSome)
    |>.setChannelAck true
  let device :=
    match offsetOk, rate with
    | true, some rate =>
      { d with
        settings := { d.settings with
          rx1DataRateOffset := some p.rx1DataRateOffset
          rx2DataRate := some rate
          rx2Frequency := some p.frequency.hertz } }
    | _, _ => d
  { device, answer := some (.rxParamSetupAns answer) }

/-- The data rates a request allows on a channel, if uplinks may use them. -/
def requestedRange (p : NewChannelReq) : Option (DataRate × DataRate) :=
  match DataRate.ofNat? p.minDataRate.toNat, DataRate.ofNat? p.maxDataRate.toNat with
  | some lo, some hi => if lo ≤ hi ∧ hi ≤ r.uplinkRates.2 then some (lo, hi) else none
  | _, _ => none

/--
Creates, replaces or deletes a channel. The plan faults at a slot that does not exist and at a
frequency outside every sub-band, so both are checked before a channel is set.
-/
def handleNewChannel (d : EndDevice) (p : NewChannelReq) : Except PlanFault Handled :=
  let index := p.channelIndex.toNat
  let frequency := p.frequency.hertz
  let range := requestedRange r p
  let frequencyOk : Bool :=
    index < channelSlots && (frequency = 0 || d.plan.isValidFrequency frequency)
  let answer := ((NewChannelAns.mk 0).setDataRateRangeAck range.isSome).setFrequencyAck frequencyOk
  let plan : Except PlanFault Plan :=
    match frequencyOk, range with
    | true, some (lo, hi) =>
      if frequency = 0 then .ok (d.plan.removeChannel index)
      else d.plan.setChannel index (.ofFrequency frequency lo hi)
    | _, _ => .ok d.plan
  plan.map fun plan => { device := { d with plan }, answer := some (.newChannelAns answer) }

/-- Moves the replies of a channel to another frequency. -/
def handleDlChannel (d : EndDevice) (p : DlChannelReq) : Handled :=
  let index := p.channelIndex.toNat
  let frequency := p.frequency.hertz
  let frequencyOk := d.plan.isValidFrequency frequency
  let defined := (d.plan.channel? index).isSome
  let answer := ((DlChannelAns.mk 0).setUplinkFrequencyAck defined).setFrequencyAck frequencyOk
  let plan :=
    if frequencyOk then (d.plan.setReplyFrequency? index frequency).getD d.plan else d.plan
  { device := { d with plan }, answer := some (.dlChannelAns answer) }

/-- Battery and reception; the margin is cut to what its six bits can hold. -/
def statusAnswer (s : Status) : Command :=
  let ans : DevStatusAns := ⟨s.batteryByte, 0⟩
  .devStatusAns <| match ans.setMargin (max (-32) (min 31 s.reception.snr)) with
    | .ok ans => ans
    | .error _ => ans

/-! ## Commands -/

/-- Carries out a command. Those that only devices send mean nothing. -/
def handle (s : Status) (d : EndDevice) : Command → Except PlanFault Handled
  | .linkCheckAns p =>
    .ok
      { device := d
        actions :=
          [.linkChecked p.gatewayCount p.margin, .event (.linkCheck p.margin p.gatewayCount)] }
  | .linkADRReq p => .ok (d.handleLinkADR r p)
  | .dutyCycleReq p =>
    .ok
      { device := { d with settings := { d.settings with aggregatedDutyCycle := p.fraction } }
        answer := some .dutyCycleAns }
  | .rxParamSetupReq p => .ok (d.handleRxParamSetup r p)
  | .devStatusReq => .ok { device := d, answer := some (statusAnswer s) }
  | .newChannelReq p => d.handleNewChannel r p
  | .rxTimingSetupReq p =>
    let delay := if p.delay = 0 then 1 else p.delay
    .ok
      { device := { d with settings := { d.settings with rxDelay := some delay } }
        answer := some .rxTimingSetupAns }
  | .dlChannelReq p => .ok (d.handleDlChannel p)
  | .txParamSetupReq _ =>
    .ok { device := d, answer := if r.supportsTxParamSetup then some .txParamSetupAns else none }
  | _ => .ok { device := d }

/-- Queues an answer; one that finds the queue full is lost. -/
def queueAnswer (d : EndDevice) : Option Command → EndDevice
  | none => d
  | some answer => (d.enqueue? answer).getD d

/-- Carries out commands one after the other, queueing the answer to each. -/
def handleAll (s : Status) (d : EndDevice) :
    List Command → Except PlanFault (EndDevice × List Action)
  | [] => .ok (d, [])
  | c :: rest =>
    match d.handle r s c with
    | .error f => .error f
    | .ok h =>
      ((h.device.queueAnswer h.answer).handleAll s rest).map fun (d, actions) =>
        (d, h.actions ++ actions)

/-! ## Frames -/

/-- The downlink for this device that bytes are, if they are one. -/
def downlink? (d : EndDevice) (bytes : List UInt8) : Option DataFrame :=
  match DataFrame.decode bytes with
  | .error _ => none
  | .ok frame =>
    if frame.direction = .down ∧ frame.header.address = d.address then some frame else none

/-- What a downlink says before its commands: it was heard, so sticky answers were, too. -/
def noteDownlink (d : EndDevice) (frame : DataFrame) : EndDevice :=
  { d with
    queue := d.queue.filter (!·.isSticky)
    adrAckCount := 0
    ackDue := d.ackDue || frame.isConfirmed }

/-- Takes in a downlink. Commands behind one that cannot be decoded are lost. -/
def takeDownlink (s : Status) (d : EndDevice) (frame : DataFrame) :
    Except PlanFault (EndDevice × List Action) :=
  let payload := if frame.port = some 0 then [] else frame.payload
  ((d.noteDownlink frame).handleAll r s frame.commands.1).map fun (d, actions) =>
    (d, actions ++ [.event (.received frame.port payload s.reception)])

end EndDevice

end LoraLink
