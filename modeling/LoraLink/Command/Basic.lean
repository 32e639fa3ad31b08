import LoraLink.Command.Payload

/-!
# MAC commands

Device and network manage their link by commands: an identifier byte, then a payload whose length
the identifier fixes. A request and its answer share the identifier, so a command can be read only
if it is known which way it goes.
-/

namespace LoraLink

/-- Which way a frame or a command goes. -/
inductive Direction where
  /-- From the device to the network. -/
  | up
  /-- From the network to the device. -/
  | down
deriving DecidableEq

/-- A command of either direction. -/
inductive Command where
  | linkCheckReq
  | linkCheckAns (p : LinkCheckAns)
  | linkADRReq (p : LinkADRReq)
  | linkADRAns (p : LinkADRAns)
  | dutyCycleReq (p : DutyCycleReq)
  | dutyCycleAns
  | rxParamSetupReq (p : RXParamSetupReq)
  | rxParamSetupAns (p : RXParamSetupAns)
  | devStatusReq
  | devStatusAns (p : DevStatusAns)
  | newChannelReq (p : NewChannelReq)
  | newChannelAns (p : NewChannelAns)
  | rxTimingSetupReq (p : RXTimingSetupReq)
  | rxTimingSetupAns
  | txParamSetupReq (p : TXParamSetupReq)
  | txParamSetupAns
  | dlChannelReq (p : DlChannelReq)
  | dlChannelAns (p : DlChannelAns)
deriving DecidableEq

/-- A command without what it carries. -/
inductive Command.Kind where
  | linkCheckReq | linkCheckAns | linkADRReq | linkADRAns | dutyCycleReq | dutyCycleAns
  | rxParamSetupReq | rxParamSetupAns | devStatusReq | devStatusAns | newChannelReq | newChannelAns
  | rxTimingSetupReq | rxTimingSetupAns | txParamSetupReq | txParamSetupAns | dlChannelReq
  | dlChannelAns
deriving DecidableEq

namespace Command

namespace Kind

/-- The identifier byte. -/
def id : Kind → UInt8
  | linkCheckReq | linkCheckAns => 0x02
  | linkADRReq | linkADRAns => 0x03
  | dutyCycleReq | dutyCycleAns => 0x04
  | rxParamSetupReq | rxParamSetupAns => 0x05
  | devStatusReq | devStatusAns => 0x06
  | newChannelReq | newChannelAns => 0x07
  | rxTimingSetupReq | rxTimingSetupAns => 0x08
  | txParamSetupReq | txParamSetupAns => 0x09
  | dlChannelReq | dlChannelAns => 0x0A

/-- Which way commands of a kind go. -/
def direction : Kind → Direction
  | linkCheckReq | linkADRAns | dutyCycleAns | rxParamSetupAns | devStatusAns | newChannelAns
  | rxTimingSetupAns | txParamSetupAns | dlChannelAns => .up
  | linkCheckAns | linkADRReq | dutyCycleReq | rxParamSetupReq | devStatusReq | newChannelReq
  | rxTimingSetupReq | txParamSetupReq | dlChannelReq => .down

/-- The kind with an identifier, among those that go one way. -/
def ofId? (id : UInt8) : Direction → Option Kind
  | .up =>
    if id = 0x02 then some linkCheckReq
    else if id = 0x03 then some linkADRAns
    else if id = 0x04 then some dutyCycleAns
    else if id = 0x05 then some rxParamSetupAns
    else if id = 0x06 then some devStatusAns
    else if id = 0x07 then some newChannelAns
    else if id = 0x08 then some rxTimingSetupAns
    else if id = 0x09 then some txParamSetupAns
    else if id = 0x0A then some dlChannelAns
    else none
  | .down =>
    if id = 0x02 then some linkCheckAns
    else if id = 0x03 then some linkADRReq
    else if id = 0x04 then some dutyCycleReq
    else if id = 0x05 then some rxParamSetupReq
    else if id = 0x06 then some devStatusReq
    else if id = 0x07 then some newChannelReq
    else if id = 0x08 then some rxTimingSetupReq
    else if id = 0x09 then some txParamSetupReq
    else if id = 0x0A then some dlChannelReq
    else none

end Kind

/-- What a command is, without its payload. -/
def kind : Command → Kind
  | linkCheckReq => .linkCheckReq
  | linkCheckAns _ => .linkCheckAns
  | linkADRReq _ => .linkADRReq
  | linkADRAns _ => .linkADRAns
  | dutyCycleReq _ => .dutyCycleReq
  | dutyCycleAns => .dutyCycleAns
  | rxParamSetupReq _ => .rxParamSetupReq
  | rxParamSetupAns _ => .rxParamSetupAns
  | devStatusReq => .devStatusReq
  | devStatusAns _ => .devStatusAns
  | newChannelReq _ => .newChannelReq
  | newChannelAns _ => .newChannelAns
  | rxTimingSetupReq _ => .rxTimingSetupReq
  | rxTimingSetupAns => .rxTimingSetupAns
  | txParamSetupReq _ => .txParamSetupReq
  | txParamSetupAns => .txParamSetupAns
  | dlChannelReq _ => .dlChannelReq
  | dlChannelAns _ => .dlChannelAns

/-- The first byte of a command. -/
def id (c : Command) : UInt8 := c.kind.id

/-- Which way a command goes. -/
def direction (c : Command) : Direction := c.kind.direction

/-- The bytes after the identifier. -/
def payload : Command → List UInt8
  | linkCheckAns p => [p.margin, p.gatewayCount]
  | linkADRReq p => p.rateAndPower :: p.channelMask.bytes ++ [p.redundancy]
  | linkADRAns p => [p.flags]
  | dutyCycleReq p => [p.exponent]
  | rxParamSetupReq p => p.settings :: p.frequency.bytes
  | rxParamSetupAns p => [p.flags]
  | devStatusAns p => [p.battery, p.marginByte]
  | newChannelReq p => p.channelIndex :: p.frequency.bytes ++ [p.rates]
  | newChannelAns p => [p.flags]
  | rxTimingSetupReq p => [p.settings]
  | txParamSetupReq p => [p.settings]
  | dlChannelReq p => p.channelIndex :: p.frequency.bytes
  | dlChannelAns p => [p.flags]
  | linkCheckReq | dutyCycleAns | devStatusReq | rxTimingSetupAns | txParamSetupAns => []

/-- The length on air, the identifier included. -/
def size (c : Command) : Nat := 1 + c.payload.length

/--
The command of a kind whose payload the bytes start with, and the bytes behind it; nothing if they
are too few.
-/
def ofPayload? : Kind → List UInt8 → Option (Command × List UInt8)
  | .linkCheckReq, rest => some (linkCheckReq, rest)
  | .linkCheckAns, a :: b :: rest => some (linkCheckAns ⟨a, b⟩, rest)
  | .linkADRReq, a :: b :: c :: d :: rest => some (linkADRReq ⟨a, ⟨b, c⟩, d⟩, rest)
  | .linkADRAns, a :: rest => some (linkADRAns ⟨a⟩, rest)
  | .dutyCycleReq, a :: rest => some (dutyCycleReq ⟨a⟩, rest)
  | .dutyCycleAns, rest => some (dutyCycleAns, rest)
  | .rxParamSetupReq, a :: b :: c :: d :: rest => some (rxParamSetupReq ⟨a, ⟨b, c, d⟩⟩, rest)
  | .rxParamSetupAns, a :: rest => some (rxParamSetupAns ⟨a⟩, rest)
  | .devStatusReq, rest => some (devStatusReq, rest)
  | .devStatusAns, a :: b :: rest => some (devStatusAns ⟨a, b⟩, rest)
  | .newChannelReq, a :: b :: c :: d :: e :: rest =>
    some (newChannelReq ⟨a, ⟨b, c, d⟩, e⟩, rest)
  | .newChannelAns, a :: rest => some (newChannelAns ⟨a⟩, rest)
  | .rxTimingSetupReq, a :: rest => some (rxTimingSetupReq ⟨a⟩, rest)
  | .rxTimingSetupAns, rest => some (rxTimingSetupAns, rest)
  | .txParamSetupReq, a :: rest => some (txParamSetupReq ⟨a⟩, rest)
  | .txParamSetupAns, rest => some (txParamSetupAns, rest)
  | .dlChannelReq, a :: b :: c :: d :: rest => some (dlChannelReq ⟨a, ⟨b, c, d⟩⟩, rest)
  | .dlChannelAns, a :: rest => some (dlChannelAns ⟨a⟩, rest)
  | _, _ => none

/-- Answers that are repeated in every uplink until a downlink shows that the network got them. -/
def isSticky : Command → Bool
  | rxParamSetupAns _ | rxTimingSetupAns | dlChannelAns _ => true
  | _ => false

end Command

end LoraLink
