import LoraLink.Proofs.Acknowledgement

/-!
# Commands in the options and in the payload

The network may put its commands into the options of a downlink or, on port 0, into its payload.
The two frames are delimited by different rules: how far options reach is said by the control byte,
and a payload reaches up to the code at the end. And options are decoded with the header, a payload
only when somebody asks for the commands in it.

It makes no difference for the device. Both are read up to the first command that cannot be
decoded, so the same commands are carried out; and whatever comes after them, the end of the
exchange included, does not depend on where they were found. Only the port that is reported does.
-/

namespace LoraLink

/-! ## Two frames with the same commands -/

/-- What a downlink says besides what it carries. -/
structure Envelope where
  messageHeader : MessageHeader
  address : DeviceAddress
  /-- Of the control byte; the lower four bits count. -/
  flags : UInt8
  counter : UInt16

namespace Envelope

/-- The message header is one that a device takes for that of a downlink, confirmed or not. -/
structure IsDownlink (e : Envelope) : Prop where
  known : e.messageHeader.knownFormat = true
  direction : e.messageHeader.type.direction? = some .down

/-- The control byte in front of some bytes of options. -/
def control (e : Envelope) (len : Nat) : FrameControl :=
  ⟨Byte.ofNibbles e.flags (UInt8.ofNat len), .down⟩

/-- A frame as it is on air. Options and payload may be any bytes. -/
def bytes (e : Envelope) (options : List UInt8) (port : Option UInt8)
    (payload code : List UInt8) : List UInt8 :=
  e.messageHeader.raw :: (e.address.bytes ++ (e.control options.length).raw ::
    (littleEndian 2 e.counter.toNat ++ (options ++ (port.toList ++ payload))) ++ code)

/-- What is read off it. -/
def reading (e : Envelope) (options : List UInt8) (port : Option UInt8) (payload : List UInt8) :
    DataFrame where
  messageHeader := e.messageHeader
  direction := .down
  header :=
    { address := e.address
      control := e.control options.length
      counter := e.counter
      options := (Command.decodeAll .down options).1 }
  port
  payload

variable {e : Envelope} {options payload code : List UInt8} {port : Option UInt8}

/-- The length of the options is read off the control byte as it was put there. -/
theorem optionsLength_control (e : Envelope) {len : Nat} (h : len ≤ maxOptionsLength) :
    (e.control len).optionsLength = len := by
  unfold maxOptionsLength at h
  unfold control FrameControl.optionsLength
  rw [Byte.lowNibble_ofNibbles]
  simp only [UInt8.toNat_mod, UInt8.toNat_ofNat', UInt8.reduceToNat]
  omega

/-- The flags do not depend on the length. -/
theorem ack_control (e : Envelope) (len len' : Nat) :
    (e.control len).ack = (e.control len').ack := by
  refine Byte.flag_of_highNibble ?_ (by decide)
  unfold control
  rw [Byte.highNibble_ofNibbles, Byte.highNibble_ofNibbles]

theorem decode_bytes (he : e.IsDownlink) (hoptions : options.length ≤ maxOptionsLength)
    (hcode : code.length = integrityLength) (hported : port = none → payload = [])
    (honce : port = some 0 → options = []) :
    DataFrame.decode (e.bytes options port payload code) = .ok (e.reading options port payload) := by
  -- The parts are named, and decoding puts them together again.
  have hparts : DataFrame.Parts (e.bytes options port payload code)
      (e.reading options port payload)
      (e.address.bytes ++ (e.control options.length).raw ::
        (littleEndian 2 e.counter.toNat ++ (options ++ (port.toList ++ payload)))) code :=
    { whole := rfl
      integrity := hcode
      known := he.known
      direction := he.direction
      header := FrameHeader.decode?_bytes e.address (e.control options.length) e.counter
        (e.optionsLength_control hoptions).symm _
      ported := hported
      once := fun hzero => by
        change (Command.decodeAll .down options).1 = []
        rw [honce hzero, Command.decodeAll_nil] }
  exact hparts.decode

/-- **The commands of a frame are the same in its options and in its payload.** -/
theorem commands_reading (e : Envelope) (b : List UInt8) :
    (e.reading b none []).commands.1 = (e.reading [] (some 0) b).commands.1 := by
  have hoptions : (e.reading [] (some 0) b).header.options = [] := by
    change (Command.decodeAll .down []).1 = []
    rw [Command.decodeAll_nil]
  rw [DataFrame.commands_of_options (f := e.reading b none []) nofun,
    DataFrame.commands_of_payload (f := e.reading [] (some 0) b) rfl hoptions]
  rfl

end Envelope

/-! ## Calls that do not look back -/

namespace Session

variable {ν σ : Type}

/-- The session if some more had been done before. -/
def behind (earlier : List Action) (s : Session ν σ) : Session ν σ :=
  { s with trace := earlier ++ s.trace }

end Session

namespace Call

variable {ν σ α β : Type}

/-- What a call does and how it ends does not depend on what was done before. -/
def Blind (m : Call ν σ α) : Prop :=
  ∀ (earlier : List Action) (s : Session ν σ),
    m.run (s.behind earlier) = ((m.run s).1, (m.run s).2.behind earlier)

theorem blind_bind {m : Call ν σ α} {f : α → Call ν σ β} (hm : m.Blind) (hf : ∀ a, (f a).Blind) :
    (m >>= f).Blind := by
  intro earlier s
  have hbehind := hm earlier s
  rcases hrun : m.run s with ⟨e | a, s'⟩ <;> rw [hrun] at hbehind
  · rw [run_bind_error hrun, run_bind_error hbehind]
  · rw [run_bind_ok hrun, run_bind_ok hbehind]
    exact hf a earlier s'

theorem blind_pure (a : α) : (pure a : Call ν σ α).Blind := fun _ _ => rfl

theorem blind_node : (node : Call ν σ ν).Blind := fun _ _ => rfl

theorem blind_modifyNode (f : ν → ν) : (modifyNode f : Call ν σ Unit).Blind := fun _ _ => rfl

theorem blind_record (actions : List Action) : (record actions : Call ν σ Unit).Blind := by
  intro earlier s
  have htrace : (s.behind earlier).did actions = (s.did actions).behind earlier := by
    unfold Session.did Session.behind
    rw [List.append_assoc]
  rw [run_record, run_record, htrace]

variable [Host σ]

theorem blind_radio (q : RadioRequest) : (radio q : Call ν σ Unit).Blind := by
  intro earlier s
  have hsame : (s.behind earlier).accepts q = s.accepts q := rfl
  have htrace : (s.behind earlier).asked q = (s.asked q).behind earlier := by
    unfold Session.asked
    rw [hsame]
    unfold Session.behind
    rw [List.append_assoc]
  cases hq : s.accepts q with
  | true => rw [run_radio_ok (hsame.trans hq), run_radio_ok hq, htrace]
  | false => rw [run_radio_error (hsame.trans hq), run_radio_error hq, htrace]

theorem blind_schedule (delay : Duration) (a : Alarm) :
    (schedule delay a : Call ν σ EventId).Blind := by
  intro earlier s
  have hsame : (s.behind earlier).alarmId? delay a = s.alarmId? delay a := rfl
  cases hid : s.alarmId? delay a with
  | some id =>
    rw [run_schedule_ok (hsame.trans hid), run_schedule_ok hid]
    rfl
  | none =>
    rw [run_schedule_error (hsame.trans hid), run_schedule_error hid]
    rfl

end Call

namespace EndDevice

variable {σ : Type} [Host σ]

theorem blind_conclude (received ack : Bool) :
    (conclude received ack : Call EndDevice σ Unit).Blind := by
  refine Call.blind_bind Call.blind_node fun d => ?_
  cases d.held with
  | none => exact Call.blind_pure ()
  | some u =>
    dsimp only
    split
    · exact Call.blind_bind (Call.blind_schedule _ _) fun _ => Call.blind_modifyNode _
    · exact Call.blind_bind (Call.blind_modifyNode _) fun _ => Call.blind_record _

theorem blind_endExchange (ack : Bool) : (endExchange ack : Call EndDevice σ Unit).Blind :=
  Call.blind_bind (Call.blind_modifyNode _) fun _ =>
    Call.blind_bind (Call.blind_radio _) fun _ => blind_conclude true ack

/-! ## Taking in either frame -/

variable (r : Region)

/-- Taken in, the two frames leave the same device, and all that differs is the report at the end. -/
theorem heeded_carriage (status : Status) (d : EndDevice) (e : Envelope) (b : List UInt8) :
    ∃ d' actions,
      d.heeded r status (e.reading b none []) =
        (d', actions ++ [.event (.received none [] status.reception)]) ∧
      d.heeded r status (e.reading [] (some 0) b) =
        (d', actions ++ [.event (.received (some 0) [] status.reception)]) := by
  have hnote : d.noteDownlink (e.reading b none []) = d.noteDownlink (e.reading [] (some 0) b) :=
    rfl
  refine ⟨_, _, rfl, ?_⟩
  rw [hnote, e.commands_reading b]
  rfl

/-- What follows the report of a downlink is the same, whatever was reported. -/
theorem run_receive_reported {bytes : List UInt8} {reception : Reception} {frame : DataFrame}
    {s : Session EndDevice σ} {d : EndDevice} {actions : List Action} {report : Action}
    (h : s.node.downlink? bytes = some frame)
    (htake : s.node.heeded r
      ⟨reception, Host.battery s.host, Host.externalPower s.host⟩ frame = (d, actions ++ [report])) :
    let rest := (endExchange frame.header.control.ack).run
      { node := d, host := s.host, random := s.random }
    (receive r bytes reception).run s = (rest.1, ⟨rest.2.node, rest.2.host, rest.2.random,
      s.trace ++ actions ++ report :: rest.2.trace⟩) := by
  intro rest
  have hheard : heard r reception frame s = Session.behind (s.trace ++ (actions ++ [report]))
      { node := d, host := s.host, random := s.random } := by
    unfold heard
    dsimp only
    rw [htake]
    unfold Session.behind
    rw [List.append_nil]
    rfl
  have htrace : s.trace ++ (actions ++ [report]) ++ rest.2.trace =
      s.trace ++ actions ++ report :: rest.2.trace := by
    simp only [List.append_assoc, List.cons_append, List.nil_append]
  -- What comes after the report does not look at the trace, so it may as well start with none.
  rw [run_receive r h, hheard, blind_endExchange]
  unfold Session.behind
  rw [htrace]

/--
**Commands act the same wherever they are carried.**

Whatever the state of the device, of its host and of its random numbers: a downlink for it with up
to 15 bytes in its options and nothing behind them, and one with the same bytes as its payload on
port 0, confirmed or not, with any flags, counter and code, end in the same result and leave the
same device, host and random numbers. The same is done meanwhile, except that the port is reported
with which each frame has come.
-/
theorem receive_carriage {e : Envelope} (he : e.IsDownlink) {b code code' : List UInt8}
    (hb : b.length ≤ maxOptionsLength) (hcode : code.length = integrityLength)
    (hcode' : code'.length = integrityLength) {s : Session EndDevice σ}
    (haddress : e.address = s.node.address) (reception : Reception) :
    ∃ res node host random before after,
      (receive r (e.bytes b none [] code) reception).run s =
        (res, ⟨node, host, random, before ++ .event (.received none [] reception) :: after⟩) ∧
      (receive r (e.bytes [] (some 0) b code') reception).run s =
        (res, ⟨node, host, random, before ++ .event (.received (some 0) [] reception) :: after⟩) := by
  have hoptions : s.node.downlink? (e.bytes b none [] code) = some (e.reading b none []) :=
    downlink?_eq_some.mpr ⟨Envelope.decode_bytes he hb hcode (fun _ => rfl) nofun, rfl, haddress⟩
  have hpayload : s.node.downlink? (e.bytes [] (some 0) b code') =
      some (e.reading [] (some 0) b) :=
    downlink?_eq_some.mpr ⟨Envelope.decode_bytes he (Nat.zero_le _) hcode' nofun (fun _ => rfl),
      rfl, haddress⟩
  obtain ⟨d, actions, htake, htake'⟩ := heeded_carriage r
    ⟨reception, Host.battery s.host, Host.externalPower s.host⟩ s.node e b
  have hrun := run_receive_reported r hoptions htake
  have hrun' := run_receive_reported r hpayload htake'
  -- Either frame acknowledges, or neither does.
  have hack : (e.reading [] (some 0) b).header.control.ack =
      (e.reading b none []).header.control.ack := e.ack_control _ _
  rw [hack] at hrun'
  exact ⟨_, _, _, _, _, _, hrun, hrun'⟩

/--
The device is asked for its status, and the request behind that one is cut short: the status is
answered, and nothing else.
-/
theorem receive_carriage_cut_short :
    let e : Envelope := ⟨⟨0x60⟩, ⟨5⟩, 2, 7⟩
    let s := (Turn.onBench 0 .txFinished).session (initial ⟨5⟩ {} Region.eu868.defaultPlan)
    e.bytes [6, 3, 0x50] none [] [0, 0, 0, 0] =
        [0x60, 5, 0, 0, 0, 0x23, 7, 0, 6, 3, 0x50, 0, 0, 0, 0] ∧
      e.bytes [] (some 0) [6, 3, 0x50] [1, 2, 3, 4] =
        [0x60, 5, 0, 0, 0, 0x20, 7, 0, 0, 6, 3, 0x50, 1, 2, 3, 4] ∧
      ∃ res node host random before after,
        (receive .eu868 (e.bytes [6, 3, 0x50] none [] [0, 0, 0, 0]) ⟨-80, 5⟩).run s =
          (res, ⟨node, host, random, before ++ .event (.received none [] ⟨-80, 5⟩) :: after⟩) ∧
        (receive .eu868 (e.bytes [] (some 0) [6, 3, 0x50] [1, 2, 3, 4]) ⟨-80, 5⟩).run s =
          (res, ⟨node, host, random,
            before ++ .event (.received (some 0) [] ⟨-80, 5⟩) :: after⟩) ∧
        node.queue = [.devStatusAns ⟨255, 5⟩] := by
  intro e s
  have he : e.IsDownlink := ⟨by decide, by decide⟩
  refine ⟨by decide, by decide, ?_⟩
  obtain ⟨res, node, host, random, before, after, hoptions, hpayload⟩ :=
    @receive_carriage _ _ .eu868 e he [6, 3, 0x50] [0, 0, 0, 0] [1, 2, 3, 4] (by decide) rfl rfl
      s rfl ⟨-80, 5⟩
  refine ⟨res, node, host, random, before, after, hoptions, hpayload, ?_⟩
  have hqueue : ((receive .eu868 (e.bytes [6, 3, 0x50] none [] [0, 0, 0, 0]) ⟨-80, 5⟩).run
      s).2.node.queue = [.devStatusAns ⟨255, 5⟩] := by decide +kernel
  rw [hoptions] at hqueue
  exact hqueue

end EndDevice

end LoraLink
