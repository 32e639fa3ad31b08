import LoraLink.Proofs.Bits
import LoraLink.Proofs.Carriage
import LoraLink.Proofs.Grammar
import LoraLink.Proofs.Request

/-!
# Answers to a downlink

A downlink can carry many requests, each of which changes the device that the next one finds, and
the queue for the answers holds only 15 commands. An answer that finds it full is lost. What was
asked is done all the same, and so is what is asked after that.

So carrying out and queueing can be told apart. The commands are carried out one after the other
with no regard to the queue. The queue then holds what it held before, without the answers that the
downlink shows to have been heard, and the new answers behind that, up to its capacity.
-/

namespace LoraLink

namespace Command

/-- What a request is answered with, where the region has no parameters of transmission to set. -/
def Kind.answer? : Kind → Option Kind
  | linkADRReq => some linkADRAns
  | dutyCycleReq => some dutyCycleAns
  | rxParamSetupReq => some rxParamSetupAns
  | devStatusReq => some devStatusAns
  | newChannelReq => some newChannelAns
  | rxTimingSetupReq => some rxTimingSetupAns
  | dlChannelReq => some dlChannelAns
  | _ => none

end Command

/-! ## Where the commands are -/

namespace DataFrame

/-- The bytes of a frame that its commands are read off. -/
def commandBytes (bytes : List UInt8) (f : DataFrame) : List UInt8 :=
  if f.port = some 0 then f.payload else optionBytes bytes

theorem leading_commands {bytes : List UInt8} {f : DataFrame} (h : decode bytes = .ok f) :
    Command.Leading f.direction (f.commandBytes bytes) f.commands.1 := by
  unfold commandBytes
  by_cases hzero : f.port = some 0
  · obtain ⟨body, code, hparts⟩ := exists_parts h
    rw [if_pos hzero, commands_of_payload hzero (hparts.once hzero)]
    exact Command.leading_decodeAll _ _
  · have haccount := accounted h
    rw [if_neg hzero, commands_of_options hzero, haccount.direction]
    exact haccount.options

end DataFrame

namespace EndDevice

variable (r : Region)

/-! ## Carrying out -/

/-- What commands make of a device when their answers are put aside. -/
structure Carried where
  device : EndDevice
  answers : List Command := []
  actions : List Action := []

/-- Carries out commands one after the other, and puts their answers aside. -/
def carryOut (s : Status) (d : EndDevice) : List Command → Carried
  | [] => { device := d }
  | c :: rest =>
    let h := d.handled r s c
    let later := h.device.carryOut s rest
    { device := later.device
      answers := h.answer.toList ++ later.answers
      actions := h.actions ++ later.actions }

def withQueue (d : EndDevice) (queue : List Command) : EndDevice := { d with queue }

theorem handleLinkADR_withQueue (d : EndDevice) (queue : List Command) (p : LinkADRReq) :
    (d.withQueue queue).handleLinkADR r p =
      { d.handleLinkADR r p with device := (d.handleLinkADR r p).device.withQueue queue } := by
  have hplan : (d.withQueue queue).plan = d.plan := rfl
  have hrate : (d.withQueue queue).requestedRate r p = d.requestedRate r p := rfl
  have hpower : (d.withQueue queue).requestedPower r p = d.requestedPower r p := rfl
  unfold handleLinkADR
  dsimp only
  rw [hplan, hrate, hpower]
  -- Only a request that is granted makes another device, from which the queue is not read.
  cases d.plan.resolveMask p.channelMask p.maskControl.toNat with
  | error e => rfl
  | ok statuses =>
    cases d.requestedRate r p with
    | none => rfl
    | some rate =>
      cases d.requestedPower r p with
      | none => rfl
      | some power =>
        dsimp only
        split <;> rfl

theorem handleRxParamSetup_withQueue (d : EndDevice) (queue : List Command) (p : RXParamSetupReq) :
    (d.withQueue queue).handleRxParamSetup r p =
      { d.handleRxParamSetup r p with
        device := (d.handleRxParamSetup r p).device.withQueue queue } := by
  unfold handleRxParamSetup
  dsimp only
  split <;> rfl

/-- A command is carried out with no regard to what is queued. -/
theorem handled_withQueue (s : Status) (d : EndDevice) (queue : List Command) (c : Command) :
    (d.withQueue queue).handled r s c =
      { d.handled r s c with device := (d.handled r s c).device.withQueue queue } := by
  cases c with
  | linkADRReq p => exact handleLinkADR_withQueue r d queue p
  | rxParamSetupReq p => exact handleRxParamSetup_withQueue r d queue p
  | newChannelReq p =>
    rw [handled_newChannel, handled_newChannel]
    rfl
  | _ => rfl

theorem carryOut_withQueue (s : Status) (d : EndDevice) (queue : List Command)
    (cs : List Command) :
    (d.withQueue queue).carryOut r s cs =
      { d.carryOut r s cs with device := (d.carryOut r s cs).device.withQueue queue } := by
  induction cs generalizing d with
  | nil => rfl
  | cons c rest ih =>
    rw [carryOut, carryOut, handled_withQueue]
    dsimp only
    rw [ih]

/-! ## Queueing -/

/-- What finds no room stays out, and so does all that comes behind it. -/
theorem take_append_take {α : Type} (n : Nat) (xs ys : List α) :
    (xs.take n ++ ys).take n = (xs ++ ys).take n := by
  rw [List.take_append, List.take_append, List.take_take, Nat.min_self, List.length_take]
  congr 2
  omega

theorem queueAnswer_eq {d : EndDevice} (hroom : d.queue.length ≤ queueCapacity)
    (answer : Option Command) :
    d.queueAnswer answer = d.withQueue ((d.queue ++ answer.toList).take queueCapacity) := by
  cases answer with
  | none =>
    have hall : (d.queue ++ (none : Option Command).toList).take queueCapacity = d.queue := by
      rw [Option.toList_none, List.append_nil, List.take_of_length_le hroom]
    rw [hall]
    rfl
  | some a =>
    unfold queueAnswer enqueue?
    dsimp only
    -- A queue that is full keeps what it has, which is also what is taken of the longer one.
    by_cases hspace : d.queue.length < queueCapacity
    · rw [if_pos hspace, Option.toList_some,
        List.take_of_length_le (by rw [List.length_append, List.length_singleton]; omega)]
      rfl
    · have hall : (d.queue ++ (some a).toList).take queueCapacity = d.queue := by
        rw [List.take_append_of_le_length (Nat.le_of_not_lt hspace), List.take_of_length_le hroom]
      rw [if_neg hspace, hall]
      rfl

/-- **Carrying out and queueing at once is carrying out, and then queueing.** -/
theorem handledAll_eq (s : Status) {d : EndDevice} (hroom : d.queue.length ≤ queueCapacity)
    (cs : List Command) :
    d.handledAll r s cs =
      ((d.carryOut r s cs).device.withQueue
        ((d.queue ++ (d.carryOut r s cs).answers).take queueCapacity),
        (d.carryOut r s cs).actions) := by
  induction cs generalizing d with
  | nil =>
    change (d, []) = (d.withQueue ((d.queue ++ []).take queueCapacity), [])
    rw [List.append_nil, List.take_of_length_le hroom]
    rfl
  | cons c rest ih =>
    obtain ⟨plan, settings, hdevice, -, -⟩ := (handledAs_handled r s d c).device
    rw [handledAll, carryOut]
    dsimp only
    generalize d.handled r s c = h at hdevice ⊢
    have hqueue : h.device.queue = d.queue := by rw [hdevice]
    have hroom' : h.device.queue.length ≤ queueCapacity := by
      rw [hqueue]
      exact hroom
    let queue := (d.queue ++ h.answer.toList).take queueCapacity
    have hqueued : h.device.queueAnswer h.answer = h.device.withQueue queue := by
      rw [queueAnswer_eq hroom', hqueue]
    have hlater : (h.device.withQueue queue).queue.length ≤ queueCapacity :=
      List.length_take_le _ _
    -- To cut the queue after each answer is to cut it once, behind all of them.
    have hall : ∀ answers, (queue ++ answers).take queueCapacity =
        (d.queue ++ (h.answer.toList ++ answers)).take queueCapacity := by
      intro answers
      rw [take_append_take, List.append_assoc]
    rw [hqueued, ih hlater, carryOut_withQueue, ← hall]
    rfl

/-! ## What the answers say -/

theorem kind_answer (hparams : r.supportsTxParamSetup = false) (s : Status) (d : EndDevice)
    (c : Command) : (d.handled r s c).answer.map Command.kind = c.kind.answer? := by
  cases c with
  | linkADRReq p =>
    obtain ⟨a, ha, -⟩ := answer_linkADR r d p
    change (d.handleLinkADR r p).answer.map Command.kind = _
    rw [ha]
    rfl
  | txParamSetupReq p =>
    change (if r.supportsTxParamSetup then some .txParamSetupAns else none).map Command.kind = none
    rw [hparams]
    rfl
  | newChannelReq p =>
    rw [handled_newChannel]
    rfl
  | _ => rfl

theorem kinds_carryOut (hparams : r.supportsTxParamSetup = false) (s : Status) (d : EndDevice)
    (cs : List Command) :
    (d.carryOut r s cs).answers.map Command.kind = cs.filterMap fun c => c.kind.answer? := by
  induction cs generalizing d with
  | nil => rfl
  | cons c rest ih =>
    have hkind := kind_answer r hparams s d c
    rw [carryOut]
    dsimp only
    rw [List.map_append, ih, List.filterMap_cons, ← hkind]
    cases (d.handled r s c).answer <;> rfl

/-- Only a request for the status is answered by it, and the margin is cut to what can be said. -/
theorem margin_answer {s : Status} {d : EndDevice} {c : Command} {ans : DevStatusAns}
    (h : (d.handled r s c).answer = some (.devStatusAns ans)) :
    ans.margin = max (-32) (min 31 s.reception.snr) := by
  -- Of all requests only one is answered with a margin; the others are gone through for their
  -- answers.
  cases c with
  | devStatusReq =>
    have hlo : -32 ≤ max (-32) (min 31 s.reception.snr) := Int.le_max_left _ _
    have hhi : max (-32) (min 31 s.reception.snr) ≤ 31 := by omega
    obtain ⟨ans', hset, hmargin⟩ := DevStatusAns.margin_setMargin ⟨s.batteryByte, 0⟩ hlo hhi
    change some (statusAnswer s) = _ at h
    unfold statusAnswer at h
    dsimp only at h
    rw [hset] at h
    cases h
    exact hmargin
  | linkADRReq p =>
    obtain ⟨a, ha, -⟩ := answer_linkADR r d p
    change (d.handleLinkADR r p).answer = _ at h
    rw [ha] at h
    cases h
  | txParamSetupReq p =>
    change (if r.supportsTxParamSetup then some Command.txParamSetupAns else none) = _ at h
    split at h <;> cases h
  | newChannelReq p =>
    rw [handled_newChannel] at h
    cases h
  | _ => cases h

theorem margin_carryOut {s : Status} {d : EndDevice} {cs : List Command} {ans : DevStatusAns}
    (h : .devStatusAns ans ∈ (d.carryOut r s cs).answers) :
    ans.margin = max (-32) (min 31 s.reception.snr) := by
  induction cs generalizing d with
  | nil => cases h
  | cons c rest ih =>
    rcases List.mem_append.mp h with hhere | hlater
    · exact margin_answer r (Option.mem_toList.mp hhere)
    · exact ih hlater

/-! ## A downlink -/

variable {σ : Type} [Host σ]

/-- The exchange that a downlink ends is no part of what its commands are about. -/
theorem link_of_downlink {s : Session EndDevice σ} {bytes : List UInt8} {reception : Reception}
    {frame : DataFrame} (hframe : s.node.downlink? bytes = some frame) :
    ((receive r bytes reception).run s).2.node.link =
      (s.node.heeded r ⟨reception, Host.battery s.host, Host.externalPower s.host⟩
        frame).1.link := by
  have hreceived := receive_cases r (rfl : (receive r bytes reception).run s = (_, _))
  cases hreceived with
  | foreign hnone _ =>
    rw [hframe] at hnone
    cases hnone
  | heard hheard h =>
    rw [hframe] at hheard
    cases hheard
    exact h.settled.sameLink

/--
**One downlink yields exactly the right answers.**

Whatever the state of the device, if no more is queued than can be: a downlink for it holds commands
up to the end of its command bytes, or to the first that cannot be read. They are carried out one
after the other without regard to the queue, so what they make of the device, what is reported, and
the answers are the same whatever is queued. The queue then holds the commands that were queued
before and are not sticky, and the answers behind them, as far as there is room. Each of seven kinds
of request has one answer, of its kind, and no other command has any. The margin in an answer to a
request for the status is the one the downlink was heard with, cut to what six bits can say.
-/
theorem commands_answered {s : Session EndDevice σ} {bytes : List UInt8} {frame : DataFrame}
    (hframe : s.node.downlink? bytes = some frame) (hroom : s.node.queue.length ≤ queueCapacity)
    (reception : Reception) :
    let status : Status := ⟨reception, Host.battery s.host, Host.externalPower s.host⟩
    let cs := frame.commands.1
    let noted := s.node.noteDownlink frame
    let carried := noted.carryOut .eu868 status cs
    let after := ((receive .eu868 bytes reception).run s).2
    Command.Leading .down (frame.commandBytes bytes) cs ∧
      after.node.queue = (Command.once s.node.queue ++ carried.answers).take queueCapacity ∧
      after.node.link = (carried.device.withQueue after.node.queue).link ∧
      (∃ rest, after.trace = s.trace ++ carried.actions ++ rest) ∧
      (∀ queue, (noted.withQueue queue).carryOut .eu868 status cs =
        { carried with device := carried.device.withQueue queue }) ∧
      carried.answers.map Command.kind = cs.filterMap (fun c => c.kind.answer?) ∧
      ∀ ans, .devStatusAns ans ∈ carried.answers →
        ans.margin = max (-32) (min 31 reception.snr) := by
  intro status cs noted carried after
  obtain ⟨hdecode, hdown, -⟩ := downlink?_eq_some.mp hframe
  have hleading := DataFrame.leading_commands hdecode
  rw [hdown] at hleading
  have hroom' : noted.queue.length ≤ queueCapacity :=
    Nat.le_trans (List.length_filter_le _ _) hroom
  -- The end of the exchange, which comes last, leaves queue, plan and settings alone.
  have hall := handledAll_eq .eu868 status hroom' cs
  have hlink : after.node.link = (noted.handledAll .eu868 status cs).1.link :=
    link_of_downlink .eu868 hframe
  have hqueue : after.node.queue = (noted.handledAll .eu868 status cs).1.queue :=
    (congrArg EndDevice.queue hlink :)
  let report : Action := .event (.received frame.port
    (if frame.port = some 0 then [] else frame.payload) reception)
  have htake : s.node.heeded .eu868 status frame =
      ((noted.handledAll .eu868 status cs).1,
        (noted.handledAll .eu868 status cs).2 ++ [report]) := rfl
  rw [hall] at hlink hqueue htake
  have hrun := run_receive_reported .eu868 hframe htake
  refine ⟨hleading, hqueue, ?_, ?_, fun queue => carryOut_withQueue .eu868 status noted queue cs,
    kinds_carryOut .eu868 rfl status noted cs, fun ans => margin_carryOut .eu868⟩
  · rw [hqueue]
    exact hlink
  · change ∃ rest, ((receive .eu868 bytes reception).run s).2.trace = _
    rw [hrun]
    exact ⟨_, rfl⟩

/--
There is room for one more command, and the device hears two requests: it reports its status with a
margin that is cut, and sets its delay although there is no room to say so.
-/
theorem commands_answered_full :
    let d := { initial ⟨5⟩ {} Region.eu868.defaultPlan with
      queue := .rxTimingSetupAns :: List.replicate 14 .linkCheckReq }
    let s := (Turn.onBench 3 .txFinished).session d
    let bytes := [0x60, 5, 0, 0, 0, 3, 1, 0, 0x06, 0x08, 3, 0, 0, 0, 0]
    let after := ((receive .eu868 bytes ⟨-80, 40⟩).run s).2.node
    after.queue = List.replicate 14 .linkCheckReq ++ [.devStatusAns ⟨255, 31⟩] ∧
      after.settings.rxDelay = some 3 := by
  intro d s bytes after
  let frame : DataFrame :=
    { messageHeader := ⟨0x60⟩
      direction := .down
      header :=
        { address := ⟨5⟩
          control := ⟨3, .down⟩
          counter := 1
          options := [.devStatusReq, .rxTimingSetupReq ⟨3⟩] }
      port := none
      payload := [] }
  have hframe : s.node.downlink? bytes = some frame := by decide +kernel
  obtain ⟨-, hqueue, hlink, -⟩ := commands_answered hframe (by decide +kernel) ⟨-80, 40⟩
  have hsettings := congrArg EndDevice.settings hlink
  exact ⟨hqueue.trans (by decide +kernel),
    (congrArg Settings.rxDelay hsettings).trans (by decide +kernel)⟩

end EndDevice

end LoraLink
