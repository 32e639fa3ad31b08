import LoraLink.Proofs.Bits
import LoraLink.Proofs.Downlink

/-!
# Requests are granted as a whole

Four requests of the network have parts that can be refused one by one: link adaptation, the
parameters of the receive windows, a new channel, and the reply frequency of a channel. The answer
has a flag for each part. A request is carried out just if all flags of its answer are set, and
otherwise nothing happens at all.

What makes a request acceptable is said here in terms of the request, the plan and the tables of
the region, and so is what has changed once it is granted.

Two more requests set one thing and leave the device no choice: the limit on its share of the time,
and the delay of the receive windows.
-/

namespace LoraLink

/-! ## Channel masks -/

/-- A list with an entry for each slot has none past the last slot. -/
theorem getD_map_slots (f : Nat → Bool) (i : Nat) :
    ((List.range channelSlots).map f).getD i false = (decide (i < channelSlots) && f i) := by
  rw [List.getD_eq_getElem?_getD, List.getElem?_map]
  by_cases hi : i < channelSlots
  · rw [List.getElem?_range hi, decide_eq_true hi]
    rfl
  · rw [List.getElem?_eq_none (by rw [List.length_range]; omega), decide_eq_false hi]
    rfl

namespace ChannelMask

theorem statuses_eq (mask : ChannelMask) :
    mask.statuses = (List.range channelSlots).map fun i => (mask.isEnabled? i).getD false := rfl

theorem isEnabled?_lt {mask : ChannelMask} {i : Nat} {b : Bool} (h : mask.isEnabled? i = some b) :
    i < channelSlots := by
  unfold isEnabled? at h
  split at h
  · exact Nat.lt_of_lt_of_le ‹i < 8› (by decide)
  split at h
  · assumption
  · cases h

theorem getD_statuses (mask : ChannelMask) (i : Nat) :
    mask.statuses.getD i false = true ↔ mask.isEnabled? i = some true := by
  rw [statuses_eq, getD_map_slots]
  cases hbit : mask.isEnabled? i with
  | none => simp
  | some b => simp [isEnabled?_lt hbit]

end ChannelMask

namespace Plan

/-- Does a mask stand for the channel in a slot? Control 6 stands for all that are defined. -/
def Selects (p : Plan) (mask : ChannelMask) (control i : Nat) : Prop :=
  (control = 0 ∧ mask.isEnabled? i = some true) ∨ (control = 6 ∧ (p.channel? i).isSome = true)

/-- A mask that a plan can follow: its control has a meaning, and it stands for at least one
channel and only for such as are defined. -/
structure Selectable (p : Plan) (mask : ChannelMask) (control : Nat) : Prop where
  meaningful : control = 0 ∨ control = 6
  defined : ∀ i, p.Selects mask control i → (p.channel? i).isSome = true
  nonempty : ∃ i, p.Selects mask control i

theorem getD_definedStatuses (p : Plan) (i : Nat) :
    p.definedStatuses.getD i false = (p.channel? i).isSome := by
  unfold definedStatuses
  rw [getD_map_slots]
  cases hc : p.channel? i with
  | none => exact Bool.and_false _
  | some c => rw [decide_eq_true (channel?_lt hc)]; rfl

/-- Some status is set just if that of some slot is. -/
theorem any_status_iff (statuses : List Bool) :
    statuses.any id = true ↔ ∃ i, statuses.getD i false = true := by
  rw [List.any_eq_true]
  constructor
  · rintro ⟨b, hb, rfl⟩
    obtain ⟨i, hi⟩ := List.mem_iff_getElem?.mp hb
    exact ⟨i, by rw [List.getD_eq_getElem?_getD, hi]; rfl⟩
  · rintro ⟨i, hget⟩
    rw [List.getD_eq_getElem?_getD] at hget
    cases hi : statuses[i]? with
    | none =>
      rw [hi] at hget
      cases hget
    | some b =>
      rw [hi] at hget
      exact ⟨b, List.mem_of_getElem? hi, hget⟩

/-- The bits of a mask are compared slot by slot with what is defined. -/
theorem bits_defined_iff (p : Plan) (mask : ChannelMask) :
    ((mask.statuses.zip p.definedStatuses).all fun (wanted, here) => !wanted || here) = true ↔
      ∀ i, mask.isEnabled? i = some true → (p.channel? i).isSome = true := by
  -- Both lists run over the slots of the plan, so their pairs do, too.
  have hzip : mask.statuses.zip p.definedStatuses = (List.range channelSlots).map fun i =>
      ((mask.isEnabled? i).getD false, (p.channel? i).isSome) := List.zip_map' ..
  rw [hzip, List.all_map, List.all_eq_true]
  constructor
  · intro h i hbit
    simpa [hbit] using h i (List.mem_range.mpr (ChannelMask.isEnabled?_lt hbit))
  · intro h i _
    cases hbit : mask.isEnabled? i with
    | none => simp [hbit]
    | some b =>
      cases b with
      | false => simp [hbit]
      | true => simp [hbit, h i hbit]

/-- What a mask asks for, if the plan can give it, is what the mask stands for. -/
theorem requestedStatuses_eq_ok {p : Plan} {mask : ChannelMask} {control : Nat}
    {statuses : List Bool} (h : p.requestedStatuses mask control = .ok statuses) (i : Nat) :
    statuses.getD i false = true ↔ p.Selects mask control i := by
  unfold requestedStatuses at h
  split at h
  · rename_i hcontrol
    split at h
    · cases h
      rw [ChannelMask.getD_statuses]
      simp [Selects, hcontrol]
    · cases h
  split at h
  · rename_i hcontrol
    cases h
    rw [getD_definedStatuses]
    simp [Selects, hcontrol]
  · cases h

/-- The plan can give what a mask asks for just if all of it is defined. -/
theorem requestedStatuses_isOk_iff (p : Plan) (mask : ChannelMask) (control : Nat) :
    (∃ statuses, p.requestedStatuses mask control = .ok statuses) ↔
      (control = 0 ∨ control = 6) ∧
        ∀ i, p.Selects mask control i → (p.channel? i).isSome = true := by
  unfold requestedStatuses
  -- Of the eight values of the control field only 0 and 6 mean anything here.
  by_cases hzero : control = 0
  · have hbits := bits_defined_iff p mask
    rw [if_pos hzero]
    by_cases hall : ((mask.statuses.zip p.definedStatuses).all
        fun (wanted, here) => !wanted || here) = true
    · rw [if_pos hall]
      simpa [Selects, hzero] using hbits.mp hall
    · rw [if_neg hall]
      simpa [Selects, hzero] using fun h => hall (hbits.mpr h)
  · rw [if_neg hzero]
    by_cases hsix : control = 6
    · simp [Selects, hsix]
    · simp [hzero, hsix]

/-- **A mask is resolved just if the plan can follow it**, and to what it stands for. -/
theorem resolveMask_isOk_iff (p : Plan) (mask : ChannelMask) (control : Nat) :
    (∃ statuses, p.resolveMask mask control = .ok statuses) ↔ p.Selectable mask control := by
  have hasked := requestedStatuses_isOk_iff p mask control
  unfold resolveMask
  cases hr : p.requestedStatuses mask control with
  | error e =>
    rw [hr] at hasked
    constructor
    · rintro ⟨statuses, h⟩
      cases h
    · intro h
      obtain ⟨statuses, h⟩ := hasked.mpr ⟨h.meaningful, h.defined⟩
      cases h
  | ok statuses =>
    obtain ⟨hmeaningful, hdefined⟩ := hasked.mp ⟨statuses, hr⟩
    have hsome : statuses.any id = true ↔ ∃ i, p.Selects mask control i := by
      simp only [any_status_iff, requestedStatuses_eq_ok hr]
    dsimp only
    -- Even a mask the plan can serve is refused if it would leave no channel on.
    by_cases hany : statuses.any id = true
    · rw [if_pos hany]
      exact ⟨fun _ => ⟨hmeaningful, hdefined, hsome.mp hany⟩, fun _ => ⟨statuses, rfl⟩⟩
    · rw [if_neg hany]
      constructor
      · rintro ⟨_, h⟩
        cases h
      · exact fun h => absurd (hsome.mpr h.nonempty) hany

theorem resolveMask_eq_ok {p : Plan} {mask : ChannelMask} {control : Nat} {statuses : List Bool}
    (h : p.resolveMask mask control = .ok statuses) (i : Nat) :
    statuses.getD i false = true ↔ p.Selects mask control i := by
  unfold resolveMask at h
  cases hr : p.requestedStatuses mask control with
  | error e =>
    rw [hr] at h
    cases h
  | ok statuses' =>
    rw [hr] at h
    dsimp only at h
    split at h
    · cases h
      exact requestedStatuses_eq_ok hr i
    · cases h

theorem maskSupports_iff {p : Plan} {statuses : List Bool} {rate : DataRate} :
    p.maskSupports statuses rate = true ↔
      ∃ i c, p.channel? i = some c ∧ statuses.getD i false = true ∧ c.supports rate = true := by
  unfold maskSupports
  simp only [List.any_eq_true, Prod.exists, mem_definedChannels, Bool.and_eq_true]

theorem mem_enabledChannels {p : Plan} {i : Nat} :
    i ∈ p.enabledChannels ↔ ∃ c, p.channel? i = some c ∧ c.enabled = true := by
  unfold enabledChannels
  simp only [List.mem_map, List.mem_filter, Prod.exists, exists_and_right, exists_eq_right,
    mem_definedChannels]

/-- A frequency is valid just if some sub-band contains it. -/
theorem isValidFrequency_iff {p : Plan} {frequency : Nat} :
    p.isValidFrequency frequency = true ↔ ∃ b ∈ p.subBands, b.contains frequency = true := by
  unfold isValidFrequency subBand?
  rw [List.find?_isSome]

end Plan

namespace EndDevice

/-! ## Requests as a whole -/

/--
A request that was decided as a whole: it was acknowledged just if it was acceptable and was
granted; whatever is acceptable is; and if it was not acknowledged, nothing happened. Either way no
clock has moved.
-/
structure Decided (d : EndDevice) (h : Handled) (ack : Bool) (acceptable : Prop)
    (granted : EndDevice → List Action → Prop) : Prop where
  truthful : ack = true ↔ acceptable ∧ granted h.device h.actions
  accepted : acceptable → ack = true
  refused : ack = false → h.device = d ∧ h.actions = []
  clocks : Plan.SameClocks d.plan h.device.plan

theorem Decided.of_ack {d : EndDevice} {h : Handled} {ack : Bool} {acceptable : Prop}
    {granted : EndDevice → List Action → Prop} (hack : ack = true ↔ acceptable)
    (hyes : acceptable → granted h.device h.actions)
    (hno : ¬acceptable → h.device = d ∧ h.actions = [])
    (hclocks : Plan.SameClocks d.plan h.device.plan) : Decided d h ack acceptable granted where
  truthful := ⟨fun h => ⟨hack.mp h, hyes (hack.mp h)⟩, fun h => hack.mpr h.1⟩
  accepted := hack.mpr
  refused := fun h => hno fun ha => Bool.false_ne_true (h.symm.trans (hack.mpr ha))
  clocks := hclocks

variable (r : Region)

theorem HandledAs.sameClocks {d : EndDevice} {h : Handled} (hh : HandledAs r d h) :
    Plan.SameClocks d.plan h.device.plan := by
  obtain ⟨plan, settings, hdevice, hplan, _⟩ := hh.device
  rw [hdevice]
  exact hplan.sameClocks

/-! ## Link adaptation -/

/-- The data rate that a request asks for: the present one, or one the region has for uplinks. -/
def AsksRate (d : EndDevice) (p : LinkADRReq) (rate : DataRate) : Prop :=
  if p.dataRate = 15 then rate = d.dataRate r
  else rate.val = p.dataRate.toNat ∧ rate.inRange r.uplinkRates.1 r.uplinkRates.2 = true
    ∧ r.hasModulation rate = true

/-- The power that a request asks for: the present one, or one from the table of the region. -/
def AsksPower (d : EndDevice) (p : LinkADRReq) (power : Int) : Prop :=
  if p.txPower = 15 then power = d.power r else r.powers[p.txPower.toNat]? = some power

/-- A request that a device can adapt to: the channels selected, the data rate and the power are
all to be had, and one of the channels supports the data rate. -/
structure Adaptable (d : EndDevice) (p : LinkADRReq) (rate : DataRate) (power : Int) : Prop where
  selectable : d.plan.Selectable p.channelMask p.maskControl.toNat
  asksRate : d.AsksRate r p rate
  asksPower : d.AsksPower r p power
  usable : ∃ i c, d.plan.Selects p.channelMask p.maskControl.toNat i
    ∧ d.plan.channel? i = some c ∧ c.supports rate = true

/-- A device that has adapted to a request: this has become of it, and this was reported. -/
structure Adapted (d : EndDevice) (p : LinkADRReq) (d' : EndDevice) (actions : List Action) :
    Prop where
  enabled : ∀ i, i ∈ d'.plan.enabledChannels ↔
    d.plan.Selects p.channelMask p.maskControl.toNat i
  usable : ∃ i ∈ d'.plan.enabledChannels, ∃ c, d'.plan.channel? i = some c
    ∧ c.supports (d'.dataRate r) = true
  asksRate : d.AsksRate r p (d'.dataRate r)
  asksPower : d.AsksPower r p (d'.power r)
  transmissions : d'.settings.transmissions = if p.transmissions = 0 then 1 else p.transmissions
  /-- Of the channels, nothing else has changed. -/
  channels : ∀ i, ∃ enabled, d'.plan.channel? i =
    (d.plan.channel? i).map fun c => { c with enabled }
  /-- Of the device, nothing else has changed. -/
  otherwise : d' = { d with
    plan := d'.plan
    settings := { d.settings with
      txDataRate := some (d'.dataRate r)
      txPower := some (d'.power r)
      transmissions := d'.settings.transmissions } }
  /-- Only another data rate and another power are reported. -/
  events : actions = List.map Action.event
    ((if d.dataRate r = d'.dataRate r then []
      else [.dataRateChanged (d.dataRate r) (d'.dataRate r)]) ++
    (if d.power r = d'.power r then [] else [.txPowerChanged (d.power r) (d'.power r)]))

theorem requestedRate_eq_some_iff {d : EndDevice} {p : LinkADRReq} {rate : DataRate} :
    d.requestedRate r p = some rate ↔ d.AsksRate r p rate := by
  unfold requestedRate AsksRate
  -- The value 15 asks for the data rate to stay.
  by_cases hkeep : p.dataRate = 15
  · rw [if_pos hkeep, if_pos hkeep, Option.some_inj, eq_comm]
  rw [if_neg hkeep, if_neg hkeep]
  have hlt : p.dataRate.toNat < 16 := Byte.highNibble_lt p.rateAndPower
  rw [show DataRate.ofNat? p.dataRate.toNat = some ⟨_, hlt⟩ from dif_pos hlt]
  dsimp only
  constructor
  · intro h
    split at h
    · rename_i hrange
      cases h
      exact ⟨rfl, Bool.and_eq_true_iff.mp hrange⟩
    · cases h
  · rintro ⟨hval, hrange⟩
    obtain rfl : rate = ⟨p.dataRate.toNat, hlt⟩ := Fin.ext hval
    rw [if_pos (Bool.and_eq_true_iff.mpr hrange)]

theorem requestedPower_eq_some_iff {d : EndDevice} {p : LinkADRReq} {power : Int} :
    d.requestedPower r p = some power ↔ d.AsksPower r p power := by
  unfold requestedPower AsksPower Region.power
  by_cases hkeep : p.txPower = 15
  · rw [if_pos hkeep, if_pos hkeep, Option.some_inj, eq_comm]
  · rw [if_neg hkeep, if_neg hkeep]
    cases r.powers[p.txPower.toNat]? with
    | none => simp
    | some n => simp

theorem ack_linkADRAns (mask usable power : Bool) :
    ((((LinkADRAns.mk 0).setChannelMaskAck mask).setDataRateAck usable).setTxPowerAck power).ack =
      (mask && usable && power) := by
  revert mask usable power
  decide

/-- What a request has to find in plan and tables for its answer to have all flags set. -/
theorem linkADR_flags_iff (d : EndDevice) (p : LinkADRReq) :
    ((d.plan.resolveMask p.channelMask p.maskControl.toNat).toBool &&
        rateUsable d.plan (d.plan.resolveMask p.channelMask p.maskControl.toNat)
          (d.requestedRate r p) && (d.requestedPower r p).isSome) = true ↔
      ∃ rate power, d.Adaptable r p rate power := by
  have hmask := d.plan.resolveMask_isOk_iff p.channelMask p.maskControl.toNat
  constructor
  · intro h
    -- Unless all three parts are there, one of the three flags is off.
    cases hm : d.plan.resolveMask p.channelMask p.maskControl.toNat with
    | error e => simp [hm, Except.toBool] at h
    | ok statuses =>
      cases hr : d.requestedRate r p with
      | none => simp [hr, rateUsable] at h
      | some rate =>
        cases hp : d.requestedPower r p with
        | none => simp [hp] at h
        | some power =>
          have husable : d.plan.maskSupports statuses rate = true := by
            simpa [hm, hr, hp, rateUsable, Except.toBool] using h
          obtain ⟨i, c, hc, hi, hsupports⟩ := Plan.maskSupports_iff.mp husable
          exact ⟨rate, power, hmask.mp ⟨statuses, hm⟩, (requestedRate_eq_some_iff r).mp hr,
            (requestedPower_eq_some_iff r).mp hp, i, c,
            (Plan.resolveMask_eq_ok hm i).mp hi, hc, hsupports⟩
  · rintro ⟨rate, power, h⟩
    obtain ⟨statuses, hm⟩ := hmask.mpr h.selectable
    obtain ⟨i, c, hi, hc, hsupports⟩ := h.usable
    have husable : d.plan.maskSupports statuses rate = true :=
      Plan.maskSupports_iff.mpr ⟨i, c, hc, (Plan.resolveMask_eq_ok hm i).mpr hi, hsupports⟩
    rw [hm, (requestedRate_eq_some_iff r).mpr h.asksRate,
      (requestedPower_eq_some_iff r).mpr h.asksPower]
    simpa [rateUsable, Except.toBool] using husable

theorem answer_linkADR (d : EndDevice) (p : LinkADRReq) :
    ∃ a, (d.handleLinkADR r p).answer = some (.linkADRAns a) ∧
      (a.ack = true ↔ ∃ rate power, d.Adaptable r p rate power) := by
  refine ⟨_, ?_, by rw [ack_linkADRAns, linkADR_flags_iff]⟩
  unfold handleLinkADR
  dsimp only
  split
  · split <;> rfl
  · rfl

theorem adapted_of_adaptable {d : EndDevice} {p : LinkADRReq} {rate : DataRate} {power : Int}
    (h : d.Adaptable r p rate power) :
    d.Adapted r p (d.handleLinkADR r p).device (d.handleLinkADR r p).actions := by
  obtain ⟨statuses, hmask⟩ :=
    (d.plan.resolveMask_isOk_iff p.channelMask p.maskControl.toNat).mpr h.selectable
  have hselects := Plan.resolveMask_eq_ok hmask
  obtain ⟨i, c, hi, hc, hsupports⟩ := h.usable
  have husable : rateUsable d.plan (.ok statuses) (some rate) = true :=
    Plan.maskSupports_iff.mpr ⟨i, c, hc, (hselects i).mpr hi, hsupports⟩
  unfold handleLinkADR
  rw [hmask, (requestedRate_eq_some_iff r).mpr h.asksRate,
    (requestedPower_eq_some_iff r).mpr h.asksPower]
  dsimp only
  rw [if_pos husable]
  -- A channel that is selected is defined, so it is there to be enabled.
  have henabled : ∀ i, i ∈ (d.plan.selectChannels statuses).enabledChannels ↔
      d.plan.Selects p.channelMask p.maskControl.toNat i := by
    intro i
    rw [Plan.mem_enabledChannels, Plan.channel?_selectChannels]
    constructor
    · rintro ⟨c', hc', hon⟩
      obtain ⟨_, _, rfl⟩ := Option.map_eq_some_iff.mp hc'
      exact (hselects i).mp hon
    · intro hi
      obtain ⟨c', hc'⟩ := Option.isSome_iff_exists.mp (h.selectable.defined i hi)
      exact ⟨_, by rw [hc']; rfl, (hselects i).mpr hi⟩
  exact
    { enabled := henabled
      usable := ⟨i, (henabled i).mpr hi, { c with enabled := statuses.getD i false },
        by rw [setPower, setDataRate, Plan.channel?_selectChannels, hc]; rfl, hsupports⟩
      asksRate := h.asksRate
      asksPower := h.asksPower
      transmissions := rfl
      channels := fun i => ⟨statuses.getD i false, Plan.channel?_selectChannels d.plan statuses i⟩
      otherwise := rfl
      events := rfl }

theorem handleLinkADR_of_not_adaptable {d : EndDevice} {p : LinkADRReq}
    (h : ¬∃ rate power, d.Adaptable r p rate power) :
    (d.handleLinkADR r p).device = d ∧ (d.handleLinkADR r p).actions = [] := by
  rw [← linkADR_flags_iff] at h
  unfold handleLinkADR
  dsimp only
  split
  · rename_i statuses rate power hmask hrate hpower
    rw [hmask, hrate, hpower] at h
    -- The last check is on the data rate, and with it all flags would be set.
    have hunusable : ¬rateUsable d.plan (d.plan.resolveMask p.channelMask p.maskControl.toNat)
        (d.requestedRate r p) = true := by
      intro husable
      rw [hmask, hrate] at husable
      exact h (by rw [husable]; rfl)
    rw [if_neg hunusable]
    exact ⟨rfl, rfl⟩
  · exact ⟨rfl, rfl⟩

theorem decided_linkADR (d : EndDevice) (p : LinkADRReq) :
    ∃ a, (d.handleLinkADR r p).answer = some (.linkADRAns a) ∧
      Decided d (d.handleLinkADR r p) a.ack (∃ rate power, d.Adaptable r p rate power)
        (d.Adapted r p) := by
  obtain ⟨a, ha, hack⟩ := answer_linkADR r d p
  refine ⟨a, ha, .of_ack hack ?_ (handleLinkADR_of_not_adaptable r)
    (handledAs_linkADR r d p).sameClocks⟩
  rintro ⟨rate, power, h⟩
  exact adapted_of_adaptable r h

/-! ## Receive windows -/

/-- Parameters of the receive windows that a device can take over. -/
structure WindowsSettable (p : RXParamSetupReq) (rate : DataRate) : Prop where
  offset : p.rx1DataRateOffset.toNat ≤ 5
  asksRate : rate.val = p.rx2DataRate.toNat
  modulated : r.hasModulation rate = true

/-- A device that has taken over the parameters of its receive windows, and nothing else. -/
structure WindowsSet (d : EndDevice) (p : RXParamSetupReq) (d' : EndDevice)
    (actions : List Action) : Prop where
  offset : d'.rx1Offset r = p.rx1DataRateOffset.toNat
  rate : (d'.rx2Rate r).val = p.rx2DataRate.toNat
  frequency : d'.rx2Frequency r = p.frequency.hertz
  otherwise : d' = { d with
    settings := { d.settings with
      rx1DataRateOffset := d'.settings.rx1DataRateOffset
      rx2DataRate := d'.settings.rx2DataRate
      rx2Frequency := d'.settings.rx2Frequency } }
  quiet : actions = []

theorem ack_rxParamSetupAns (offset rate channel : Bool) :
    ((((RXParamSetupAns.mk 0).setRx1OffsetAck offset).setRx2DataRateAck rate).setChannelAck
      channel).ack = (channel && rate && offset) := by
  revert offset rate channel
  decide

/-- A data rate for the second window is found just if the region has a modulation for it. -/
theorem windowRate_eq_some_iff {p : RXParamSetupReq} {rate : DataRate} :
    (DataRate.ofNat? p.rx2DataRate.toNat).filter r.hasModulation = some rate ↔
      rate.val = p.rx2DataRate.toNat ∧ r.hasModulation rate = true := by
  have hlt : p.rx2DataRate.toNat < 16 := Byte.lowNibble_lt p.settings
  rw [show DataRate.ofNat? p.rx2DataRate.toNat = some ⟨_, hlt⟩ from dif_pos hlt,
    Option.filter_eq_some_iff, Option.some_inj]
  constructor
  · rintro ⟨rfl, hmodulated⟩
    exact ⟨rfl, hmodulated⟩
  · rintro ⟨hval, hmodulated⟩
    exact ⟨Fin.ext hval.symm, hmodulated⟩

theorem decided_rxParamSetup (d : EndDevice) (p : RXParamSetupReq) :
    ∃ a, (d.handleRxParamSetup r p).answer = some (.rxParamSetupAns a) ∧
      Decided d (d.handleRxParamSetup r p) a.ack (∃ rate, WindowsSettable r p rate)
        (d.WindowsSet r p) := by
  have hoffset : decide (p.rx1DataRateOffset ≤ 5) = true ↔ p.rx1DataRateOffset.toNat ≤ 5 := by
    rw [decide_eq_true_iff, UInt8.le_iff_toNat_le]
    rfl
  have hclocks := (handledAs_rxParamSetup r d p).sameClocks
  refine ⟨_, rfl, .of_ack ?_ ?_ ?_ hclocks⟩
  · rw [ack_rxParamSetupAns, Bool.true_and, Bool.and_eq_true, hoffset, Option.isSome_iff_exists]
    simp only [windowRate_eq_some_iff]
    exact ⟨fun ⟨⟨rate, h, h'⟩, ho⟩ => ⟨rate, ho, h, h'⟩, fun ⟨rate, h⟩ =>
      ⟨⟨rate, h.asksRate, h.modulated⟩, h.offset⟩⟩
  · rintro ⟨rate, h⟩
    unfold handleRxParamSetup
    rw [hoffset.mpr h.offset, (windowRate_eq_some_iff r).mpr ⟨h.asksRate, h.modulated⟩]
    exact ⟨rfl, h.asksRate, rfl, rfl, rfl⟩
  · intro h
    refine ⟨?_, rfl⟩
    unfold handleRxParamSetup
    dsimp only
    split
    · rename_i rate ho hrate
      obtain ⟨hval, hmodulated⟩ := (windowRate_eq_some_iff r).mp hrate
      exact absurd ⟨rate, hoffset.mp ho, hval, hmodulated⟩ h
    · rfl

/-! ## Channels -/

/-- A channel that a device can create, replace, or, at frequency 0, delete. -/
structure ChannelSettable (d : EndDevice) (p : NewChannelReq) : Prop where
  slot : p.channelIndex.toNat < channelSlots
  frequency : p.frequency.hertz = 0 ∨
    ∃ b ∈ d.plan.subBands, b.contains p.frequency.hertz = true
  ordered : p.minDataRate.toNat ≤ p.maxDataRate.toNat
  bounded : p.maxDataRate.toNat ≤ r.uplinkRates.2.val

/-- A device in whose slot there is what was asked for, and that is otherwise as it was. -/
structure ChannelSet (d : EndDevice) (p : NewChannelReq) (d' : EndDevice) (actions : List Action) :
    Prop where
  slot : ∃ lo hi : DataRate, lo.val = p.minDataRate.toNat ∧ hi.val = p.maxDataRate.toNat
    ∧ d'.plan.channel? p.channelIndex.toNat = newChannel? p lo hi
  others : ∀ i, i ≠ p.channelIndex.toNat → d'.plan.channel? i = d.plan.channel? i
  otherwise : d' = { d with plan := d'.plan }
  quiet : actions = []

theorem ack_newChannelAns (range frequency : Bool) :
    (((NewChannelAns.mk 0).setDataRateRangeAck range).setFrequencyAck frequency).ack =
      (frequency && range) := by
  revert range frequency
  decide

theorem requestedRange_eq_some_iff {p : NewChannelReq} {lo hi : DataRate} :
    requestedRange r p = some (lo, hi) ↔
      lo.val = p.minDataRate.toNat ∧ hi.val = p.maxDataRate.toNat ∧ lo ≤ hi
        ∧ hi ≤ r.uplinkRates.2 := by
  have hlo : p.minDataRate.toNat < 16 := Byte.lowNibble_lt p.rates
  have hhi : p.maxDataRate.toNat < 16 := Byte.highNibble_lt p.rates
  unfold requestedRange
  rw [show DataRate.ofNat? p.minDataRate.toNat = some ⟨_, hlo⟩ from dif_pos hlo,
    show DataRate.ofNat? p.maxDataRate.toNat = some ⟨_, hhi⟩ from dif_pos hhi]
  dsimp only
  constructor
  · intro h
    split at h
    · rename_i hrange
      cases h
      exact ⟨rfl, rfl, hrange⟩
    · cases h
  · rintro ⟨hl, hh, hrange⟩
    obtain rfl : lo = ⟨p.minDataRate.toNat, hlo⟩ := Fin.ext hl
    obtain rfl : hi = ⟨p.maxDataRate.toNat, hhi⟩ := Fin.ext hh
    rw [if_pos hrange]

theorem mayPlace_iff {d : EndDevice} {p : NewChannelReq} :
    d.mayPlace p = true ↔ p.channelIndex.toNat < channelSlots ∧ (p.frequency.hertz = 0 ∨
      ∃ b ∈ d.plan.subBands, b.contains p.frequency.hertz = true) := by
  unfold mayPlace
  rw [Bool.and_eq_true, Bool.or_eq_true, decide_eq_true_iff, decide_eq_true_iff,
    Plan.isValidFrequency_iff]

theorem exists_requestedRange_iff {p : NewChannelReq} :
    (∃ range, requestedRange r p = some range) ↔
      p.minDataRate.toNat ≤ p.maxDataRate.toNat ∧ p.maxDataRate.toNat ≤ r.uplinkRates.2.val := by
  constructor
  · rintro ⟨⟨lo, hi⟩, h⟩
    obtain ⟨hl, hh, hle, hmax⟩ := (requestedRange_eq_some_iff r).mp h
    rw [← hl, ← hh]
    exact ⟨hle, hmax⟩
  · rintro ⟨hle, hmax⟩
    exact ⟨(⟨_, Byte.lowNibble_lt p.rates⟩, ⟨_, Byte.highNibble_lt p.rates⟩),
      (requestedRange_eq_some_iff r).mpr ⟨rfl, rfl, hle, hmax⟩⟩

theorem decided_newChannel (d : EndDevice) (p : NewChannelReq) :
    ∃ h a, d.handleNewChannel r p = .ok h ∧ h.answer = some (.newChannelAns a) ∧
      Decided d h a.ack (d.ChannelSettable r p) (d.ChannelSet p) := by
  have hclocks := (replanned_replan r d p).sameClocks
  refine ⟨_, _, handleNewChannel_eq r d p, rfl, .of_ack ?_ ?_ ?_ hclocks⟩
  · rw [ack_newChannelAns, Bool.and_eq_true, mayPlace_iff, Option.isSome_iff_exists,
      exists_requestedRange_iff]
    exact ⟨fun ⟨⟨h₁, h₂⟩, h₃, h₄⟩ => ⟨h₁, h₂, h₃, h₄⟩,
      fun h => ⟨⟨h.slot, h.frequency⟩, h.ordered, h.bounded⟩⟩
  · intro h
    obtain ⟨⟨lo, hi⟩, hasked⟩ := (exists_requestedRange_iff r).mpr ⟨h.ordered, h.bounded⟩
    obtain ⟨hlo, hhi, _⟩ := (requestedRange_eq_some_iff r).mp hasked
    have hplan : d.replan r p = d.plan.putSlot p.channelIndex.toNat (newChannel? p lo hi) := by
      unfold replan
      rw [mayPlace_iff.mpr ⟨h.slot, h.frequency⟩, hasked]
    exact
      { slot := ⟨lo, hi, hlo, hhi, by
          change (d.replan r p).channel? _ = _
          rw [hplan, Plan.channel?_putSlot, if_pos ⟨rfl, h.slot⟩]⟩
        others := fun i hne => by
          change (d.replan r p).channel? _ = _
          rw [hplan, Plan.channel?_putSlot, if_neg (fun heq => hne heq.1.symm)]
        otherwise := rfl
        quiet := rfl }
  · intro h
    -- The plan is replanned only if all flags are set, and then the request could be met.
    have hkept : d.replan r p = d.plan := by
      unfold replan
      split
      · rename_i lo hi hplace hasked
        obtain ⟨hslot, hvalid⟩ := mayPlace_iff.mp hplace
        obtain ⟨hle, hmax⟩ := (exists_requestedRange_iff r).mp ⟨_, hasked⟩
        exact absurd ⟨hslot, hvalid, hle, hmax⟩ h
      · rfl
    refine ⟨?_, rfl⟩
    change { d with plan := d.replan r p } = d
    rw [hkept]

/-! ## Reply frequencies -/

/-- A channel whose replies can be moved to another frequency. -/
structure Reroutable (d : EndDevice) (p : DlChannelReq) : Prop where
  frequency : ∃ b ∈ d.plan.subBands, b.contains p.frequency.hertz = true
  defined : (d.plan.channel? p.channelIndex.toNat).isSome = true

/-- A device one of whose channels has its replies on another frequency, and nothing else. -/
structure Rerouted (d : EndDevice) (p : DlChannelReq) (d' : EndDevice) (actions : List Action) :
    Prop where
  slot : d'.plan.channel? p.channelIndex.toNat = (d.plan.channel? p.channelIndex.toNat).map
    fun c => { c with replyFrequency := p.frequency.hertz }
  others : ∀ i, i ≠ p.channelIndex.toNat → d'.plan.channel? i = d.plan.channel? i
  otherwise : d' = { d with plan := d'.plan }
  quiet : actions = []

theorem ack_dlChannelAns (defined frequency : Bool) :
    (((DlChannelAns.mk 0).setUplinkFrequencyAck defined).setFrequencyAck frequency).ack =
      (frequency && defined) := by
  revert defined frequency
  decide

theorem decided_dlChannel (d : EndDevice) (p : DlChannelReq) :
    ∃ a, (d.handleDlChannel p).answer = some (.dlChannelAns a) ∧
      Decided d (d.handleDlChannel p) a.ack (d.Reroutable p) (d.Rerouted p) := by
  have hplan : (d.handleDlChannel p).device.plan =
      if d.plan.isValidFrequency p.frequency.hertz then
        (d.plan.setReplyFrequency? p.channelIndex.toNat p.frequency.hertz).getD d.plan
      else d.plan := rfl
  have hclocks : Plan.SameClocks d.plan (d.handleDlChannel p).device.plan := by
    rw [hplan]
    split
    · cases hmoved : d.plan.setReplyFrequency? p.channelIndex.toNat p.frequency.hertz with
      | none => exact .refl _
      | some q =>
        obtain ⟨c, _, rfl⟩ := Plan.modifyChannel?_eq_some hmoved
        exact Plan.sameClocks_putSlot d.plan _ _
    · exact .refl _
  refine ⟨_, rfl, .of_ack ?_ ?_ ?_ hclocks⟩
  · rw [ack_dlChannelAns, Bool.and_eq_true, Plan.isValidFrequency_iff]
    exact ⟨fun h => ⟨h.1, h.2⟩, fun h => ⟨h.frequency, h.defined⟩⟩
  · intro h
    obtain ⟨c, hc⟩ := Option.isSome_iff_exists.mp h.defined
    -- The channel is there and stays what it was, but for the frequency of its replies.
    have hput : (d.handleDlChannel p).device.plan = d.plan.putSlot p.channelIndex.toNat
        (some { c with replyFrequency := p.frequency.hertz }) := by
      rw [hplan, if_pos (Plan.isValidFrequency_iff.mpr h.frequency), Plan.setReplyFrequency?,
        Plan.modifyChannel?, hc]
      rfl
    exact
      { slot := by rw [hput, Plan.channel?_putSlot, if_pos ⟨rfl, Plan.channel?_lt hc⟩, hc]; rfl
        others := fun i hne => by
          rw [hput, Plan.channel?_putSlot, if_neg (fun heq => hne heq.1.symm)]
        otherwise := rfl
        quiet := rfl }
  · intro h
    refine ⟨?_, rfl⟩
    have hkept : (d.handleDlChannel p).device.plan = d.plan := by
      rw [hplan]
      split
      · rename_i hvalid
        cases hc : d.plan.channel? p.channelIndex.toNat with
        | none =>
          rw [Plan.setReplyFrequency?, Plan.modifyChannel?, hc]
          rfl
        | some c =>
          exact absurd ⟨Plan.isValidFrequency_iff.mp hvalid, by rw [hc]; rfl⟩ h
      · rfl
    change { d with plan := (d.handleDlChannel p).device.plan } = d
    rw [hkept]

/-! ## All four -/

/--
**Requests are granted as a whole or not at all, and answered truthfully.** Whatever the state of a
device and the bytes of the request, the request goes through without a fault, and its answer
acknowledges it just if it was acceptable and was carried out; every acceptable request is; and a
request that is not acknowledged changes nothing and reports nothing. What is asked of plan and
tables, and what a request that was granted has changed, is said for each kind of request by its own
two predicates. None moves a clock.
-/
theorem requests_answered_truthfully (s : Status) (d : EndDevice) :
    (∀ p : LinkADRReq, ∃ h a, d.handle r s (.linkADRReq p) = .ok h ∧
      h.answer = some (.linkADRAns a) ∧
      Decided d h a.ack (∃ rate power, d.Adaptable r p rate power) (d.Adapted r p)) ∧
    (∀ p : RXParamSetupReq, ∃ h a, d.handle r s (.rxParamSetupReq p) = .ok h ∧
      h.answer = some (.rxParamSetupAns a) ∧
      Decided d h a.ack (∃ rate, WindowsSettable r p rate) (d.WindowsSet r p)) ∧
    (∀ p : NewChannelReq, ∃ h a, d.handle r s (.newChannelReq p) = .ok h ∧
      h.answer = some (.newChannelAns a) ∧
      Decided d h a.ack (d.ChannelSettable r p) (d.ChannelSet p)) ∧
    (∀ p : DlChannelReq, ∃ h a, d.handle r s (.dlChannelReq p) = .ok h ∧
      h.answer = some (.dlChannelAns a) ∧
      Decided d h a.ack (d.Reroutable p) (d.Rerouted p)) := by
  refine ⟨fun p => ?_, fun p => ?_, d.decided_newChannel r, fun p => ?_⟩
  · obtain ⟨a, hanswer, hdecided⟩ := d.decided_linkADR r p
    exact ⟨_, a, rfl, hanswer, hdecided⟩
  · obtain ⟨a, hanswer, hdecided⟩ := d.decided_rxParamSetup r p
    exact ⟨_, a, rfl, hanswer, hdecided⟩
  · obtain ⟨a, hanswer, hdecided⟩ := d.decided_dlChannel p
    exact ⟨_, a, rfl, hanswer, hdecided⟩

/-! ## Two that cannot be refused -/

/--
**A limit and a delay are taken as they are.** Whatever the state of a device, a limit on its share
of the time is set to what the byte stands for: nothing at 255, and else `1 / 2 ^ k` for its lower
four bits `k`. A delay is set to the seconds that the lower four bits say, where none are taken for
one. Both are answered, and nothing else changes.
-/
theorem limits_taken_as_they_are (s : Status) (d : EndDevice) :
    (∀ p : DutyCycleReq, ∃ limit,
      limit = .ofFloat (if p.exponent = 255 then 0.0
        else 1.0 / (UInt64.ofNat (2 ^ (p.exponent.toNat % 16))).toFloat) ∧
      d.handle r s (.dutyCycleReq p) = .ok
        { device := { d with settings := { d.settings with aggregatedDutyCycle := limit } }
          answer := some .dutyCycleAns
          actions := [] }) ∧
    (∀ p : RXTimingSetupReq, ∃ seconds : UInt8, seconds.toNat = max 1 (p.settings.toNat % 16) ∧
      d.handle r s (.rxTimingSetupReq p) = .ok
        { device := { d with settings := { d.settings with rxDelay := some seconds } }
          answer := some .rxTimingSetupAns
          actions := [] }) := by
  refine ⟨fun p => ⟨p.fraction, p.fraction_eq, rfl⟩, fun p => ⟨_, ?_, rfl⟩⟩
  have hdelay : p.delay.toNat = p.settings.toNat % 16 := UInt8.toNat_mod _ _
  rw [← hdelay]
  -- No delay at all is taken for a second.
  by_cases hnone : p.delay = 0
  · rw [if_pos hnone, hnone]
    rfl
  · have hpos : p.delay.toNat ≠ 0 := fun h => hnone (UInt8.toNat_inj.mp h)
    rw [if_neg hnone]
    omega

end EndDevice

end LoraLink
