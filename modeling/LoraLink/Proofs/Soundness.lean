import LoraLink.Proofs.Encoding
import LoraLink.Proofs.Held
import LoraLink.Region.EU868

/-!
# Nothing that is received breaks a device

A device asks its tables, its plan and its frame writer about values that the network has set. None
of them can fail, since nothing gets into the settings, the plan or the queue that they would
refuse, and since what is in force already never leaves their range by adaptation.

The tables are those of the European region. Their data rates for uplinks end at 6; a modulation is
there for each of them, and a reply rate for each and every offset up to 5.
-/

namespace LoraLink

/-! ## Channels -/

namespace Plan

/-- All channels of the plan are such. -/
def All (Q : Channel → Prop) (p : Plan) : Prop := ∀ i c, p.channel? i = some c → Q c

/-- Every channel lies strictly inside a sub-band. -/
def Covered (p : Plan) : Prop := p.All fun c => ∃ b, p.subBand? c.frequency = some b

/-- Every channel has a range of data rates that ends no higher than the given one. -/
def Ranged (top : DataRate) (p : Plan) : Prop :=
  p.All fun c => c.minDataRate ≤ c.maxDataRate ∧ c.maxDataRate ≤ top

theorem All.putSlot {Q : Channel → Prop} {p : Plan} (h : p.All Q) (index : Nat)
    {slot : Option Channel} (hslot : ∀ c, slot = some c → Q c) : (p.putSlot index slot).All Q := by
  intro i c hc
  rw [channel?_putSlot] at hc
  split at hc
  · exact hslot c hc
  · exact h i c hc

theorem All.selectChannels {Q : Channel → Prop} {p : Plan} (h : p.All Q)
    (henabled : ∀ c enabled, Q c → Q { c with enabled }) (statuses : List Bool) :
    (p.selectChannels statuses).All Q := by
  intro i c hc
  rw [channel?_selectChannels] at hc
  obtain ⟨c₀, hc₀, rfl⟩ := Option.map_eq_some_iff.mp hc
  exact henabled c₀ _ (h i c₀ hc₀)

/-- No command makes a channel other than all channels are, if no new channel is. -/
theorem All.replanned {Q : Channel → Prop} {r : Region} {p q : Plan} (h : p.All Q)
    (henabled : ∀ c enabled, Q c → Q { c with enabled })
    (hreply : ∀ c replyFrequency, Q c → Q { c with replyFrequency })
    (hnew : ∀ frequency lo hi, p.isValidFrequency frequency = true → lo ≤ hi →
      hi ≤ r.uplinkRates.2 → Q (.ofFrequency frequency lo hi))
    (hq : Replanned r p q) : q.All Q := by
  -- Only a new channel has to be checked; the others were in the plan already.
  cases hq with
  | kept => exact h
  | selected statuses => exact h.selectChannels henabled statuses
  | removed index =>
    refine h.putSlot index ?_
    intro c hc
    cases hc
  | created hvalid hlo hhi =>
    refine h.putSlot _ ?_
    rintro _ ⟨⟩
    exact hnew _ _ _ hvalid hlo hhi
  | rerouted hq =>
    obtain ⟨c, hc, rfl⟩ := modifyChannel?_eq_some hq
    refine h.putSlot _ ?_
    rintro _ ⟨⟩
    exact hreply c _ (h _ c hc)

theorem Covered.replanned {r : Region} {p q : Plan} (h : p.Covered) (hq : Replanned r p q) :
    q.Covered := by
  have hall : q.All fun c => ∃ b, p.subBand? c.frequency = some b := by
    refine All.replanned (Q := fun c => ∃ b, p.subBand? c.frequency = some b) h
      (fun _ _ hc => hc) (fun _ _ hc => hc) ?_ hq
    intro frequency lo hi hvalid _ _
    exact Option.isSome_iff_exists.mp hvalid
  intro i c hc
  rw [hq.sameClocks.subBand?]
  exact hall i c hc

theorem Ranged.replanned {r : Region} {p q : Plan} (h : p.Ranged r.uplinkRates.2)
    (hq : Replanned r p q) : q.Ranged r.uplinkRates.2 :=
  All.replanned (Q := fun c => c.minDataRate ≤ c.maxDataRate ∧ c.maxDataRate ≤ r.uplinkRates.2) h
    (fun _ _ hc => hc) (fun _ _ hc => hc) (fun _ _ _ _ hlo hhi => ⟨hlo, hhi⟩) hq

theorem Covered.enableDefaults {p : Plan} (h : p.Covered) (n : Nat) :
    (EndDevice.enableDefaults p n).Covered := by
  refine EndDevice.enableDefaults_induction ?_ h n
  rintro q _ i c hq hc rfl
  exact All.putSlot hq i (by rintro _ ⟨⟩; exact hq i c hc)

theorem Ranged.enableDefaults {top : DataRate} {p : Plan} (h : p.Ranged top) (n : Nat) :
    (EndDevice.enableDefaults p n).Ranged top := by
  refine EndDevice.enableDefaults_induction ?_ h n
  rintro q _ i c hq hc rfl
  exact All.putSlot hq i (by rintro _ ⟨⟩; exact hq i c hc)

/-- A transmission takes no sub-band away, and no channel. -/
theorem Covered.register {p q : Plan} (h : p.Covered) {now : Instant} {airtime : Duration}
    {frequency : Nat} (hq : p.register now airtime frequency = .ok q) : q.Covered := by
  intro i c hc
  obtain ⟨_, heq⟩ := register_eq_ok hq
  obtain ⟨b, hb⟩ := h i c (by rw [heq] at hc; exact hc)
  exact subBand?_register hq hb

theorem Ranged.register {top : DataRate} {p q : Plan} (h : p.Ranged top) {now : Instant}
    {airtime : Duration} {frequency : Nat} (hq : p.register now airtime frequency = .ok q) :
    q.Ranged top := by
  obtain ⟨_, rfl⟩ := register_eq_ok hq
  exact h

end Plan

/-! ## Tables -/

/-- Settings that the tables of the region have when a device is built. -/
structure Settings.Valid (s : Settings) : Prop where
  dataRate : ∀ rate, s.txDataRate = some rate → rate ≤ 6
  rx2Rate : ∀ rate, s.rx2DataRate = some rate → rate ≤ 6
  rx1Offset : ∀ offset, s.rx1DataRateOffset = some offset → offset ≤ 5

theorem Settings.valid_default : Settings.Valid {} :=
  ⟨fun _ h => (by cases h), fun _ h => (by cases h), fun _ h => (by cases h)⟩

namespace Region

theorem modulation_isOk {r : Region} {rate : DataRate} (h : r.hasModulation rate = true) :
    ∃ m, r.modulation rate = .ok m := by
  have hlt : rate.val < r.modulations.length := of_decide_eq_true h
  unfold modulation
  rw [List.getElem?_eq_getElem hlt]
  exact ⟨_, rfl⟩

theorem eu868_hasModulation {rate : DataRate} : eu868.hasModulation rate = true ↔ rate ≤ 6 := by
  revert rate
  decide

/-- Some payload is allowed at every data rate of the region. -/
theorem eu868_maxPayload_pos {rate : DataRate} (h : rate ≤ 6) :
    ∃ n, eu868.maxPayload rate = .ok n ∧ 1 ≤ n := by
  have hall : ∀ rate : DataRate, rate ≤ 6 →
      (eu868.maxPayload rate).toOption.any (1 ≤ ·) = true := by decide
  have hpos := hall rate h
  cases hlimit : eu868.maxPayload rate with
  | ok n =>
    rw [hlimit] at hpos
    exact ⟨n, rfl, of_decide_eq_true hpos⟩
  | error e =>
    rw [hlimit] at hpos
    cases hpos

/-- The reply to an uplink may be sent at a data rate of uplinks, too. -/
theorem eu868_rx1Rate_isOk {rate : DataRate} {offset : Nat} (hrate : rate ≤ 6)
    (hoffset : offset ≤ 5) : ∃ reply, eu868.rx1Rate rate offset = .ok reply ∧ reply ≤ 6 := by
  have htable : ∀ (rate : DataRate) (offset : Fin 6), rate ≤ 6 →
      ∃ reply : DataRate,
        eu868.rx1Rates[rate.val]?.bind (·[offset.val]?) = some reply ∧ reply ≤ 6 := by
    decide
  obtain ⟨reply, hreply, hle⟩ := htable rate ⟨offset, Nat.lt_succ_of_le hoffset⟩ hrate
  refine ⟨reply, ?_, hle⟩
  unfold rx1Rate
  rw [hreply]

end Region

namespace EndDevice

/-! ## The settings in force -/

/-- All the tables of the region have what is in force. -/
structure InTables (d : EndDevice) : Prop where
  dataRate : d.dataRate .eu868 ≤ 6
  rx2Rate : d.rx2Rate .eu868 ≤ 6
  rx1Offset : d.rx1Offset .eu868 ≤ 5
  last : ∀ c rate, d.lastUplink = some (c, rate) → rate ≤ 6

/-- A setting that is absent has the default of the region, which is in the tables. -/
theorem getD_le {top : DataRate} {setting : Option DataRate} {default : DataRate}
    (hdefault : default ≤ top) (h : ∀ rate, setting = some rate → rate ≤ top) :
    setting.getD default ≤ top := by
  cases setting with
  | none => exact hdefault
  | some rate => exact h rate rfl

theorem offset_le {setting : Option UInt8} (h : ∀ offset, setting = some offset → offset ≤ 5) :
    (setting.map UInt8.toNat).getD (Region.eu868.defaultRx1Offset) ≤ 5 := by
  cases setting with
  | none => exact Nat.zero_le 5
  | some offset => exact UInt8.le_iff_toNat_le.mp (h offset rfl)

theorem inTables_init {settings : Settings} (h : settings.Valid) (address : DeviceAddress)
    (plan : Plan) : InTables (initial address settings plan) where
  dataRate := getD_le (by decide) h.dataRate
  rx2Rate := getD_le (by decide) h.rx2Rate
  rx1Offset := offset_le h.rx1Offset
  last := by
    intro c rate hlast
    cases hlast

/-- No command puts a setting in force that the tables do not have. -/
theorem InTables.resettled {d : EndDevice} {plan : Plan} {settings : Settings} (h : InTables d)
    (hs : Resettled .eu868 d settings) : InTables { d with plan, settings } := by
  refine ⟨?_, ?_, ?_, h.last⟩
  · -- A LinkADRReq may set it, to what the range for uplinks has.
    change settings.txDataRate.getD _ ≤ 6
    rcases hs.dataRate with heq | heq | ⟨rate, heq, hrange⟩
    · rw [heq]
      exact h.dataRate
    · rw [heq]
      exact h.dataRate
    · rw [heq]
      exact of_decide_eq_true (Bool.and_eq_true_iff.mp hrange).2
  · -- An RXParamSetupReq may set it, to a rate that has a modulation.
    change settings.rx2DataRate.getD _ ≤ 6
    rcases hs.rx2Rate with heq | ⟨rate, heq, hrate⟩
    · rw [heq]
      exact h.rx2Rate
    · rw [heq]
      exact Region.eu868_hasModulation.mp hrate
  · change (settings.rx1DataRateOffset.map UInt8.toNat).getD _ ≤ 5
    rcases hs.rx1Offset with heq | ⟨offset, heq, hoffset⟩
    · rw [heq]
      exact h.rx1Offset
    · rw [heq]
      exact UInt8.le_iff_toNat_le.mp hoffset

theorem lower?_le {rate slower : DataRate} (h : rate.lower? = some slower) : slower ≤ rate := by
  revert rate slower
  decide

theorem InTables.counted {d d' : EndDevice} (h : InTables d) (hc : Counted .eu868 d d') :
    InTables d' := by
  cases hc with
  | slowed n hlower =>
    exact ⟨Fin.le_trans (lower?_le hlower) h.dataRate, h.rx2Rate, h.rx1Offset, h.last⟩
  | _ => exact ⟨h.dataRate, h.rx2Rate, h.rx1Offset, h.last⟩

/-! ## The invariant -/

/-- What keeps a device from ever being at a loss. -/
structure Sound (d : EndDevice) : Prop where
  tables : InTables d
  covered : d.plan.Covered
  /-- Only what goes to the network is queued. -/
  queue : ∀ c ∈ d.queue, c.direction = .up
  holding : Holding d
  /-- What is held may be sent again at its data rate. -/
  heldRate : ∀ u, d.held = some u → u.rate ≤ 6

theorem sound_init {settings : Settings} (h : settings.Valid) (address : DeviceAddress)
    {plan : Plan} (hplan : plan.Covered) : Sound (initial address settings plan) where
  tables := inTables_init h address plan
  covered := hplan
  queue := by
    intro c hc
    cases hc
  holding := holding_init address settings plan
  heldRate := by
    intro u hu
    cases hu

theorem Sound.sourceRate {σ : Type} [Host σ] {d : EndDevice} {t : Turn σ} {u : HeldUplink}
    (h : Sound d) (hsource : Source .eu868 t d u) : u.rate ≤ 6 := by
  rcases hsource with hheld | ⟨payload, port, confirmed, rfl, _⟩
  · exact h.heldRate u hheld
  · exact h.tables.dataRate

/-- The part of the invariant that is about the link. -/
structure SoundLink (d : EndDevice) : Prop where
  tables : InTables d
  covered : d.plan.Covered
  queue : ∀ c ∈ d.queue, c.direction = .up

theorem mem_dropSent {sent : Nat} {queue : List Command} {c : Command}
    (h : c ∈ dropSent sent queue) : c ∈ queue := by
  -- By induction on the queue, since what is sent is counted off along it.
  induction queue generalizing sent with
  | nil =>
    cases sent <;> cases h
  | cons head rest ih =>
    cases sent with
    | zero => exact h
    | succ sent =>
      rw [dropSent] at h
      split at h
      · rcases List.mem_cons.mp h with rfl | h
        · exact List.mem_cons_self
        · exact List.mem_cons_of_mem head (ih h)
      · exact List.mem_cons_of_mem head (ih h)

variable {σ : Type} [Host σ]

theorem soundLink_step {d : EndDevice} (h : Sound d) (t : Turn σ)
    (hedit : ∀ plan, t.op = .editPlan plan → plan.Covered) : SoundLink (t.after .eu868 d) := by
  refine Turn.link_induction (P := SoundLink) ⟨h.tables, h.covered, h.queue⟩ ?same
    ?note ?handle ?queue ?edit ?onAir ?counter ?counted
  case same =>
    intro x y hlink hx
    have hsettings : y.settings = x.settings := (congrArg EndDevice.settings hlink :)
    have hlast : y.lastUplink = x.lastUplink := (congrArg EndDevice.lastUplink hlink :)
    have hplan : y.plan = x.plan := (congrArg EndDevice.plan hlink :)
    have hqueue : y.queue = x.queue := (congrArg EndDevice.queue hlink :)
    obtain ⟨⟨hrate, hrx2, hoffset, hlastRate⟩, hcovered, hup⟩ := hx
    refine ⟨⟨?_, ?_, ?_, ?_⟩, ?_, ?_⟩
    · unfold dataRate
      rw [hsettings]
      exact hrate
    · unfold rx2Rate
      rw [hsettings]
      exact hrx2
    · unfold rx1Offset
      rw [hsettings]
      exact hoffset
    · rw [hlast]
      exact hlastRate
    · rw [hplan]
      exact hcovered
    · rw [hqueue]
      exact hup
  case note =>
    -- What was waiting for the downlink leaves the queue, and nothing enters it.
    intro frame
    refine ⟨⟨h.tables.dataRate, h.tables.rx2Rate, h.tables.rx1Offset, h.tables.last⟩, h.covered, ?_⟩
    intro c hc
    exact h.queue c (List.mem_filter.mp hc).1
  case handle =>
    intro x plan settings hx hplan hsettings
    exact ⟨hx.tables.resettled hsettings, hx.covered.replanned hplan, hx.queue⟩
  case queue =>
    intro x a hx hdir _
    refine ⟨⟨hx.tables.dataRate, hx.tables.rx2Rate, hx.tables.rx1Offset, hx.tables.last⟩,
      hx.covered, ?_⟩
    intro c hc
    rcases List.mem_append.mp hc with hc | hc
    · exact hx.queue c hc
    · rw [List.mem_singleton.mp hc]
      exact hdir
  case edit =>
    intro plan hop
    exact ⟨⟨h.tables.dataRate, h.tables.rx2Rate, h.tables.rx1Offset, h.tables.last⟩,
      hedit plan hop, h.queue⟩
  case onAir =>
    -- The data rate of this uplink becomes that of the last one.
    intro u a hair hsource
    refine ⟨⟨h.tables.dataRate, h.tables.rx2Rate, h.tables.rx1Offset, ?_⟩,
      h.covered.register hair.plan, fun c hc => h.queue c (mem_dropSent hc)⟩
    rintro _ _ ⟨⟩
    exact h.sourceRate hsource
  case counter =>
    intro x n hx
    exact ⟨⟨hx.tables.dataRate, hx.tables.rx2Rate, hx.tables.rx1Offset, hx.tables.last⟩,
      hx.covered, hx.queue⟩
  case counted =>
    -- Falling back enables default channels, which does not move them.
    intro x y hcounted hx
    refine ⟨hx.tables.counted hcounted, ?_, ?_⟩
    · cases hcounted with
      | fellBack n => exact hx.covered.enableDefaults _
      | _ => exact hx.covered
    · cases hcounted <;> exact hx.queue

/-- **A device stays sound whatever is called**, as long as its caller puts no channel outside all
sub-bands. -/
theorem sound_step {d : EndDevice} (h : Sound d) (t : Turn σ)
    (hedit : ∀ plan, t.op = .editPlan plan → plan.Covered) : Sound (t.after .eu868 d) := by
  have hlink := soundLink_step h t hedit
  refine ⟨hlink.tables, hlink.covered, hlink.queue, holding_step h.holding t, ?_⟩
  intro v hv
  -- The uplink held is either the one before or the one whose frame has just gone out.
  rcases t.transmissions_cases .eu868 d with ⟨_, _, hsame | hnone⟩ | ⟨u, _, _, _, _, hheld, hsource⟩
  · rw [hsame] at hv
    exact h.heldRate v hv
  · rw [hnone] at hv
    cases hv
  · rw [hheld] at hv
    cases hv
    have hrate := h.sourceRate hsource
    exact hrate

theorem sound_run {d : EndDevice} (h : Sound d) {ts : List (Turn σ)}
    (hedit : ∀ t ∈ ts, ∀ plan, t.op = .editPlan plan → plan.Covered) :
    Sound (d.afterAll .eu868 ts) := by
  induction ts generalizing d with
  | nil => exact h
  | cons t rest ih =>
    have hstep := sound_step h t (hedit t List.mem_cons_self)
    exact ih hstep (fun u hu => hedit u (List.mem_cons_of_mem t hu))

/-- The ranges of the channels stay valid as long as only the network changes them. -/
theorem ranged_step {r : Region} {d : EndDevice} (h : d.plan.Ranged r.uplinkRates.2) (t : Turn σ)
    (hkeep : t.op.isEdit = false) : (t.after r d).plan.Ranged r.uplinkRates.2 := by
  -- Of all that happens only requests, frames on air and the last step of the back-off touch the
  -- plan.
  refine Turn.link_induction (P := fun x => x.plan.Ranged r.uplinkRates.2) h ?same
    ?note ?handle ?queue ?edit ?onAir ?counter ?counted
  case same =>
    intro x y hlink hx
    have hplan : y.plan = x.plan := (congrArg EndDevice.plan hlink :)
    rw [hplan]
    exact hx
  case note =>
    intro _
    exact h
  case handle =>
    intro x plan settings hx hplan _
    exact hx.replanned hplan
  case queue =>
    intro x a hx _ _
    exact hx
  case edit =>
    intro plan hop
    rw [hop] at hkeep
    cases hkeep
  case onAir =>
    intro u a hair _
    exact h.register hair.plan
  case counter =>
    intro x n hx
    exact hx
  case counted =>
    intro x y hcounted hx
    cases hcounted with
    | fellBack n => exact hx.enableDefaults _
    | _ => exact hx

end EndDevice

/-! ## What can fail -/

/-- Is it the host that failed: its radio, its random numbers, or its timeline? -/
def Failure.ofHost : Failure → Bool
  | .radio _ | .random .exhausted | .timelineFull => true
  | _ => false

namespace EndDevice

variable {σ : Type}

theorem Selected.ofHost {now : Instant} {rate : DataRate} {s s' : Session EndDevice σ}
    {e : Failure} (h : Selected now rate s (.error e) s') (hplan : s.node.plan.Covered) :
    e.ofHost = true := by
  rcases h.failure with rfl | ⟨f, i, c, rfl, hc, hnone⟩
  · rfl
  · obtain ⟨b, hb⟩ := hplan i c hc
    rw [hnone] at hb
    cases hb

variable [Host σ]

/-- Where there is a channel, a frame and a modulation, only the radio can refuse to transmit. -/
theorem Transmitted.ofHost {r : Region} {u : HeldUplink} {i : Nat} {s s' : Session EndDevice σ}
    {e : Failure} (h : Transmitted r u i s (.error e) s') (hplan : s.node.plan.Covered)
    (hchannel : ∃ c, s.node.plan.channel? i = some c)
    (hframe : ∃ bytes, s.node.frame r u = .ok bytes)
    (hmodulation : ∃ m, r.modulation u.rate = .ok m) : e.ofHost = true := by
  -- Each failure that is not the radio's own contradicts one of the four hypotheses.
  cases h with
  | noChannel hnone =>
    obtain ⟨c, hc⟩ := hchannel
    rw [hnone] at hc
    cases hc
  | unwritten herror =>
    obtain ⟨bytes, hbytes⟩ := hframe
    rw [herror] at hbytes
    cases hbytes
  | unmodulated herror =>
    obtain ⟨m, hm⟩ := hmodulation
    rw [herror] at hm
    cases hm
  | fault hc hnone =>
    obtain ⟨b, hb⟩ := hplan _ _ hc
    rw [hnone] at hb
    cases hb
  | refused _ => rfl

/-- The uplink of a sound device fails for its radio only. -/
theorem Sound.transmitted {s s' : Session EndDevice σ} {i : Nat} {u : HeldUplink} {e : Failure}
    (hlink : SoundLink s.node) (hport : u.port = 0 → u.payload = [])
    (hlen : u.payload.length ≤ maxPayload) (hrate : u.rate ≤ 6)
    (hchannel : ∃ c, s.node.plan.channel? i = some c)
    (h : Transmitted .eu868 u i s (.error e) s') : e.ofHost = true := by
  have hmodulation := Region.modulation_isOk (Region.eu868_hasModulation.mpr hrate)
  exact h.ofHost hlink.covered hchannel (frame_isOk .eu868 hlink.queue hport hlen) hmodulation

/-- Both windows of a device have a data rate and a modulation. -/
theorem InTables.windowRate {d : EndDevice} (h : InTables d) (w : Window) :
    ∃ rate, d.windowRate .eu868 w = .ok rate ∧ rate ≤ 6 := by
  cases w with
  | second => exact ⟨d.rx2Rate .eu868, rfl, h.rx2Rate⟩
  | first =>
    unfold EndDevice.windowRate
    dsimp only
    refine Region.eu868_rx1Rate_isOk ?_ h.rx1Offset
    cases hlast : d.lastUplink with
    | none => exact h.dataRate
    | some last => exact h.last last.1 last.2 hlast

theorem Tuned.ofHost {w : Window} {s s' : Session EndDevice σ} {e : Failure}
    (h : Tuned .eu868 w s (.error e) s') (htables : InTables s.node) : e.ofHost = true := by
  -- The rate of the window stands in the tables, so what is left are limits of the radio.
  obtain ⟨rate, hrate, hle⟩ := htables.windowRate w
  cases h with
  | noRate herror =>
    rw [hrate] at herror
    cases herror
  | unmodulated hrate' herror =>
    rw [hrate] at hrate'
    cases hrate'
    obtain ⟨m, hm⟩ := Region.modulation_isOk (Region.eu868_hasModulation.mpr hle)
    rw [hm] at herror
    cases herror
  | noFrequency _ _ => rfl
  | noSpreading _ _ _ _ => rfl

theorem Landed.ofHost {s s' : Session EndDevice σ} {e : Failure}
    (h : Landed .eu868 s (.error e) s') (htables : InTables s.node) : e.ofHost = true := by
  cases h with
  | untuned _ htune =>
    exact htune.ofHost ⟨htables.dataRate, htables.rx2Rate, htables.rx1Offset, htables.last⟩
  | awake _ _ _ => rfl
  | full _ _ _ _ _ => rfl
  | halfFull _ _ _ _ _ _ _ => rfl

theorem Opened.ofHost {w : Window} {s s' : Session EndDevice σ} {e : Failure}
    (h : Opened .eu868 w s (.error e) s') (htables : InTables s.node) : e.ofHost = true := by
  cases h with
  | untuned htune => exact htune.ofHost htables
  | asleep _ _ => rfl
  | full _ _ _ _ => rfl

theorem Concluded.ofHost {received ack : Bool} {s s' : Session EndDevice σ} {e : Failure}
    (h : Concluded received ack s (.error e) s') : e.ofHost = true := by
  cases h with
  | full _ _ _ => rfl

theorem Parked.ofHost {s s' : Session EndDevice σ} {e : Failure} (h : Parked s (.error e) s') :
    e.ofHost = true := by
  cases h with
  | awake _ => rfl
  | closed _ _ h => exact h.ofHost

theorem Closed.ofHost {w : Window} {s s' : Session EndDevice σ} {e : Failure}
    (h : Closed w s (.error e) s') : e.ofHost = true := by
  cases h with
  | parked _ h => exact h.ofHost

theorem Missed.ofHost {s s' : Session EndDevice σ} {e : Failure} (h : Missed s (.error e) s') :
    e.ofHost = true := by
  cases h with
  | parked _ h => exact h.ofHost

theorem Received.ofHost {r : Region} {bytes : List UInt8} {reception : Reception}
    {s s' : Session EndDevice σ} {e : Failure} (h : Received r bytes reception s (.error e) s') :
    e.ofHost = true := by
  cases h with
  | foreign _ h => exact h.ofHost
  | heard _ h =>
    cases h with
    | awake _ => rfl
    | concluded _ h => exact h.ofHost

theorem earliestDelay_isOk {d : EndDevice} (h : d.plan.Covered) (now : Instant) (rate : DataRate) :
    ∃ wait, d.earliestDelay now rate = .ok wait := by
  obtain ⟨cs, hcs, ⟨wait, _, hok⟩ | ⟨f, hfault, _⟩⟩ := d.earliestDelay_cases now rate
  · exact ⟨_, hok⟩
  · -- A fault would name a channel outside every sub-band.
    obtain ⟨c, hc, hnone⟩ := Plan.shortestWait_eq_error hfault
    obtain ⟨i, hi⟩ := hcs c hc
    obtain ⟨b, hb⟩ := h i c hi
    rw [hnone] at hb
    cases hb

theorem Retried.ofHost {s s' : Session EndDevice σ} {e : Failure}
    (h : Retried .eu868 s (.error e) s') (hlink : SoundLink s.node) (hholding : Holding s.node)
    (hrate : ∀ u, s.node.held = some u → u.rate ≤ 6) : e.ofHost = true := by
  cases h with
  | fault _ herror =>
    obtain ⟨wait, hwait⟩ := earliestDelay_isOk hlink.covered (Host.now s.host) _
    rw [herror] at hwait
    cases hwait
  | unselected _ _ hselect => exact hselect.ofHost hlink.covered
  -- The uplink is held, so it was well-formed when it was sent, and it still is.
  | failed hretry hwait hselect hsend =>
    rename_i u wait i s₁ s₂
    obtain ⟨c, _, hc, _⟩ := hselect.usable
    obtain ⟨g, rfl⟩ := hselect.session
    exact Sound.transmitted (s := s.withRandom g) hlink (hholding.placed u hretry.held)
      (hholding.fits u hretry.held) (hrate u hretry.held) ⟨c, hc⟩ hsend
  | full _ _ _ => rfl

/-- The failures that a call may end in. -/
inductive Expected (op : Op) (d : EndDevice) : Failure → Prop where
  | host {e : Failure} (h : e.ofHost = true) : Expected op d e
  | refused {payload : List UInt8} {port : UInt8} {confirmed : Bool} {q : Refusal}
      (hop : op = .send payload port confirmed)
      (hq : q ∈ [Refusal.rxWindowsPending, .invalidPayloadType, .payloadTooLarge,
        .aggregatedDutyCycle, .noValidChannelFound]) : Expected op d (.refused q)
  | optionsFull (hop : op = .requestLinkCheck) (hfull : queueCapacity ≤ d.queue.length) :
      Expected op d (.refused .optionsFull)

theorem Sent.expected {payload : List UInt8} {port : UInt8} {confirmed : Bool} {d : EndDevice}
    {s s' : Session EndDevice σ} {e : Failure}
    (h : Sent .eu868 payload port confirmed s (.error e) s') (hlink : SoundLink s.node) :
    Expected (.send payload port confirmed) d e := by
  cases h with
  | pending _ => exact .refused rfl (by decide)
  | misplaced _ _ => exact .refused rfl (by decide)
  | unlimited herror =>
    obtain ⟨limit, hlimit, _⟩ := Region.eu868_maxPayload_pos hlink.tables.dataRate
    rw [herror] at hlimit
    cases hlimit
  | tooLong _ _ => exact .refused rfl (by decide)
  | tooSoon _ _ => exact .refused rfl (by decide)
  | unselected hselect => exact .host (hselect.ofHost hlink.covered)
  | blocked _ => exact .refused rfl (by decide)
  | oversized _ _ _ _ => exact .refused rfl (by decide)
  -- The channel was selected and the frame fits, so it is the radio that refuses.
  | failed hclear hselect hsend =>
    obtain ⟨c, _, hc, _⟩ := hselect.usable
    obtain ⟨g, rfl⟩ := hselect.session
    exact .host (Sound.transmitted (s := s.withRandom g) hlink hclear.placed hclear.held
      hlink.tables.dataRate ⟨c, hc⟩ hsend)

theorem Sound.link {d : EndDevice} (h : Sound d) : SoundLink d := ⟨h.tables, h.covered, h.queue⟩

/-- An alarm that is waited for no more leaves a device sound. -/
theorem Sound.disarmed {d : EndDevice} (h : Sound d) (a : Alarm) :
    SoundLink { d with alarms := d.alarms.set a none } :=
  ⟨⟨h.tables.dataRate, h.tables.rx2Rate, h.tables.rx1Offset, h.tables.last⟩, h.covered, h.queue⟩

/-- **A sound device fails only where its host fails, or where it refuses what is asked.** -/
theorem Sound.failure {d : EndDevice} (h : Sound d) (t : Turn σ) {e : Failure}
    (he : t.result .eu868 d = .error e) : Expected t.op d e := by
  have hcalled := t.called .eu868 d
  rw [he] at hcalled
  generalize (t.made .eu868 d).2 = s' at hcalled
  generalize t.op = op at hcalled ⊢
  cases hcalled with
  | send hsent => exact hsent.expected h.link
  | txFinished hlanded => exact .host (hlanded.ofHost h.tables)
  | receive hreceived => exact .host hreceived.ofHost
  | failedReception hmissed => exact .host hmissed.ofHost
  | alarm hrang =>
    -- Every alarm clears its own slot first, which leaves the device as sound as it was.
    cases hrang with
    | openRx1 _ hopen => exact .host (hopen.ofHost (h.disarmed .openRx1).tables)
    | closeRx1 _ hclose => exact .host hclose.ofHost
    | openRx2 _ hopen => exact .host (hopen.ofHost (h.disarmed .openRx2).tables)
    | closeRx2 _ hclose => exact .host hclose.ofHost
    | retransmit _ hretry =>
      refine .host (hretry.ofHost (h.disarmed .retransmit) ?_ h.heldRate)
      exact ⟨h.holding.counted, fun hsome => (by cases hsome), h.holding.placed, h.holding.fits⟩
  | requestLinkCheck hqueued =>
    cases hqueued with
    | full hfull => exact .optionsFull rfl hfull

/-! ## The default plan -/

theorem eu868_covered : Region.eu868.defaultPlan.Covered := by
  have hall : ∀ x ∈ Region.eu868.defaultPlan.definedChannels,
      (Region.eu868.defaultPlan.subBand? x.2.frequency).isSome = true := by
    decide +kernel
  intro i c hc
  exact Option.isSome_iff_exists.mp (hall (i, c) (Plan.mem_definedChannels.mpr hc))

theorem eu868_ranged : Region.eu868.defaultPlan.Ranged Region.eu868.uplinkRates.2 := by
  have hall : ∀ x ∈ Region.eu868.defaultPlan.definedChannels,
      x.2.minDataRate ≤ x.2.maxDataRate ∧ x.2.maxDataRate ≤ Region.eu868.uplinkRates.2 := by
    decide +kernel
  intro i c hc
  exact hall (i, c) (Plan.mem_definedChannels.mpr hc)

theorem ranged_run {r : Region} {d : EndDevice} (h : d.plan.Ranged r.uplinkRates.2)
    {ts : List (Turn σ)} (hkeep : ∀ t ∈ ts, t.op.isEdit = false) :
    (d.afterAll r ts).plan.Ranged r.uplinkRates.2 := by
  induction ts generalizing d with
  | nil => exact h
  | cons t rest ih =>
    have hstep := ranged_step h t (hkeep t List.mem_cons_self)
    exact ih hstep (fun u hu => hkeep u (List.mem_cons_of_mem t hu))

/-- What no call can take from a device, whatever it hears. -/
structure Intact (d : EndDevice) : Prop where
  /-- Whether it is set or not, the data rate of uplinks is one of the region. -/
  dataRate : d.settings.txDataRate.getD 0 ≤ 6
  rx2Rate : d.settings.rx2DataRate.getD 0 ≤ 6
  rx1Offset : (d.settings.rx1DataRateOffset.map UInt8.toNat).getD 0 ≤ 5
  /-- Every channel lies strictly inside a sub-band. -/
  covered : ∀ i c, d.plan.channel? i = some c →
    ∃ b ∈ d.plan.subBands, b.firstFrequency < c.frequency ∧ c.frequency < b.lastFrequency
  ranged : ∀ i c, d.plan.channel? i = some c →
    c.minDataRate ≤ c.maxDataRate ∧ c.maxDataRate ≤ 6
  queue : ∀ c ∈ d.queue, c.direction = .up
  /-- The commands for a frame are no more than a frame can hold. -/
  options : d.nextOptions.length ≤ maxOptionsLength
  /-- The count of transmissions fits into its byte. -/
  counter : ∀ u, d.held = some u → u.transmissions ≤ 255

theorem Sound.intact {d : EndDevice} (h : Sound d)
    (hranged : d.plan.Ranged Region.eu868.uplinkRates.2) : Intact d where
  dataRate := h.tables.dataRate
  rx2Rate := h.tables.rx2Rate
  rx1Offset := h.tables.rx1Offset
  -- That a channel lies in a sub-band is spelled out as the two bounds on its frequency.
  covered := by
    intro i c hc
    obtain ⟨b, hb⟩ := h.covered i c hc
    obtain ⟨hmem, hinside⟩ := Plan.subBand?_contains hb
    unfold SubBand.contains at hinside
    rw [Bool.and_eq_true_iff] at hinside
    exact ⟨b, hmem, of_decide_eq_true hinside.1, of_decide_eq_true hinside.2⟩
  ranged := hranged
  queue := h.queue
  options := length_fitting maxOptionsLength d.queue
  counter := by
    intro u hu
    have hcounted := (h.holding.counted u hu).2
    omega

/--
**Nothing that is received breaks a device or makes it fail.**

A device with valid settings on the default plan may be called in any order, and hear any bytes.
Its settings, its channels and its queue stay what its tables, its plan and its frames can deal
with. And no call goes wrong on their account: a call fails because the host does, or it is
refused. In particular no channel is ever without a sub-band.
-/
theorem run_intact {settings : Settings} (hsettings : settings.Valid) (address : DeviceAddress)
    {before : List (Turn σ)} (hkeep : ∀ t ∈ before, t.op.isEdit = false) :
    Intact ((initial address settings Region.eu868.defaultPlan).afterAll .eu868 before) ∧
      ∀ (t : Turn σ) (e : Failure),
        t.result .eu868
          ((initial address settings Region.eu868.defaultPlan).afterAll .eu868 before) = .error e →
        Expected t.op
          ((initial address settings Region.eu868.defaultPlan).afterAll .eu868 before) e := by
  have hsound :
      Sound ((initial address settings Region.eu868.defaultPlan).afterAll .eu868 before) := by
    refine sound_run (sound_init hsettings address eu868_covered) ?_
    intro t ht plan hop
    have hedit := hkeep t ht
    rw [hop] at hedit
    cases hedit
  -- The range of data rates needs no sound device, only a plan nobody edits.
  have hranged := ranged_run (r := .eu868)
    (d := initial address settings Region.eu868.defaultPlan) eu868_ranged hkeep
  exact ⟨hsound.intact hranged, fun t e he => hsound.failure t he⟩

/--
After an uplink, a device hears bytes that are no frame; it is asked for a channel that it can have,
for one in a slot that there is not, and for one outside of its sub-bands; for a data rate and for
an offset that its region has not; and then it hears a byte that is no command.
-/
def besetRun : List (Turn Simulation.View) :=
  let asked (counter : UInt8) (requests : List Command) (rest : List UInt8) : Op :=
    benchDownlink counter (Command.encodeAll requests ++ rest)
  [.onBench 0 (.send [1, 2, 3] 1 true), .onBench 1 .txFinished, .onBench 2 (.receive [] ⟨-80, 5⟩),
    .onBench 2 (.receive [0x60, 5, 0] ⟨-80, 5⟩),
    .onBench 2 (asked 0 [.newChannelReq ⟨3, .ofHertz 868800000, 0x50⟩,
      .newChannelReq ⟨16, .ofHertz 868800000, 0x50⟩] []),
    .onBench 3 (asked 1 [.newChannelReq ⟨4, .ofHertz 867100000, 0x50⟩,
      .linkADRReq ⟨0x70, ⟨7, 0⟩, 1⟩] []),
    .onBench 4 (asked 2 [.rxParamSetupReq ⟨0x6F, .ofHertz 868800000⟩] [0x42])]

/-- A device that was beset has answered all five requests and granted one. It is intact, and goes
on to refuse data on port 0. -/
theorem run_intact_beset :
    let d := (initial ⟨5⟩ {} Region.eu868.defaultPlan).afterAll .eu868 besetRun
    Settings.Valid {} ∧ (∀ t ∈ besetRun, t.op.isEdit = false) ∧ d.queue.length = 5 ∧
      (d.plan.channel? 3).map Channel.frequency = some 868800000 ∧ d.plan.channel? 4 = none ∧
      Intact d ∧ ∃ e, (Turn.onBench 5 (.send [1] 0 false)).result .eu868 d = .error e ∧
        Expected (.send [1] 0 false) d e := by
  intro d
  have hkeep : ∀ t ∈ besetRun, t.op.isEdit = false := by
    intro t ht
    simp only [besetRun, List.mem_cons, List.not_mem_nil, or_false] at ht
    rcases ht with rfl | rfl | rfl | rfl | rfl | rfl | rfl <;> rfl
  obtain ⟨hintact, hexpected⟩ := run_intact Settings.valid_default ⟨5⟩ hkeep
  refine ⟨Settings.valid_default, hkeep, by decide +kernel, by decide +kernel, by decide +kernel,
    hintact, ?_⟩
  have hfails : ((Turn.onBench 5 (.send [1] 0 false)).result .eu868 d).toBool = false := by
    decide +kernel
  obtain ⟨e, hfail⟩ := exists_error_of_toBool hfails
  exact ⟨e, hfail, hexpected _ e hfail⟩

end EndDevice

end LoraLink
