import LoraLink.Proofs.Liveness
import LoraLink.Proofs.Queue
import LoraLink.Proofs.Schedule

/-!
# What backing off does to the choice of channels

A device that hears nothing for long lowers its data rate, step by step. The network, which chooses
a data rate and the channels together, checks that they fit. Backing off does not: it lowers the
data rate whatever the channels support.

So a send leaves a device with a channel for its next data rate, with one exception. If a slower
data rate is due and no enabled channel supports it, the device is left without any. From then on
it refuses every new uplink, and since only those are counted, no further step is ever due: neither
the next data rate nor, at the slowest, the default channels.
-/

namespace LoraLink

/-! ## Channels for a data rate -/

/-- Does some enabled channel support a data rate? -/
def Plan.Serves (p : Plan) (rate : DataRate) : Prop :=
  ∃ i c, p.channel? i = some c ∧ c.enabled = true ∧ c.supports rate = true

theorem Plan.serves_iff {p : Plan} {rate : DataRate} : p.Serves rate ↔ p.candidates rate ≠ [] := by
  constructor
  · rintro ⟨i, c, hc⟩ hnil
    have hi := mem_candidates.mpr ⟨c, hc⟩
    rw [hnil] at hi
    cases hi
  · intro hne
    obtain ⟨i, hi⟩ := List.exists_mem_of_ne_nil _ hne
    obtain ⟨c, hc⟩ := mem_candidates.mp hi
    exact ⟨i, c, hc⟩

instance (p : Plan) (rate : DataRate) : Decidable (p.Serves rate) :=
  decidable_of_iff _ Plan.serves_iff.symm

/-- The plans have the same channels. -/
def Plan.SameChannels (p q : Plan) : Prop := ∀ i, q.channel? i = p.channel? i

theorem Plan.SameChannels.serves_iff {p q : Plan} (h : p.SameChannels q) {rate : DataRate} :
    q.Serves rate ↔ p.Serves rate := by
  unfold Serves
  simp only [h _]

theorem Plan.sameChannels_register {p q : Plan} {now : Instant} {airtime : Duration}
    {frequency : Nat} (h : p.register now airtime frequency = .ok q) : p.SameChannels q := by
  obtain ⟨_, rfl⟩ := register_eq_ok h
  exact fun _ => rfl

namespace EndDevice

theorem dataRate_of_settings {r : Region} {d d' : EndDevice} (h : d'.settings = d.settings) :
    d'.dataRate r = d.dataRate r := by
  unfold EndDevice.dataRate
  rw [h]

theorem power_of_settings {r : Region} {d d' : EndDevice} (h : d'.settings = d.settings) :
    d'.power r = d.power r := by
  unfold EndDevice.power
  rw [h]

variable (r : Region)

/-! ## Steps that are due -/

/-- The count of uplinks without an answer, with one more. -/
def nextCount (d : EndDevice) : Nat := min (d.adrAckCount + 1) maxAdrAckCount

/-- Is a slower data rate due with the next new uplink? The first delay that passes without an
answer asks for full power, and every later one for a slower data rate. -/
def SlowsDown (d : EndDevice) : Prop :=
  d.settings.adr = true ∧ 0 < r.adrAckDelay ∧
    ∃ k, 2 ≤ k ∧ d.nextCount = r.adrAckLimit + k * r.adrAckDelay

theorem slowsDown_iff (d : EndDevice) : d.SlowsDown r ↔
    d.settings.adr = true ∧ d.nextCount ≠ r.adrAckLimit ∧
      d.nextCount ≠ r.adrAckLimit + r.adrAckDelay ∧ 0 < r.adrAckDelay ∧
      r.adrAckLimit < d.nextCount ∧ (d.nextCount - r.adrAckLimit) % r.adrAckDelay = 0 := by
  constructor
  · rintro ⟨hadr, hdelay, k, hk, hcount⟩
    have hmore : 2 * r.adrAckDelay ≤ k * r.adrAckDelay := Nat.mul_le_mul_right _ hk
    have hrest : d.nextCount - r.adrAckLimit = k * r.adrAckDelay := by omega
    refine ⟨hadr, by omega, by omega, hdelay, by omega, ?_⟩
    rw [hrest, Nat.mul_mod_left]
  · rintro ⟨hadr, hlimit, hfirst, hdelay, hpast, hmod⟩
    have hdvd := Nat.dvd_of_mod_eq_zero hmod
    obtain ⟨k, hk⟩ := hdvd
    refine ⟨hadr, hdelay, k, ?_, by rw [Nat.mul_comm] at hk; omega⟩
    match k, hk with
    | 0, hk => omega
    | 1, hk => omega
    | k + 2, _ => omega

/-- Unless a slower data rate is due, counting an uplink changes neither data rate nor channels. -/
theorem countUplink_steady {d : EndDevice} (h : ¬d.SlowsDown r) :
    (d.countUplink r).1.dataRate r = d.dataRate r ∧ (d.countUplink r).1.plan = d.plan := by
  rw [slowsDown_iff] at h
  unfold countUplink
  split
  · rename_i hadr
    unfold backOff
    dsimp only
    split
    · exact ⟨rfl, rfl⟩
    split
    · exact ⟨rfl, rfl⟩
    split
    · rename_i hlimit hfirst hdue
      exact absurd ⟨hadr, hlimit, hfirst, hdue⟩ h
    · exact ⟨rfl, rfl⟩
  · exact ⟨rfl, rfl⟩

/-- If one is due, there is a slower one, or the default channels are enabled. -/
theorem countUplink_slowed {d : EndDevice} (h : d.SlowsDown r) :
    (∃ slower, (d.dataRate r).lower? = some slower ∧
      (d.countUplink r).1.dataRate r = slower ∧ (d.countUplink r).1.plan = d.plan) ∨
    ((d.dataRate r).lower? = none ∧ (d.countUplink r).1.dataRate r = d.dataRate r ∧
      (d.countUplink r).1.plan = enableDefaults d.plan r.defaultFrequencies.length) := by
  obtain ⟨hadr, hlimit, hfirst, hdue⟩ := (d.slowsDown_iff r).mp h
  have hcount : (d.countUplink r).1 =
      ({ d with adrAckCount := d.nextCount }.backOff r).1 := by
    unfold countUplink
    rw [if_pos hadr]
    rfl
  rw [hcount]
  unfold backOff
  dsimp only
  -- Neither of the two first steps is due, so it is the third, which depends on the data rate.
  rw [if_neg hlimit, if_neg hfirst, if_pos hdue]
  cases hlower : (d.dataRate r).lower? with
  | some slower =>
    left
    refine ⟨slower, rfl, ?_⟩
    rw [show ({ d with adrAckCount := d.nextCount } : EndDevice).dataRate r = d.dataRate r from rfl,
      hlower]
    exact ⟨rfl, rfl⟩
  | none =>
    right
    rw [show ({ d with adrAckCount := d.nextCount } : EndDevice).dataRate r = d.dataRate r from rfl,
      hlower]
    exact ⟨rfl, rfl, rfl⟩

theorem countUplink_count {d : EndDevice} (h : d.settings.adr = true) :
    (d.countUplink r).1.adrAckCount = d.nextCount := by
  unfold countUplink
  rw [if_pos h]
  unfold backOff
  dsimp only
  split
  · rfl
  split
  · rfl
  split
  · split <;> rfl
  · rfl

/-- Enabling the default channels takes no enabled channel away. -/
theorem enableDefaults_keeps {p : Plan} {i : Nat} {c : Channel} (hc : p.channel? i = some c)
    (hon : c.enabled = true) (n : Nat) : (enableDefaults p n).channel? i = some c := by
  refine enableDefaults_induction (P := fun q => q.channel? i = some c) ?_ hc n
  rintro q _ j c' hq hj rfl
  rw [Plan.channel?_putSlot]
  split
  · rename_i hij
    obtain ⟨rfl, _⟩ := hij
    rw [hq] at hj
    cases hj
    rw [← hon]
  · exact hq

/-! ## Sending -/

/-- What a new uplink on air leaves of the data rate and the channels of a device. -/
structure Outlasts (d d' : EndDevice) : Prop where
  /-- A channel was found, so there was one. -/
  served : d.plan.Serves (d.dataRate r)
  steady : ¬d.SlowsDown r → d'.dataRate r = d.dataRate r ∧ d.plan.SameChannels d'.plan
  slowed : ∀ slower, d.SlowsDown r → (d.dataRate r).lower? = some slower →
    d'.dataRate r = slower ∧ d.plan.SameChannels d'.plan
  /-- At the slowest data rate no channel is disabled, either. -/
  slowest : d.SlowsDown r → (d.dataRate r).lower? = none → d'.dataRate r = d.dataRate r ∧
    ∀ i c, d.plan.channel? i = some c → c.enabled = true → d'.plan.channel? i = some c

/-- The device has a channel for its next data rate, unless that is a slower one that no channel
supports. -/
theorem Outlasts.serves_iff {d d' : EndDevice} (h : Outlasts r d d') :
    d'.plan.Serves (d'.dataRate r) ↔
      ∀ slower, d.SlowsDown r → (d.dataRate r).lower? = some slower → d.plan.Serves slower := by
  constructor
  · intro hserves slower hdue hlower
    obtain ⟨hrate, hchannels⟩ := h.slowed slower hdue hlower
    rw [hrate, hchannels.serves_iff] at hserves
    exact hserves
  · intro hnext
    by_cases hdue : d.SlowsDown r
    · cases hlower : (d.dataRate r).lower? with
      | some slower =>
        obtain ⟨hrate, hchannels⟩ := h.slowed slower hdue hlower
        rw [hrate, hchannels.serves_iff]
        exact hnext slower hdue hlower
      | none =>
        obtain ⟨hrate, hkept⟩ := h.slowest hdue hlower
        -- At the slowest data rate it is the channel of this very uplink that is still there.
        obtain ⟨i, c, hc, hon, hsupports⟩ := h.served
        rw [hrate]
        exact ⟨i, c, hkept i c hc hon, hon, hsupports⟩
    · obtain ⟨hrate, hchannels⟩ := h.steady hdue
      rw [hrate, hchannels.serves_iff]
      exact h.served

variable {r} {σ : Type} [Host σ]

theorem launches_cases {t : Turn σ} {d : EndDevice} (h : t.launches r d = true) :
    ∃ payload port confirmed a, t.op = .send payload port confirmed ∧
      Aired r (t.session d) (d.newUplink r payload port confirmed) a ∧
      t.after r d = ((EndDevice.supersede d.held (d.onAir (d.newUplink r payload port confirmed)
        a.channel a.plan)).countUplink r).1 := by
  obtain ⟨hsend, hok⟩ := t.result_of_launches r h
  cases hop : t.op with
  | send payload port confirmed =>
    obtain ⟨a, hair, hafter, _⟩ := Turn.launched hop hok
    exact ⟨payload, port, confirmed, a, rfl, hair, hafter⟩
  | _ =>
    rw [hop] at hsend
    cases hsend

theorem served_of_launches {t : Turn σ} {d : EndDevice} (h : t.launches r d = true) :
    d.plan.Serves (d.dataRate r) := by
  obtain ⟨_, _, _, a, _, hair, _⟩ := launches_cases h
  exact ⟨a.index, a.channel, hair.channel, hair.enabled, hair.supports⟩

/-- A device that has put a new uplink on air and has not counted it yet. -/
structure Uncounted (d x : EndDevice) : Prop where
  settings : x.settings = d.settings
  count : x.adrAckCount = d.adrAckCount
  channels : d.plan.SameChannels x.plan
  on : x.transmitting = true
  windows : x.alarms.windowsPending = d.alarms.windowsPending
  deferred : x.deferredClose = d.deferredClose

theorem Uncounted.nextCount {d x : EndDevice} (h : Uncounted d x) : x.nextCount = d.nextCount := by
  unfold EndDevice.nextCount
  rw [h.count]

theorem Uncounted.slowsDown_iff {d x : EndDevice} (h : Uncounted d x) :
    x.SlowsDown r ↔ d.SlowsDown r := by
  unfold SlowsDown
  rw [h.settings, h.nextCount]

theorem uncounted_of_launches {t : Turn σ} {d : EndDevice} (h : t.launches r d = true) :
    ∃ x, Uncounted d x ∧ t.after r d = (x.countUplink r).1 := by
  obtain ⟨_, _, _, a, _, hair, hafter⟩ := launches_cases h
  have hchannels : d.plan.SameChannels a.plan := Plan.sameChannels_register hair.plan
  refine ⟨_, ?_, hafter⟩
  refine ⟨rfl, rfl, hchannels, rfl, ?_, rfl⟩
  cases d.held <;> rfl

theorem outlasts_of_launches {t : Turn σ} {d : EndDevice} (h : t.launches r d = true) :
    Outlasts r d (t.after r d) := by
  obtain ⟨x, hx, hafter⟩ := uncounted_of_launches h
  have hrate : x.dataRate r = d.dataRate r := dataRate_of_settings hx.settings
  rw [hafter]
  -- What counting does is known of the device on air, so each case is carried over to it.
  refine ⟨served_of_launches h, ?_, ?_, ?_⟩
  · intro hnot
    obtain ⟨hsame, hkept⟩ := countUplink_steady r (mt hx.slowsDown_iff.mp hnot)
    rw [hsame, hkept]
    exact ⟨hrate, hx.channels⟩
  · intro slower hslows hlower
    rw [← hrate] at hlower
    rcases countUplink_slowed r (hx.slowsDown_iff.mpr hslows) with
      ⟨rate, hlower', hsame, hkept⟩ | ⟨hnone, _⟩
    · rw [hlower] at hlower'
      cases hlower'
      rw [hsame, hkept]
      exact ⟨rfl, hx.channels⟩
    · rw [hlower] at hnone
      cases hnone
  · intro hslows hlower
    rw [← hrate] at hlower
    rcases countUplink_slowed r (hx.slowsDown_iff.mpr hslows) with
      ⟨rate, hlower', _⟩ | ⟨_, hsame, hplan'⟩
    · rw [hlower] at hlower'
      cases hlower'
    · rw [hsame, hplan']
      refine ⟨hrate, fun i c hc hon => enableDefaults_keeps ?_ hon _⟩
      rw [hx.channels i]
      exact hc

/-! ## Calls that leave the data rate alone -/

/-- What a call leaves as it is that neither brings a downlink nor puts a new uplink on air. -/
structure Unmoved (t : Turn σ) (d d' : EndDevice) : Prop where
  settings : d'.settings = d.settings
  count : d'.adrAckCount = d.adrAckCount
  channels : t.op.isEdit = false → d.plan.SameChannels d'.plan

omit [Host σ] in
theorem Unmoved.dataRate {t : Turn σ} {d d' : EndDevice} (h : Unmoved t d d') :
    d'.dataRate r = d.dataRate r :=
  dataRate_of_settings h.settings

omit [Host σ] in
theorem Unmoved.of_link {t : Turn σ} {d x d' : EndDevice} (h : Unmoved t d x)
    (hlink : d'.link = x.link) : Unmoved t d d' := by
  have hsettings : d'.settings = x.settings := (congrArg EndDevice.settings hlink :)
  have hcount : d'.adrAckCount = x.adrAckCount := (congrArg EndDevice.adrAckCount hlink :)
  have hplan : d'.plan = x.plan := (congrArg EndDevice.plan hlink :)
  refine ⟨hsettings.trans h.settings, hcount.trans h.count, ?_⟩
  rw [hplan]
  exact h.channels

omit [Host σ] in
theorem Relinked.unmoved {t : Turn σ} {d x : EndDevice} (h : Relinked r t d x)
    (hdeaf : t.downlink? d = none) : Unmoved t d x := by
  cases h with
  | kept => exact ⟨rfl, rfl, fun _ _ => rfl⟩
  | heard _ hop hframe =>
    rw [Turn.downlink?, hop] at hdeaf
    dsimp only at hdeaf
    rw [hframe] at hdeaf
    cases hdeaf
  | queued _ _ => exact ⟨rfl, rfl, fun _ _ => rfl⟩
  | edited hop =>
    refine ⟨rfl, rfl, fun hkeep => ?_⟩
    rw [hop] at hkeep
    cases hkeep

/-- Backing off is for new uplinks, and everything else is for the network to say. -/
theorem unmoved {t : Turn σ} {d : EndDevice} (hnot : t.launches r d = false)
    (hdeaf : t.downlink? d = none) : Unmoved t d (t.after r d) := by
  have hsame : Unmoved t d d := ⟨rfl, rfl, fun _ _ => rfl⟩
  have heffect := t.effect r d
  have hok : t.op.isSend = true → t.result r d ≠ .ok () := by
    intro hop hok
    rw [Turn.launches, hop, hok] at hnot
    cases hnot
  unfold Turn.after
  generalize t.result r d = res at heffect hok
  generalize (t.made r d).2 = s' at heffect ⊢
  cases heffect with
  | kept hx link _ _ _ => exact (hx.unmoved hdeaf).of_link link
  | released _ hx link _ _ _ _ _ => exact (hx.unmoved hdeaf).of_link link
  | gaveUp _ _ _ link _ _ _ => exact hsame.of_link link
  | lost _ _ _ link _ _ _ => exact hsame.of_link link
  | repeated _ _ _ hair node _ =>
    -- A repeat goes out at its own data rate, and leaves the channels as they are.
    rw [node]
    exact ⟨rfl, rfl, fun _ => Plan.sameChannels_register hair.plan⟩
  | launched hop _ _ _ _ => exact absurd rfl (hok (by rw [hop]; rfl))

/-! ## Without a channel -/

/-- A call that brings no downlink and edits no plan, to a device without a channel for its data
rate, puts no new uplink on air and gets it no channel. -/
theorem unserved_step {t : Turn σ} {d : EndDevice} (h : ¬d.plan.Serves (d.dataRate r))
    (hdeaf : t.downlink? d = none) (hkeep : t.op.isEdit = false) :
    t.launches r d = false ∧ ¬(t.after r d).plan.Serves ((t.after r d).dataRate r) := by
  have hnot : t.launches r d = false :=
    Bool.eq_false_iff.mpr fun hlaunch => h (served_of_launches hlaunch)
  have hunmoved := unmoved hnot hdeaf
  refine ⟨hnot, ?_⟩
  rw [hunmoved.dataRate, (hunmoved.channels hkeep).serves_iff]
  exact h

/-- So it stays until a downlink comes. -/
theorem unserved_run {d : EndDevice} {ts : List (Turn σ)} (h : ¬d.plan.Serves (d.dataRate r))
    (hdeaf : d.downlinks r ts = []) (hkeep : ∀ t ∈ ts, t.op.isEdit = false) :
    d.undisturbed r ts = true := by
  induction ts generalizing d with
  | nil => rfl
  | cons t rest ih =>
    obtain ⟨hfirst, hrest⟩ := List.append_eq_nil_iff.mp hdeaf
    obtain ⟨hnot, hstep⟩ :=
      unserved_step h (Option.toList_eq_nil_iff.mp hfirst) (hkeep t List.mem_cons_self)
    rw [undisturbed, hnot]
    exact ih hstep hrest (fun u hu => hkeep u (List.mem_cons_of_mem t hu))

/--
**A send leaves a device without a channel for its data rate just if a slower data rate was due
that no enabled channel supports**, and then no new uplink leaves it any more before a downlink
comes.

A send that succeeds has found an enabled channel for the data rate. Unless a slower data rate is
due, data rate and channels stay as they are. If one is due, the data rate becomes the next slower
one, and the channels stay as they are; at the slowest, no enabled channel is taken away.
-/
theorem send_outlasts {t : Turn σ} {d : EndDevice} (h : t.launches r d = true) :
    Outlasts r d (t.after r d) ∧
      ((t.after r d).plan.Serves ((t.after r d).dataRate r) ↔
        ∀ slower, d.SlowsDown r → (d.dataRate r).lower? = some slower → d.plan.Serves slower) ∧
      (¬(t.after r d).plan.Serves ((t.after r d).dataRate r) → ∀ us : List (Turn σ),
        (t.after r d).downlinks r us = [] → (∀ u ∈ us, u.op.isEdit = false) →
          (t.after r d).undisturbed r us = true) :=
  ⟨outlasts_of_launches h, (outlasts_of_launches h).serves_iff, fun hnot _ hdeaf hkeep =>
    unserved_run hnot hdeaf hkeep⟩

/-- A device that slows down from data rate 3, and has channels for data rate 2. -/
theorem send_outlasts_slowed :
    ∃ (t : Turn Simulation.View) (d : EndDevice), t = .onBench 0 (.send [1] 1 false) ∧
      d = { initial ⟨5⟩ { adr := true, txDataRate := some 3 } Region.eu868.defaultPlan with
        adrAckCount := 127 } ∧
      t.launches .eu868 d = true ∧ Outlasts .eu868 d (t.after .eu868 d) ∧
      (t.after .eu868 d).dataRate .eu868 = 2 ∧ (t.after .eu868 d).plan.Serves 2 := by
  refine ⟨_, _, rfl, rfl, ?_⟩
  have hlaunch : (Turn.onBench 0 (.send [1] 1 false)).launches .eu868
      { initial ⟨5⟩ { adr := true, txDataRate := some 3 } Region.eu868.defaultPlan with
        adrAckCount := 127 } = true := by
    decide +kernel
  obtain ⟨houtlasts, _, _⟩ := send_outlasts hlaunch
  have hdue : ({ initial ⟨5⟩ { adr := true, txDataRate := some 3 } Region.eu868.defaultPlan with
      adrAckCount := 127 } : EndDevice).SlowsDown .eu868 :=
    ⟨rfl, by decide, 2, Nat.le_refl 2, by decide⟩
  obtain ⟨hrate, hchannels⟩ := houtlasts.slowed 2 hdue (by decide)
  refine ⟨hlaunch, houtlasts, hrate, ?_⟩
  rw [hchannels.serves_iff]
  decide +kernel

/-! ## A device that is left without a channel

It takes a downlink that leaves the device one channel, not for the slower data rates, and then no
answer to 128 uplinks. In both windows after each of them the radio is busy with a frame for
somebody else, so that the windows are skipped. No call fails.
-/

/-- At the last moment there is, all clocks have passed. -/
theorem maySend_last {d : EndDevice} {rate : DataRate} (hplan : d.plan.Covered)
    (hserves : d.plan.Serves rate) (hshare : ¬d.settings.aggregatedDutyCycle.share ≤ 0.0) :
    d.MaySend ⟨horizon, Nat.le_refl _⟩ rate := by
  have hpassed : ∀ t : Instant, (t.since ⟨horizon, Nat.le_refl _⟩).isZero = true :=
    fun t => Instant.isZero_since.mpr t.le_horizon
  refine ⟨?_, ?_⟩
  · unfold Plan.aggregatedWait
    rw [if_neg hshare]
    exact hpassed _
  · obtain ⟨i, c, hc, hon, hsupports⟩ := hserves
    obtain ⟨b, hb⟩ := hplan i c hc
    refine ⟨i, c, hc, hon, hsupports, ?_⟩
    unfold Plan.waitingTime
    rw [Plan.subBand_eq_ok.mpr hb]
    exact congrArg Except.ok (Duration.isZero_iff.mp (hpassed b.nextStart))

/-- A device that may send does, if neither its radio nor its random numbers fail. -/
theorem send_isOk {s : Session EndDevice σ} {payload : List UInt8} {port : UInt8} {confirmed : Bool}
    (h : Sound s.node) (hclear : Cleared .eu868 s.node (Host.now s.host) payload port)
    (hmay : s.node.MaySend (Host.now s.host) (s.node.dataRate .eu868))
    (hrandom : s.random.Endless)
    (hradio : ∀ config frame, (Host.request (.send config frame) s.host).1 = true) :
    ((send .eu868 payload port confirmed).run s).1 = .ok () := by
  obtain ⟨choice, s₁, hselect⟩ := selectChannel_isOk h.covered hrandom (Host.now s.host)
    (s.node.dataRate .eu868)
  have hselected := selectChannel_cases hselect
  obtain ⟨limit, hlimit, hle⟩ := hclear.allowed
  rcases hrun : (send .eu868 payload port confirmed).run s with ⟨res, s'⟩
  change res = .ok ()
  unfold send at hrun
  rw [Call.run_bind_ok (Call.run_now s), Call.run_bind_ok (Call.run_node s)] at hrun
  dsimp only at hrun
  rw [if_neg (Bool.eq_false_iff.mp hclear.closed), if_neg (fun h0 => h0.2 (hclear.placed h0.1)),
    hlimit, Call.run_bind_ok (Call.run_ofRegion_ok limit s), if_neg (Nat.not_lt.mpr hle),
    if_pos hclear.free, Call.run_bind_ok hselect] at hrun
  cases choice with
  | none =>
    obtain ⟨_, i, hopen⟩ := hmay
    exact absurd hopen (hselected.none_open i)
  | some i =>
    dsimp only at hrun
    rw [if_neg (Nat.not_lt.mpr hclear.held)] at hrun
    rcases Call.bind_cases hrun with ⟨_, s₂, _, hrest⟩ | ⟨e, hlaunch, _⟩
    · cases hheld : s.node.held <;> rw [hheld] at hrest <;> cases hrest <;> rfl
    · -- Only the radio could have refused, and it does not.
      have hsend := launch_cases .eu868 hlaunch
      obtain ⟨c, _, hc, _⟩ := hselected.usable
      obtain ⟨g, rfl⟩ := hselected.session
      have hhost := Sound.transmitted (s := s.withRandom g) h.link hclear.placed hclear.held
        h.tables.dataRate ⟨c, hc⟩ hsend
      cases hsend with
      | refused hq =>
        change (Host.request _ s.host).1 = false at hq
        rw [hradio] at hq
        cases hq
      | _ => cases hhost

/-- What a device can come to while no call fails, and nobody but the network changes its plan. -/
inductive Reachable (d₀ : EndDevice) : EndDevice → Prop where
  | start : Reachable d₀ d₀
  | call {d : EndDevice} (h : Reachable d₀ d) (t : Turn Solo) (hok : t.result .eu868 d = .ok ())
      (hkeep : t.op.isEdit = false) : Reachable d₀ (t.after .eu868 d)

theorem Reachable.made {d₀ d : EndDevice} (h : Reachable d₀ d) {t : Turn Solo}
    {s : Session EndDevice Solo} (hmade : t.made .eu868 d = (.ok (), s))
    (hkeep : t.op.isEdit = false) : Reachable d₀ s.node := by
  have hnext := h.call t (congrArg Prod.fst hmade) hkeep
  unfold Turn.after at hnext
  rwa [hmade] at hnext

theorem Reachable.sound {d₀ d : EndDevice} (h₀ : Sound d₀) (h : Reachable d₀ d) : Sound d := by
  induction h with
  | start => exact h₀
  | call _ t _ hkeep ih =>
    refine sound_step ih t fun plan hop => ?_
    rw [hop] at hkeep
    cases hkeep

/-- A window that should open while a frame is being received is skipped. -/
theorem made_skipped {t : Turn σ} {d : EndDevice} {id : EventId} {w : Window}
    (hop : t.op = .alarm id (openAlarm w)) (hid : d.alarms.get (openAlarm w) = some id)
    (hrx : Host.radioState t.host = .rx) :
    t.made .eu868 d = (.ok (), disarmed (openAlarm w) (t.session d)) := by
  unfold Turn.made
  rw [hop]
  have hopen : (openWindow .eu868 w).run (disarmed (openAlarm w) (t.session d)) =
      (.ok (), disarmed (openAlarm w) (t.session d)) := by
    unfold openWindow
    rw [Call.run_bind_ok (Call.run_radioState _),
      if_pos (show Host.radioState (disarmed (openAlarm w) (t.session d)).host = .rx from hrx)]
    rfl
  change (alarm .eu868 id (openAlarm w)).run (t.session d) = _
  unfold alarm
  rw [Call.run_bind_ok (Call.run_node _), if_neg (fun hne => hne hid),
    Call.run_bind_ok (Call.run_modifyNode _ _)]
  cases w <;> exact hopen

/-- A call at the last moment there is, where all that is asked of the host is granted. -/
def atLast (state : RadioState) (op : Op) : Turn Solo where
  op
  host := { timeline := { capacity := 8, now := ⟨horizon, Nat.le_refl _⟩ }, radio := { state } }
  random := .scripted [] (some 1)

/-- On such a host both windows are scheduled. -/
theorem made_landed {d : EndDevice} (h : Sound d) (hon : d.transmitting = true) :
    ∃ i j s, (atLast .sleep .txFinished).made .eu868 d = (.ok (), s) ∧
      s.node = { d with
        transmitting := false
        alarms := (d.alarms.set .openRx1 (some i)).set .openRx2 (some j) } := by
  rcases hrun : (atLast .sleep .txFinished).made .eu868 d with ⟨res, s'⟩
  -- All ways to fail are gone through: this radio refuses nothing, and the timeline is empty.
  cases txFinished_cases .eu868 hrun with
  | idle hoff =>
    change d.transmitting = false at hoff
    rw [hon] at hoff
    cases hoff
  | untuned _ htune =>
    have hnode : InTables (landed ((atLast .sleep .txFinished).session d)).node :=
      ⟨h.tables.dataRate, h.tables.rx2Rate, h.tables.rx1Offset, h.tables.last⟩
    obtain ⟨rate, hrate, hle⟩ := hnode.windowRate .first
    have hhost := htune.ofHost hnode
    cases htune with
    | noFrequency _ hq => cases hq
    | noSpreading _ _ _ hq => cases hq
    | _ => cases hhost
  | awake _ _ hq => cases hq
  | full _ htune _ h₂ hi =>
    cases htune
    subst h₂
    cases hi
  | halfFull _ htune _ h₂ hi h₃ hj =>
    cases htune
    subst h₂ h₃
    cases hj
  | scheduled _ htune _ h₂ hi h₃ hj =>
    cases htune
    subst h₂ h₃
    exact ⟨_, _, _, rfl, rfl⟩

/-- An exchange may end without a call that fails, and without anything being heard. -/
theorem exists_conclusion {d : EndDevice} (h : Sound d) (hon : d.transmitting = true)
    (hwindows : d.alarms.windowsPending = false) (hdeferred : d.deferredClose = none) :
    ∃ i j s₁ s₂ s₃, (atLast .sleep .txFinished).made .eu868 d = (.ok (), s₁) ∧
      (atLast .rx (.alarm i .openRx1)).made .eu868 s₁.node = (.ok (), s₂) ∧
      (atLast .rx (.alarm j .openRx2)).made .eu868 s₂.node = (.ok (), s₃) ∧
      s₃.node.rxWindowsPending = false ∧ s₃.node.link = d.link := by
  obtain ⟨i, j, s₁, hlanded, hnode⟩ := made_landed h hon
  let s₂ := disarmed .openRx1 ((atLast .rx (.alarm i .openRx1)).session s₁.node)
  let s₃ := disarmed .openRx2 ((atLast .rx (.alarm j .openRx2)).session s₂.node)
  have hnode₂ : s₂.node = { d with
      transmitting := false
      alarms := { d.alarms with openRx1 := none, openRx2 := some j } } := by
    change { s₁.node with alarms := s₁.node.alarms.set .openRx1 none } = _
    rw [hnode]
    rfl
  have hnode₃ : s₃.node = { d with
      transmitting := false
      alarms := { d.alarms with openRx1 := none, openRx2 := none } } := by
    change { s₂.node with alarms := s₂.node.alarms.set .openRx2 none } = _
    rw [hnode₂]
    rfl
  refine ⟨i, j, s₁, s₂, s₃, hlanded, ?_, ?_, ?_, ?_⟩
  · exact made_skipped (w := .first) rfl (by rw [hnode]; rfl) rfl
  · exact made_skipped (w := .second) rfl (by rw [hnode₂]; rfl) rfl
  · -- The alarms that close windows were not set before, and there is nothing for them to close.
    obtain ⟨hwindows, hclose₂⟩ := Bool.or_eq_false_iff.mp hwindows
    obtain ⟨hwindows, _⟩ := Bool.or_eq_false_iff.mp hwindows
    obtain ⟨_, hclose₁⟩ := Bool.or_eq_false_iff.mp hwindows
    rw [hnode₃]
    change (false || (false || d.alarms.closeRx1.isSome || false || d.alarms.closeRx2.isSome) ||
      d.deferredClose.isSome) = false
    rw [hclose₁, hclose₂, hdeferred]
    rfl
  · rw [hnode₃]
    rfl

theorem Reachable.concluded {d₀ d : EndDevice} (h : Reachable d₀ d) (hsound : Sound d)
    (hon : d.transmitting = true) (hwindows : d.alarms.windowsPending = false)
    (hdeferred : d.deferredClose = none) :
    ∃ d', Reachable d₀ d' ∧ d'.rxWindowsPending = false ∧ d'.link = d.link := by
  obtain ⟨i, j, s₁, s₂, s₃, hlanded, hfirst, hsecond, hover, hlink⟩ :=
    exists_conclusion hsound hon hwindows hdeferred
  exact ⟨s₃.node, ((h.made hlanded rfl).made hfirst rfl).made hsecond rfl, hover, hlink⟩

/-- Counting leaves it to the network who controls the data rate, and how much air the device takes. -/
theorem Counted.control {d d' : EndDevice} (h : Counted r d d') :
    d'.settings.adr = d.settings.adr ∧
      d'.settings.aggregatedDutyCycle = d.settings.aggregatedDutyCycle := by
  cases h <;> exact ⟨rfl, rfl⟩

/-- What a send that succeeds leaves of the exchange, the settings and the count. -/
structure Counting (d d' : EndDevice) : Prop where
  on : d'.transmitting = true
  windows : d'.alarms.windowsPending = d.alarms.windowsPending
  deferred : d'.deferredClose = d.deferredClose
  adr : d'.settings.adr = d.settings.adr
  duty : d'.settings.aggregatedDutyCycle = d.settings.aggregatedDutyCycle
  count : d.settings.adr = true → d'.adrAckCount = d.nextCount

theorem counting_of_launches {t : Turn σ} {d : EndDevice} (h : t.launches r d = true) :
    Counting d (t.after r d) := by
  obtain ⟨x, hx, hafter⟩ := uncounted_of_launches h
  obtain ⟨halarms, hon, hdeferred, _⟩ := (countUplink_cases r x).exchange
  have hkept := (countUplink_cases r x).control
  rw [hx.settings] at hkept
  rw [hafter]
  refine ⟨hon.trans hx.on, ?_, hdeferred.trans hx.deferred, hkept.1, hkept.2, ?_⟩
  · rw [halarms]
    exact hx.windows
  · intro hadr
    rw [countUplink_count r (by rw [hx.settings]; exact hadr)]
    exact hx.nextCount

/-- A device that sends at data rate 3, has channels for it but none for data rate 2, and has got no
answer to some uplinks. -/
structure Confined (n : Nat) (d : EndDevice) : Prop where
  closed : d.rxWindowsPending = false
  adr : d.settings.adr = true
  share : ¬d.settings.aggregatedDutyCycle.share ≤ 0.0
  rate : d.dataRate .eu868 = 3
  served : d.plan.Serves 3
  unserved : ¬d.plan.Serves 2
  count : d.adrAckCount = n

/-- An uplink of one byte. -/
def oneByte : Turn Solo := atLast .sleep (.send [1] 1 false)

/-- With no exchange open and a channel for its data rate, a device sends at the last moment. -/
theorem oneByte_launches {d : EndDevice} (h : Sound d) (hclosed : d.rxWindowsPending = false)
    (hserved : d.plan.Serves (d.dataRate .eu868))
    (hshare : ¬d.settings.aggregatedDutyCycle.share ≤ 0.0) : oneByte.launches .eu868 d = true := by
  have hmay : d.MaySend (Host.now oneByte.host) (d.dataRate .eu868) :=
    maySend_last h.covered hserved hshare
  have hclear : Cleared .eu868 d (Host.now oneByte.host) [1] 1 :=
    { closed := hclosed
      placed := fun h0 => (by cases h0)
      allowed := Region.eu868_maxPayload_pos h.tables.dataRate
      free := hmay.1
      held := by decide }
  have hok : ((send .eu868 [1] 1 false).run (oneByte.session d)).1 = .ok () :=
    send_isOk h hclear hmay (Random.scriptedAnswer_ne_none [] 1) fun _ _ => rfl
  unfold Turn.launches Turn.result
  change (true && ((send .eu868 [1] 1 false).run (oneByte.session d)).1.toBool) = true
  rw [hok]
  rfl

theorem Confined.launches {n : Nat} {d : EndDevice} (h : Confined n d) (hsound : Sound d) :
    oneByte.launches .eu868 d = true :=
  oneByte_launches hsound h.closed (by rw [h.rate]; exact h.served) h.share

/-- A new uplink leaves no window pending but those of its own exchange. -/
theorem Counting.settled {d d' : EndDevice} (h : Counting d d')
    (hclosed : d.rxWindowsPending = false) :
    d'.alarms.windowsPending = false ∧ d'.deferredClose = none := by
  unfold rxWindowsPending at hclosed
  rw [Bool.or_eq_false_iff, Bool.or_eq_false_iff] at hclosed
  refine ⟨h.windows.trans hclosed.1.2, h.deferred.trans ?_⟩
  exact Option.not_isSome_iff_eq_none.mp (Bool.eq_false_iff.mp hclosed.2)

/-- Up to the second step of backing off, an uplink changes nothing of this but the count. -/
theorem Confined.step {n : Nat} {d₀ d : EndDevice} (h₀ : Sound d₀) (hreach : Reachable d₀ d)
    (h : Confined n d) (hn : n < 127) : ∃ d', Reachable d₀ d' ∧ Confined (n + 1) d' := by
  have hlaunch := h.launches (hreach.sound h₀)
  have hnext : d.nextCount = n + 1 := by
    unfold nextCount maxAdrAckCount
    rw [h.count]
    omega
  -- Before the 128th uplink no slower data rate is due.
  have hsteady : ¬d.SlowsDown .eu868 := by
    rintro ⟨_, _, k, hk, hdue⟩
    have hlimit : Region.eu868.adrAckLimit = 64 := rfl
    have hdelay : Region.eu868.adrAckDelay = 32 := rfl
    rw [hnext, hlimit, hdelay] at hdue
    omega
  obtain ⟨hrate, hchannels⟩ := (outlasts_of_launches hlaunch).steady hsteady
  have hcounting := counting_of_launches hlaunch
  have hair := hreach.call oneByte (oneByte.result_of_launches .eu868 hlaunch).2 rfl
  generalize oneByte.after .eu868 d = d₁ at hrate hchannels hcounting hair
  obtain ⟨hwindows, hdeferred⟩ := hcounting.settled h.closed
  obtain ⟨d₂, hreach₂, hover₂, hlink⟩ := hair.concluded (hair.sound h₀) hcounting.on hwindows
    hdeferred
  -- The end of the exchange touches nothing but the exchange.
  have hsettings : d₂.settings = d₁.settings := (congrArg EndDevice.settings hlink :)
  have hplan : d₂.plan = d₁.plan := (congrArg EndDevice.plan hlink :)
  have hcount : d₂.adrAckCount = d₁.adrAckCount := (congrArg EndDevice.adrAckCount hlink :)
  refine ⟨d₂, hreach₂, hover₂, ?_, ?_, ?_, ?_, ?_, ?_⟩
  · rw [hsettings, hcounting.adr]
    exact h.adr
  · rw [hsettings, hcounting.duty]
    exact h.share
  · unfold EndDevice.dataRate
    rw [hsettings]
    exact hrate.trans h.rate
  · rw [hplan, hchannels.serves_iff]
    exact h.served
  · rw [hplan, hchannels.serves_iff]
    exact h.unserved
  · rw [hcount, hcounting.count h.adr, hnext]

/-- No answer comes, however many uplinks it takes. -/
theorem Confined.run {n m : Nat} {d₀ d : EndDevice} (h₀ : Sound d₀) (hreach : Reachable d₀ d)
    (h : Confined n d) (hm : n + m ≤ 127) : ∃ d', Reachable d₀ d' ∧ Confined (n + m) d' := by
  induction m with
  | zero => exact ⟨d, hreach, h⟩
  | succ m ih =>
    obtain ⟨d', hreach', h'⟩ := ih (Nat.le_of_succ_le hm)
    exact h'.step h₀ hreach' hm

/-- The downlink that confines a device: a NewChannelReq for channel 3, at 868.2 MHz and for data
rates 3 to 5, and a LinkADRReq for data rate 3 on that channel alone. -/
def confining : List UInt8 :=
  [0x60, 0x34, 0x12, 0x01, 0x26, 0x0b, 0x00, 0x00, 0x07, 0x03, 0x10, 0x7a, 0x84, 0x53, 0x03, 0x3f,
    0x08, 0x00, 0x01, 0x00, 0x00, 0x00, 0x00]

theorem exists_confined :
    ∃ d, Reachable (initial ⟨0x26011234⟩ { adr := true } Region.eu868.defaultPlan) d ∧
      Confined 0 d := by
  have hcall : ∀ {d₀ d : EndDevice} (t : Turn Solo), Reachable d₀ d →
      (t.result .eu868 d).toBool = true → t.op.isEdit = false →
        Reachable d₀ (t.after .eu868 d) := by
    intro d₀ d t h hok hkeep
    exact h.call t (eq_ok_of_toBool hok) hkeep
  have h₀ : Reachable (initial ⟨0x26011234⟩ { adr := true } Region.eu868.defaultPlan) _ := .start
  have h₁ := hcall oneByte h₀ (by decide +kernel) rfl
  have h₂ := hcall (atLast .sleep .txFinished) h₁ (by decide +kernel) rfl
  have h₃ := hcall (atLast .sleep (.alarm ⟨0⟩ .openRx1)) h₂ (by decide +kernel) rfl
  have h₄ := hcall (atLast .standby (.receive confining ⟨0, 0⟩)) h₃ (by decide +kernel) rfl
  refine ⟨_, h₄, ?_, ?_, ?_, ?_, ?_, ?_, ?_⟩ <;> decide +kernel

/-- **Backing off may take the last channel away from a device**, though no call ever fails, and
though the network only ever asked for a data rate that its channel supports. -/
theorem backoff_silences :
    ¬∀ (address : DeviceAddress) (settings : Settings) (d : EndDevice) (t : Turn Solo),
      settings.adr = true → Reachable (initial address settings Region.eu868.defaultPlan) d →
        t.launches .eu868 d = true → d.plan.Serves (d.dataRate .eu868) →
          (t.after .eu868 d).plan.Serves ((t.after .eu868 d).dataRate .eu868) := by
  intro hall
  have h₀ : Sound (initial ⟨0x26011234⟩ { adr := true } Region.eu868.defaultPlan) :=
    sound_init ⟨fun _ h => (by cases h), fun _ h => (by cases h), fun _ h => (by cases h)⟩ _
      eu868_covered
  obtain ⟨d₁, hreach₁, hconfined₁⟩ := exists_confined
  obtain ⟨d, hreach, h⟩ := hconfined₁.run h₀ hreach₁ (m := 127) (by decide)
  have hlaunch := h.launches (hreach.sound h₀)
  have hserves := hall _ _ d oneByte rfl hreach hlaunch (by rw [h.rate]; exact h.served)
  -- The 128th uplink is the one with which the data rate goes down.
  have hdue : d.SlowsDown .eu868 := by
    refine ⟨h.adr, by decide, 2, Nat.le_refl 2, ?_⟩
    unfold nextCount
    rw [h.count]
    rfl
  have hlower : (d.dataRate .eu868).lower? = some 2 := by
    rw [h.rate]
    decide
  exact h.unserved ((outlasts_of_launches hlaunch).serves_iff.mp hserves 2 hdue hlower)

end EndDevice

end LoraLink
