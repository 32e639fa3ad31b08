import LoraLink.Proofs.Effect
import LoraLink.Region.EU868

/-!
# Every transmission is legal

A plan remembers of all past transmissions only what its clocks say. This is enough. The clock of a
sub-band is never behind the silence that any earlier transmission in it asks for, and what a plan
knows of the last transmission is what was on air last.

So a device that asks the clocks before each frame, a first one or a repeat, keeps the rules for
all pairs of frames, whatever its network has changed between them. The one thing to exclude is
that its caller puts another plan, with other clocks, in the place of the present one.
-/

namespace LoraLink

namespace Plan

/-! ## The account of a plan -/

/-- The plan that began as `p₀` has accounted for all transmissions of the past. -/
structure Accounts (p₀ : Plan) (past : List Transmission) (p : Plan) : Prop where
  /-- The rules have stayed. -/
  rules : p.subBands.map SubBand.rule = p₀.subBands.map SubBand.rule
  /-- No sub-band opens before the silence that a transmission in it asks for is over. -/
  closed : ∀ e ∈ past, ∀ b, p.subBand? e.config.frequency = some b →
    e.start + b.offTime e.airtime ≤ b.nextStart
  /-- The last transmission is remembered. -/
  last : ∀ e, past.getLast? = some e → p.lastStart = e.start ∧ p.lastAirtime = e.airtime

theorem accounts_init (p₀ : Plan) : Accounts p₀ [] p₀ where
  rules := rfl
  closed := by
    intro e he
    cases he
  last := by
    intro e he
    cases he

theorem Accounts.sameClocks {p₀ p q : Plan} {past : List Transmission} (h : Accounts p₀ past p)
    (hq : SameClocks p q) : Accounts p₀ past q where
  rules := by rw [hq.subBands, h.rules]
  closed := by
    intro e he b hb
    rw [hq.subBand?] at hb
    exact h.closed e he b hb
  last := by
    intro e he
    rw [hq.lastStart, hq.lastAirtime]
    exact h.last e he

/-- **Registering a transmission accounts for it, and forgets none of the others.** -/
theorem Accounts.register {p₀ p q : Plan} {past : List Transmission} (h : Accounts p₀ past p)
    {x : Transmission} (hq : p.register x.start x.airtime x.config.frequency = .ok q) :
    Accounts p₀ (past ++ [x]) q := by
  obtain ⟨⟨b, hb⟩, rfl⟩ := register_eq_ok hq
  let f : SubBand → SubBand := (·.register x.start x.airtime)
  have hf : ∀ a n, (f a).contains n = a.contains n := SubBand.contains_register _ _
  refine ⟨?_, ?_, ?_⟩
  · exact (map_rule_updateFirst _ (f := f) (fun _ => rfl) p.subBands).trans h.rules
  -- Registering only moves the next start of one sub-band later, so what held before still does.
  · intro e he b' hb'
    rcases List.mem_append.mp he with he | he
    · obtain ⟨a, ha, hcase⟩ := find?_updateFirst hf _ _ _ hb'
      have hold := h.closed e he a ha
      rcases hcase with rfl | rfl
      · exact hold
      · exact Instant.le_trans hold (SubBand.nextStart_le_register _ _ a)
    -- The frame registered last has its sub-band closed for just its own off-time.
    · cases List.mem_singleton.mp he
      have hself : some b' = some (f b) :=
        hb'.symm.trans ((find?_updateFirst_self hf _ p.subBands).trans (congrArg (Option.map f) hb))
      cases hself
      exact SubBand.offTime_le_register _ _ b
  · intro e he
    rw [List.getLast?_concat] at he
    cases he
    exact ⟨rfl, rfl⟩

/--
**Where a sub-band is open, the silence after all transmissions in it is over.** The transmissions
are those that the plan it began with puts into the same sub-band.
-/
theorem Accounts.silence {p₀ p : Plan} {past : List Transmission} (h : Accounts p₀ past p)
    {frequency : Nat} {b : SubBand} {now : Instant} (hb : p.subBand? frequency = some b)
    (hopen : (b.waitingTime now).isZero = true) {e : Transmission} (he : e ∈ past) {b₀ : SubBand}
    (heband : p₀.subBand? e.config.frequency = some b₀) (hb₀ : p₀.subBand? frequency = some b₀) :
    e.start + (e.airtime.divideBy b₀.dutyCycle.share - e.airtime) ≤ now := by
  obtain ⟨a₀, ha₀, hrule⟩ := SubBand.find?_of_rules h.rules hb
  have hsame : some a₀ = some b₀ := ha₀.symm.trans hb₀
  cases hsame
  -- Both frequencies still belong to one sub-band, whose clock has accounted for `e`.
  have hband : p.subBand? e.config.frequency = some b :=
    (SubBand.find?_eq_of_rules h.rules heband hb₀).trans hb
  have hclosed := h.closed e he b hband
  rw [SubBand.offTime_of_rule hrule] at hclosed
  exact Instant.le_trans hclosed (Instant.isZero_since.mp hopen)

/-- The later of two transmissions in one sub-band keeps the silence that the earlier asks for. -/
def Spaced (p₀ : Plan) (e x : Transmission) : Prop :=
  ∀ b, p₀.subBand? e.config.frequency = some b → p₀.subBand? x.config.frequency = some b →
    e.start + (e.airtime.divideBy b.dutyCycle.share - e.airtime) ≤ x.start

/-- The plan has accounted for the past, and all its transmissions have kept the silence. -/
structure Disciplined (p₀ : Plan) (past : List Transmission) (p : Plan) : Prop where
  accounts : Accounts p₀ past p
  spaced : past.Pairwise (Spaced p₀)

theorem disciplined_init (p₀ : Plan) : Disciplined p₀ [] p₀ where
  accounts := accounts_init p₀
  spaced := List.Pairwise.nil

/-- **Who starts only when the sub-band is open keeps the silence.** -/
theorem Disciplined.register {p₀ p q : Plan} {past : List Transmission} {x : Transmission}
    {b : SubBand} (h : Disciplined p₀ past p) (hb : p.subBand? x.config.frequency = some b)
    (hopen : (b.waitingTime x.start).isZero = true)
    (hq : p.register x.start x.airtime x.config.frequency = .ok q) :
    Disciplined p₀ (past ++ [x]) q := by
  refine ⟨h.accounts.register hq, ?_⟩
  refine List.pairwise_append.mpr ⟨h.spaced, List.pairwise_singleton _ _, ?_⟩
  intro e he y hy
  obtain rfl := List.mem_singleton.mp hy
  intro b₀ heband hyband
  exact h.accounts.silence hb hopen he heband hyband

end Plan

namespace EndDevice

variable {σ : Type} [Host σ] (r : Region)

/-! ## All frames of a run -/

/-- The plan has accounted for all transmissions, and an uplink that is held may be sent again. -/
structure Ruled (p₀ : Plan) (past : List Transmission) (d : EndDevice) : Prop where
  accounts : Plan.Accounts p₀ past d.plan
  /-- What is held is not longer than its data rate allows. -/
  fits : ∀ u, d.held = some u → ∃ limit, r.maxPayload u.rate = .ok limit ∧ u.payload.length ≤ limit

theorem ruled_init (address : DeviceAddress) (settings : Settings) (p₀ : Plan) :
    Ruled r p₀ [] (initial address settings p₀) where
  accounts := Plan.accounts_init p₀
  fits := by
    intro u hu
    cases hu

variable {r}

/-- An uplink whose frame goes on air is not longer than its data rate allows. -/
theorem Ruled.limit {p₀ : Plan} {past : List Transmission} {d : EndDevice} {t : Turn σ}
    {u : HeldUplink} (h : Ruled r p₀ past d) (hsource : Source r t d u) :
    ∃ limit, r.maxPayload u.rate = .ok limit ∧ u.payload.length ≤ limit := by
  rcases hsource with hheld | ⟨payload, port, confirmed, rfl, hclear⟩
  · exact h.fits u hheld
  · exact hclear.allowed

/-- **A call keeps the account**, unless it puts another plan in the place of the present one. -/
theorem ruled_step {p₀ : Plan} {past : List Transmission} {d : EndDevice} {t : Turn σ}
    (h : Ruled r p₀ past d) (hkeep : t.op.isEdit = false) :
    Ruled r p₀ (past ++ t.transmissions r d) (t.after r d) := by
  rcases t.transmissions_cases r d with ⟨hnone, hclocks, hheld⟩ | ⟨u, a, hone, hair, hclocks, hheld,
    hsource⟩
  · rw [hnone, List.append_nil]
    refine ⟨h.accounts.sameClocks (hclocks hkeep), ?_⟩
    intro u hu
    rcases hheld with hsame | hgone
    · rw [hsame] at hu
      exact h.fits u hu
    · rw [hgone] at hu
      cases hu
  · -- The plan has registered just this frame.
    rw [hone]
    have hregister : d.plan.register (a.transmission t.host).start (a.transmission t.host).airtime
        (a.transmission t.host).config.frequency = .ok a.plan := by
      have hplan := hair.plan
      rw [← hair.frequency] at hplan
      exact hplan
    refine ⟨(h.accounts.register hregister).sameClocks hclocks, ?_⟩
    intro v hv
    rw [hheld] at hv
    cases hv
    have hlimit := h.limit hsource
    exact hlimit

theorem ruled_run {p₀ : Plan} {past : List Transmission} {d : EndDevice} {ts : List (Turn σ)}
    (h : Ruled r p₀ past d) (hkeep : ∀ t ∈ ts, t.op.isEdit = false) :
    Ruled r p₀ (past ++ d.transmissions r ts) (d.afterAll r ts) := by
  induction ts generalizing past d with
  | nil =>
    rw [show d.transmissions r [] = [] from rfl, List.append_nil]
    exact h
  | cons t rest ih =>
    have hstep := ruled_step h (hkeep t List.mem_cons_self)
    have hrest := ih hstep (fun t' ht' => hkeep t' (List.mem_cons_of_mem t ht'))
    rw [List.append_assoc] at hrest
    exact hrest

variable (r)

/--
The frame `x` of the uplink `u`, on the channel `c` in the sub-band `b`, is legal after the earlier
frames of a run that began with the plan `p₀`.
-/
structure Legal (p₀ : Plan) (earlier : List Transmission) (t : Turn σ) (d : EndDevice)
    (u : HeldUplink) (index : Nat) (c : Channel) (b : SubBand) (x : Transmission) : Prop where
  /-- The device holds the uplink from then on. -/
  uplink : (t.after r d).held = some u.next
  frame : d.frame r u = .ok x.frame
  start : x.start = Host.now t.host
  channel : d.plan.channel? index = some c
  enabled : c.enabled = true
  supported : c.supports u.rate = true
  frequency : x.config.frequency = c.frequency
  modulation : r.modulation u.rate = .ok x.config.modulation
  subBand : p₀.subBand? c.frequency = some b
  inside : b.firstFrequency < c.frequency ∧ c.frequency < b.lastFrequency
  power : x.config.power = min (d.power r) b.maxPower
  payload : ∃ limit, r.maxPayload u.rate = .ok limit ∧ u.payload.length ≤ limit
  /-- The silence that any earlier frame in the sub-band asks for is over. -/
  silence : ∀ e ∈ earlier, p₀.subBand? e.config.frequency = some b →
    e.start + (e.airtime.divideBy b.dutyCycle.share - e.airtime) ≤ x.start
  share : ¬d.settings.aggregatedDutyCycle.share ≤ 0.0
  /-- So is the silence that the frame before asks for, wherever it was sent. -/
  aggregated : ∀ e, earlier.getLast? = some e →
    e.start + e.airtime.divideBy d.settings.aggregatedDutyCycle.share ≤ x.start

variable {r}

/-- The aggregated duty cycle does not make the device wait only if there is one, and the silence
after the last transmission is over. -/
theorem aggregatedWait_isZero {p : Plan} {now : Instant} {duty : DutyCycle}
    (h : (p.aggregatedWait now duty).isZero = true) :
    ¬duty.share ≤ 0.0 ∧ p.lastStart + p.lastAirtime.divideBy duty.share ≤ now := by
  unfold Plan.aggregatedWait at h
  by_cases hshare : duty.share ≤ 0.0
  · rw [if_pos hshare] at h
    cases h
  · rw [if_neg hshare] at h
    exact ⟨hshare, Instant.isZero_since.mp h⟩

/-- A frame that goes on air while the account is kept is legal. -/
theorem Aired.legal {p₀ : Plan} {past : List Transmission} {d : EndDevice} {t : Turn σ}
    {u : HeldUplink} {a : Airing} (h : Ruled r p₀ past d) (hair : Aired r (t.session d) u a)
    (hheld : (t.after r d).held = some u.next) (hsource : Source r t d u) :
    ∃ b, Legal r p₀ past t d u a.index a.channel b (a.transmission t.host) := by
  obtain ⟨b₀, hb₀, hrule⟩ := SubBand.find?_of_rules h.accounts.rules hair.band
  obtain ⟨hshare, hlast⟩ := aggregatedWait_isZero hair.free
  obtain ⟨b', hb', hconfig⟩ := hair.config_eq
  have hsame : some b' = some a.band := hb'.symm.trans hair.band
  cases hsame
  -- The plan finds a sub-band by comparing both its bounds with the frequency.
  have hinside := (Plan.subBand?_contains hb₀).2
  unfold SubBand.contains at hinside
  rw [Bool.and_eq_true_iff] at hinside
  refine ⟨b₀, ?_⟩
  refine
    { uplink := hheld
      frame := hair.frame
      start := rfl
      channel := hair.channel
      enabled := hair.enabled
      supported := hair.supports
      frequency := hair.frequency
      modulation := ?_
      subBand := hb₀
      inside := ⟨of_decide_eq_true hinside.1, of_decide_eq_true hinside.2⟩
      power := ?_
      payload := h.limit hsource
      silence := ?_
      share := hshare
      aggregated := ?_ }
  · have hm : (a.transmission t.host).config.modulation = a.modulation := by
      change a.config.modulation = a.modulation
      rw [hconfig]
    rw [hm]
    exact hair.modulation
  · change a.config.power = _
    rw [hconfig, ← SubBand.maxPower_of_rule hrule]
    rfl
  -- The sub-band was open, and every frame before has closed it for its off-time.
  · intro e he heband
    exact h.accounts.silence hair.band hair.opened he heband hb₀
  · intro e he
    obtain ⟨hstart, hairtime⟩ := h.accounts.last e he
    rw [← hstart, ← hairtime]
    exact hlast

/--
**Every frame that goes on air is legal.**

The device may be called in any order, by hosts whose clocks, radios and random numbers behave in
any way, and hear anything. Each frame that the radio accepts, first or repeated, is on a channel
that is there, enabled and fit for its data rate; it is within the limits on power and length; and
it comes after the silence that each of the frames before asks for.
-/
theorem transmission_legal (r : Region) (address : DeviceAddress) (settings : Settings) (p₀ : Plan)
    (before : List (Turn σ)) (hkeep : ∀ t ∈ before, t.op.isEdit = false) (t : Turn σ)
    {pre post : List Transmission} {x : Transmission}
    (hx : t.transmissions r ((initial address settings p₀).afterAll r before) = pre ++ x :: post) :
    ∃ u index c b, Legal r p₀ ((initial address settings p₀).transmissions r before ++ pre) t
      ((initial address settings p₀).afterAll r before) u index c b x := by
  have hruled := ruled_run (ruled_init r address settings p₀) hkeep
  rw [List.nil_append] at hruled
  rcases t.transmissions_cases r ((initial address settings p₀).afterAll r before) with
    ⟨hnone, _, _⟩ | ⟨u, a, hone, hair, _, hheld, hsource⟩
  · rw [hnone] at hx
    have hlen := congrArg List.length hx
    rw [List.length_append, List.length_cons, List.length_nil] at hlen
    omega
  · -- There is one frame in a call, so none comes before it.
    rw [hone] at hx
    have hlen := congrArg List.length hx
    rw [List.length_singleton, List.length_append, List.length_cons] at hlen
    have hpre : pre = [] := List.eq_nil_of_length_eq_zero (by omega)
    subst hpre
    rw [List.nil_append] at hx
    obtain ⟨rfl, _⟩ := List.cons_eq_cons.mp hx
    obtain ⟨b, hlegal⟩ := hair.legal hruled hheld hsource
    rw [List.append_nil]
    exact ⟨u, a.index, a.channel, b, hlegal⟩

/-- A repeat is legal after the first frame of its uplink. -/
theorem transmission_legal_repeated :
    ∃ x u index c b,
      ((initial ⟨5⟩ {} Region.eu868.defaultPlan).transmissions .eu868 unansweredRun).length = 1 ∧
      (Turn.onBench 200 (.alarm ⟨0⟩ .retransmit)).transmissions .eu868
        ((initial ⟨5⟩ {} Region.eu868.defaultPlan).afterAll .eu868 unansweredRun) = [x] ∧
      Legal .eu868 Region.eu868.defaultPlan
        ((initial ⟨5⟩ {} Region.eu868.defaultPlan).transmissions .eu868 unansweredRun ++ [])
        (Turn.onBench 200 (.alarm ⟨0⟩ .retransmit))
        ((initial ⟨5⟩ {} Region.eu868.defaultPlan).afterAll .eu868 unansweredRun)
        u index c b x := by
  have hone : ((Turn.onBench 200 (.alarm ⟨0⟩ .retransmit)).transmissions .eu868
      ((initial ⟨5⟩ {} Region.eu868.defaultPlan).afterAll .eu868 unansweredRun)).length = 1 := by
    decide +kernel
  obtain ⟨x, hx⟩ := List.length_eq_one_iff.mp hone
  obtain ⟨u, index, c, b, hlegal⟩ := transmission_legal .eu868 ⟨5⟩ {} Region.eu868.defaultPlan
    unansweredRun unansweredRun_keeps (.onBench 200 (.alarm ⟨0⟩ .retransmit))
    (by rw [hx]; exact (List.nil_append [x]).symm)
  exact ⟨x, u, index, c, b, by decide +kernel, hx, hlegal⟩

end EndDevice

end LoraLink
