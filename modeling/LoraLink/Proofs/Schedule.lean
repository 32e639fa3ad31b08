import LoraLink.Proofs.Legality
import LoraLink.Proofs.Soundness

/-!
# The scheduler and the choice of a channel agree

Before an uplink is sent again, a device is asked two things that are computed apart: how long it
has to wait, by the clocks of all usable channels and of the aggregated duty cycle; and, once there
is nothing to wait for, on which channel to send, by trying the usable channels in random order.

Both mean the same. A span is long enough just if the device may send when it has passed, so the
wait is the shortest such span. If it is empty, a channel is found, whatever the random order.
-/

namespace LoraLink

/-! ## Spans that are long enough -/

theorem Duration.isZero_iff {d : Duration} : d.isZero = true ↔ d = .zero := by
  unfold isZero
  rw [beq_iff_eq, Duration.ext_iff, micros_zero]

theorem Duration.isNever_iff {d : Duration} : d.isNever = true ↔ d = .never := by
  unfold isNever
  rw [beq_iff_eq, Duration.ext_iff, micros_never]

theorem Duration.le_zero_iff {d : Duration} : d ≤ .zero ↔ d.isZero = true := by
  rw [le_def, micros_zero, Nat.le_zero, isZero, beq_iff_eq]

theorem Duration.not_never_le {x : Duration} (hx : x.isNever = false) : ¬Duration.never ≤ x := by
  intro hle
  rw [le_def, micros_never] at hle
  have hnever : x.micros = horizon := Nat.le_antisymm x.le_horizon hle
  rw [isNever, hnever] at hx
  cases hx

theorem Duration.max_le_iff {a b x : Duration} : max a b ≤ x ↔ a ≤ x ∧ b ≤ x := by
  change (if a ≤ b then b else a) ≤ x ↔ _
  simp only [le_def]
  split <;> omega

theorem Duration.min_le_iff {a b x : Duration} : min a b ≤ x ↔ a ≤ x ∨ b ≤ x := by
  change (if a ≤ b then a else b) ≤ x ↔ _
  simp only [le_def]
  split <;> omega

theorem Instant.add_zero (now : Instant) : now + Duration.zero = now := by
  have hnow := now.le_horizon
  rw [Instant.ext_iff, micros_add, Duration.micros_zero]
  omega

/-- A span is long enough just if what is left to wait is no longer. -/
theorem Instant.isZero_since_add (t now : Instant) (x : Duration) :
    (t.since (now + x)).isZero = true ↔ t.since now ≤ x := by
  have ht := t.le_horizon
  rw [isZero_since, le_def, Duration.le_def, micros_add, micros_since]
  omega

namespace Plan

theorem isZero_aggregatedWait_add (p : Plan) (now : Instant) (duty : DutyCycle) {x : Duration}
    (hx : x.isNever = false) :
    (p.aggregatedWait (now + x) duty).isZero = true ↔ p.aggregatedWait now duty ≤ x := by
  unfold aggregatedWait
  split
  · exact ⟨fun h => (by cases h), fun h => absurd h (Duration.not_never_le hx)⟩
  · exact Instant.isZero_since_add _ now x

theorem waitingTime_add_iff {p : Plan} {now : Instant} {x : Duration} {frequency : Nat} :
    p.waitingTime (now + x) frequency = .ok .zero ↔
      ∃ wait, p.waitingTime now frequency = .ok wait ∧ wait ≤ x := by
  unfold waitingTime
  cases p.subBand frequency with
  | error f => exact ⟨fun h => (by cases h), fun ⟨_, h, _⟩ => (by cases h)⟩
  | ok b =>
    constructor
    · intro h
      -- The wait shrinks by what has passed, and is none once all of it has.
      have hzero : (b.waitingTime (now + x)).isZero = true :=
        Duration.isZero_iff.mpr (Except.ok.inj h)
      exact ⟨_, rfl, (Instant.isZero_since_add b.nextStart now x).mp hzero⟩
    · rintro ⟨wait, h, hle⟩
      cases h
      have hzero := (Instant.isZero_since_add b.nextStart now x).mpr hle
      exact congrArg Except.ok (Duration.isZero_iff.mp hzero)

/-- The shortest wait is no longer than a span just if one of the waits is not. -/
theorem shortestWait_le_iff {p : Plan} {now : Instant} {cs : List Channel} {wait x : Duration}
    (h : p.shortestWait now cs = .ok wait) (hx : x.isNever = false) :
    wait ≤ x ↔ ∃ c ∈ cs, ∃ w, p.waitingTime now c.frequency = .ok w ∧ w ≤ x := by
  induction cs generalizing wait with
  | nil =>
    cases h
    exact ⟨fun hle => absurd hle (Duration.not_never_le hx), fun ⟨_, hc, _⟩ => (by cases hc)⟩
  | cons c rest ih =>
    rw [shortestWait] at h
    cases hw : p.waitingTime now c.frequency with
    | error f =>
      rw [hw] at h
      cases h
    | ok w =>
      rw [hw] at h
      cases hrest : p.shortestWait now rest with
      | error f =>
        rw [hrest] at h
        cases h
      | ok others =>
        rw [hrest] at h
        cases h
        -- The shortest of all is within reach if one of them is.
        rw [Duration.min_le_iff, ih hrest]
        simp only [List.mem_cons, exists_eq_or_imp, hw, Except.ok.injEq, exists_eq_left']

/-- May the channel in a slot be used for an uplink, and at once? -/
def Open (p : Plan) (now : Instant) (rate : DataRate) (i : Nat) : Prop :=
  ∃ c, p.channel? i = some c ∧ c.enabled = true ∧ c.supports rate = true
    ∧ p.waitingTime now c.frequency = .ok .zero

/-- No channel is found only if all that were asked about are closed. -/
theorem firstOpen_eq_none {p : Plan} {now : Instant} {order : List Nat}
    (h : p.firstOpen now order = .ok none) {i : Nat} (hi : i ∈ order) {c : Channel}
    (hc : p.channel? i = some c) : p.waitingTime now c.frequency ≠ .ok .zero := by
  induction order with
  | nil => cases hi
  | cons j rest ih =>
    cases hj : p.channel? j with
    | none =>
      rw [firstOpen_skip hj] at h
      rcases List.mem_cons.mp hi with rfl | hi
      · rw [hc] at hj
        cases hj
      · exact ih h hi
    | some c' =>
      cases hw : p.waitingTime now c'.frequency with
      | error f =>
        rw [firstOpen_fault hj hw] at h
        cases h
      | ok w =>
        rw [firstOpen_ask hj hw] at h
        split at h
        · cases h
        rename_i hbusy
        rcases List.mem_cons.mp hi with rfl | hi
        · rw [hc] at hj
          cases hj
          intro hzero
          rw [hw] at hzero
          exact hbusy (Duration.isZero_iff.mpr (Except.ok.inj hzero))
        · exact ih h hi

end Plan

namespace EndDevice

/-- May an uplink be sent at this moment? -/
def MaySend (d : EndDevice) (now : Instant) (rate : DataRate) : Prop :=
  (d.plan.aggregatedWait now d.settings.aggregatedDutyCycle).isZero = true
    ∧ ∃ i, d.plan.Open now rate i

/-- **A span is long enough just if the device may send when it has passed.** -/
theorem earliestDelay_le_iff {d : EndDevice} {now : Instant} {rate : DataRate} {wait x : Duration}
    (h : d.earliestDelay now rate = .ok wait) (hx : x.isNever = false) :
    wait ≤ x ↔ d.MaySend (now + x) rate := by
  have hdelay : d.earliestDelay now rate = (d.plan.shortestWait now
      ((d.plan.definedChannels.filter fun y => y.2.enabled && y.2.supports rate).map (·.2))).map
        fun wait => max wait (d.plan.aggregatedWait now d.settings.aggregatedDutyCycle) := rfl
  rw [hdelay] at h
  cases hshortest : d.plan.shortestWait now
      ((d.plan.definedChannels.filter fun y => y.2.enabled && y.2.supports rate).map (·.2)) with
  | error f =>
    rw [hshortest] at h
    cases h
  | ok w =>
    rw [hshortest] at h
    cases h
    -- Both waits have to be over: that of some channel and that of all sub-bands together.
    rw [Duration.max_le_iff, Plan.shortestWait_le_iff hshortest hx, MaySend,
      Plan.isZero_aggregatedWait_add _ _ _ hx, and_comm]
    refine and_congr_right fun _ => ?_
    unfold Plan.Open
    simp only [Plan.waitingTime_add_iff]
    constructor
    · rintro ⟨c, hc, wait, hwait, hle⟩
      obtain ⟨⟨i, _⟩, hmem, rfl⟩ := List.mem_map.mp hc
      obtain ⟨hdefined, husable⟩ := List.mem_filter.mp hmem
      obtain ⟨hon, hrate⟩ := Bool.and_eq_true_iff.mp husable
      exact ⟨i, _, Plan.mem_definedChannels.mp hdefined, hon, hrate, wait, hwait, hle⟩
    · rintro ⟨i, c, hc, hon, hrate, hwait⟩
      refine ⟨c, List.mem_map.mpr ⟨(i, c), List.mem_filter.mpr ⟨?_, ?_⟩, rfl⟩, hwait⟩
      · exact Plan.mem_definedChannels.mpr hc
      · exact Bool.and_eq_true_iff.mpr ⟨hon, hrate⟩

/-- There is nothing to wait for just if the device may send now. -/
theorem earliestDelay_isZero_iff {d : EndDevice} {now : Instant} {rate : DataRate} {wait : Duration}
    (h : d.earliestDelay now rate = .ok wait) : wait.isZero = true ↔ d.MaySend now rate := by
  have hnow := earliestDelay_le_iff h (x := .zero) rfl
  rwa [Instant.add_zero, Duration.le_zero_iff] at hnow

/-- A device that no channel or no duty cycle allows anything waits for ever. -/
theorem earliestDelay_eq_never {d : EndDevice} {now : Instant} {rate : DataRate} {wait : Duration}
    (h : d.earliestDelay now rate = .ok wait)
    (hnone : d.settings.aggregatedDutyCycle.share ≤ 0.0 ∨
      ∀ i c, d.plan.channel? i = some c → c.enabled = true → c.supports rate = false) :
    wait = .never := by
  -- Otherwise the device might send when it has waited.
  refine Decidable.byContradiction fun hne => ?_
  have hlast : wait.isNever = false := Bool.eq_false_iff.mpr fun hn =>
    hne (Duration.isNever_iff.mp hn)
  obtain ⟨hfree, i, c, hc, hon, hrate, _⟩ := (earliestDelay_le_iff h hlast).mp (Nat.le_refl _)
  rcases hnone with hshare | hnone
  · exact (aggregatedWait_isZero hfree).1 hshare
  · rw [hnone i c hc hon] at hrate
    cases hrate

/-! ## Drawing a channel -/

variable {σ : Type}

theorem Selected.open {now : Instant} {rate : DataRate} {s s' : Session EndDevice σ} {i : Nat}
    (h : Selected now rate s (.ok (some i)) s') : s.node.plan.Open now rate i := by
  obtain ⟨c, b, hc, hon, hrate, hb, hzero⟩ := h.usable
  refine ⟨c, hc, hon, hrate, ?_⟩
  unfold Plan.waitingTime
  rw [Plan.subBand_eq_ok.mpr hb]
  exact congrArg Except.ok (Duration.isZero_iff.mp hzero)

/-- No channel is found only if there is none, since every candidate was asked about. -/
theorem Selected.none_open {now : Instant} {rate : DataRate} {s s' : Session EndDevice σ}
    (h : Selected now rate s (.ok none) s') (i : Nat) : ¬s.node.plan.Open now rate i := by
  rintro ⟨c, hc, hon, hrate, hzero⟩
  cases h with
  | asked g hperm hf =>
    have hcandidate := Plan.mem_candidates.mpr ⟨c, hc, hon, hrate⟩
    exact Plan.firstOpen_eq_none hf (hperm.mem_iff.mpr hcandidate) hc hzero

/-- Where all channels have a sub-band, random numbers are all it takes to draw. -/
theorem selectChannel_isOk {s : Session EndDevice σ} (hplan : s.node.plan.Covered)
    (hrandom : s.random.Endless) (now : Instant) (rate : DataRate) :
    ∃ choice s', (selectChannel now rate).run s = (.ok choice, s') := by
  obtain ⟨order, g, hshuffle⟩ :=
    Call.run_shuffle_ok hrandom (s.node.plan.length_candidates_lt rate)
  cases hf : s.node.plan.firstOpen now order with
  | ok choice =>
    refine ⟨choice, s.withRandom g, ?_⟩
    unfold selectChannel
    rw [Call.run_bind_ok (Call.run_node s), Call.run_bind_ok hshuffle, hf]
    rfl
  -- Every channel lies in a sub-band, so the search has nothing to fail for.
  | error f =>
    obtain ⟨i, c, hc, hnone⟩ := Plan.firstOpen_eq_error hf
    obtain ⟨b, hb⟩ := hplan i c hc
    rw [hnone] at hb
    cases hb

/-! ## The alarm for the next attempt -/

variable [Host σ] (r : Region)

/--
What the alarm for the next attempt does while no exchange is open: it sends if the device may
send, and else sets itself again for when it may, or gives the uplink up if that is never. The last
three ways are those in which the host, or the transmission itself, fails.
-/
inductive Fired (u : HeldUplink) (wait : Duration) (s : Session EndDevice σ) :
    Except Failure Unit → Session EndDevice σ → Prop where
  | sent {s' : Session EndDevice σ} (hmay : s.node.MaySend (Host.now s.host) u.rate)
      (hheld : s'.node.held = some u.next) (hair : s'.node.transmitting = true) :
      Fired u wait s (.ok ()) s'
  | hopeless (hnot : ¬s.node.MaySend (Host.now s.host) u.rate) (hwait : wait = .never) :
      Fired u wait s (.ok ()) (givenUp u s)
  | postponed {id : EventId} (hnot : ¬s.node.MaySend (Host.now s.host) u.rate)
      (hlater : s.node.MaySend (Host.now s.host + wait) u.rate)
      (hid : s.alarmId? wait .retransmit = some id) :
      Fired u wait s (.ok ()) (armed wait .retransmit id s)
  | undrawn (hmay : s.node.MaySend (Host.now s.host) u.rate) (g : Random) :
      Fired u wait s (.error (.random .exhausted)) (s.withRandom g)
  | unsent {i : Nat} {e : Failure} {s₁ s₂ : Session EndDevice σ}
      (hmay : s.node.MaySend (Host.now s.host) u.rate)
      (hselect : Selected (Host.now s.host) u.rate s (.ok (some i)) s₁)
      (hsend : Transmitted r u i s₁ (.error e) s₂) : Fired u wait s (.error e) (dropped s₂)
  | unset (hnot : ¬s.node.MaySend (Host.now s.host) u.rate)
      (hlater : s.node.MaySend (Host.now s.host + wait) u.rate)
      (hid : s.alarmId? wait .retransmit = none) :
      Fired u wait s (.error .timelineFull) (s.scheduled wait .retransmit)

/-- An uplink that may never be sent again is given up. -/
theorem retransmit_never {u : HeldUplink} {wait : Duration} {s : Session EndDevice σ}
    (h : Retrying u wait s) (hwait : wait = .never) :
    (retransmit r).run s = (.ok (), givenUp u s) := by
  subst hwait
  unfold retransmit
  rw [Call.run_bind_ok (Call.run_node s), h.held]
  dsimp only
  rw [h.closed, if_neg Bool.false_ne_true, Call.run_bind_ok (Call.run_now s), h.wait,
    Call.run_bind_ok (Call.run_ofPlan_ok Duration.never s)]
  rfl

/-- The two answers that would contradict each other, that there is nothing to wait for and that
there is no channel to send on, are never given. -/
theorem retransmit_fired {u : HeldUplink} {wait : Duration} {s s' : Session EndDevice σ}
    {res : Except Failure Unit} (h : (retransmit r).run s = (res, s'))
    (hplan : s.node.plan.Covered) (hretry : Retrying u wait s) : Fired r u wait s res s' := by
  have hmay := earliestDelay_isZero_iff hretry.wait
  by_cases hnever : wait = .never
  · rw [retransmit_never r hretry hnever] at h
    cases h
    refine .hopeless (fun hnow => ?_) hnever
    rw [← hmay, hnever] at hnow
    cases hnow
  have hlast : wait.isNever = false :=
    Bool.eq_false_iff.mpr fun hn => hnever (Duration.isNever_iff.mp hn)
  have hlater : s.node.MaySend (Host.now s.host + wait) u.rate :=
    (earliestDelay_le_iff hretry.wait hlast).mp (Nat.le_refl _)
  -- What the device holds and how long it waits is settled, so this is what it retries.
  have hunique : ∀ {u' wait'}, Retrying u' wait' s → u' = u ∧ wait' = wait := by
    intro u' wait' h'
    have hu : some u' = some u := h'.held.symm.trans hretry.held
    cases hu
    have hw : Except.ok wait' = Except.ok wait := h'.wait.symm.trans hretry.wait
    cases hw
    exact ⟨rfl, rfl⟩
  cases retransmit_cases r h with
  | nothing hnone =>
    rw [hretry.held] at hnone
    cases hnone
  | late hover =>
    rw [hretry.closed] at hover
    cases hover
  | fault hheld hfault =>
    rw [hretry.held] at hheld
    cases hheld
    rw [hretry.wait] at hfault
    cases hfault
  | unselected h' hzero hselect =>
    obtain ⟨rfl, rfl⟩ := hunique h'
    rcases hselect.failure with rfl | ⟨f, i, c, rfl, hc, hnone⟩
    · obtain ⟨g, rfl⟩ := hselect.session
      exact .undrawn (hmay.mp hzero) g
    · obtain ⟨b, hb⟩ := hplan i c hc
      rw [hnone] at hb
      cases hb
  | blocked h' hzero hselect =>
    obtain ⟨rfl, rfl⟩ := hunique h'
    obtain ⟨_, i, hopen⟩ := hmay.mp hzero
    exact absurd hopen (hselect.none_open i)
  | failed h' hzero hselect hsend =>
    obtain ⟨rfl, rfl⟩ := hunique h'
    exact .unsent (hmay.mp hzero) hselect hsend
  | repeated h' hzero hselect hsend =>
    obtain ⟨rfl, rfl⟩ := hunique h'
    cases hsend with
    | onAir _ _ _ _ _ _ => exact .sent (hmay.mp hzero) rfl rfl
  | never h' _ hn =>
    obtain ⟨rfl, rfl⟩ := hunique h'
    exact absurd (Duration.isNever_iff.mp hn) hnever
  | postponed h' hpositive hid =>
    obtain ⟨rfl, rfl⟩ := hunique h'
    exact .postponed (fun hnow => by rw [hmay.mpr hnow] at hpositive; cases hpositive) hlater hid
  | full h' hpositive hid =>
    obtain ⟨rfl, rfl⟩ := hunique h'
    exact .unset (fun hnow => by rw [hmay.mpr hnow] at hpositive; cases hpositive) hlater hid

/-! ## Agreement -/

/-- What the wait for the next attempt, the choice of a channel and the alarm for the attempt have
to do with each other, at one moment and for one data rate. -/
structure Agreed (d : EndDevice) (now : Instant) (rate : DataRate) (wait : Duration) : Prop where
  /-- Nothing to wait for: no aggregated wait, and a channel is found whatever is drawn. -/
  found : wait.isZero = true ↔
    (d.plan.aggregatedWait now d.settings.aggregatedDutyCycle).isZero = true ∧
      ∀ (σ : Type) (s s' : Session EndDevice σ) (choice : Option Nat), s.node = d →
        (selectChannel now rate).run s = (.ok choice, s') → choice.isSome = true
  /-- A channel that is drawn may be used at once; none is drawn only if there is none. -/
  chosen : ∀ (σ : Type) (s s' : Session EndDevice σ) (res : Except Failure (Option Nat)),
    s.node = d → (selectChannel now rate).run s = (res, s') →
      res = .error (.random .exhausted) ∨ (∃ i, res = .ok (some i) ∧ d.plan.Open now rate i) ∨
        (res = .ok none ∧ ∀ i, ¬d.plan.Open now rate i)
  /-- There are random numbers with which a draw does not fail. -/
  drawable : ∃ g : Random, ∀ (σ : Type) (s : Session EndDevice σ), s.node = d → s.random = g →
    ∃ choice s', (selectChannel now rate).run s = (.ok choice, s')
  /-- Until the wait is over the device may not send. -/
  before : ∀ x, x < wait → ¬d.MaySend (now + x) rate
  /-- Then it may. -/
  after : wait ≠ .never → d.MaySend (now + wait) rate
  /-- It waits for ever if nothing will ever be allowed. -/
  never : (d.settings.aggregatedDutyCycle.share ≤ 0.0 ∨
    ∀ i c, d.plan.channel? i = some c → c.enabled = true → c.supports rate = false) → wait = .never

theorem agreed_of_earliestDelay {d : EndDevice} (hplan : d.plan.Covered) {now : Instant}
    {rate : DataRate} {wait : Duration} (h : d.earliestDelay now rate = .ok wait) :
    Agreed d now rate wait := by
  have hzero := earliestDelay_isZero_iff h
  have hchosen : ∀ (σ : Type) (s s' : Session EndDevice σ) (res : Except Failure (Option Nat)),
      s.node = d → (selectChannel now rate).run s = (res, s') →
        res = .error (.random .exhausted) ∨ (∃ i, res = .ok (some i) ∧ d.plan.Open now rate i) ∨
          (res = .ok none ∧ ∀ i, ¬d.plan.Open now rate i) := by
    rintro σ s s' res rfl hrun
    have hselected := selectChannel_cases hrun
    cases res with
    | ok choice =>
      cases choice with
      | none => exact Or.inr (Or.inr ⟨rfl, hselected.none_open⟩)
      | some i => exact Or.inr (Or.inl ⟨i, rfl, hselected.open⟩)
    | error e =>
      rcases hselected.failure with rfl | ⟨f, i, c, rfl, hc, hnone⟩
      · exact Or.inl rfl
      · obtain ⟨b, hb⟩ := hplan i c hc
        rw [hnone] at hb
        cases hb
  -- A source that says 1 for ever never runs dry, whatever is drawn from it.
  have hdrawable : ∃ g : Random, ∀ (σ : Type) (s : Session EndDevice σ), s.node = d →
      s.random = g → ∃ choice s', (selectChannel now rate).run s = (.ok choice, s') := by
    refine ⟨.scripted [] (some 1), ?_⟩
    rintro σ s rfl hg
    exact selectChannel_isOk hplan (hg ▸ Random.scriptedAnswer_ne_none [] 1) now rate
  refine ⟨?_, hchosen, hdrawable, ?_, ?_, earliestDelay_eq_never h⟩
  · rw [hzero]
    constructor
    · rintro ⟨hfree, i, hopen⟩
      refine ⟨hfree, fun σ s s' choice hs hrun => ?_⟩
      rcases hchosen σ s s' _ hs hrun with herror | ⟨j, hok, _⟩ | ⟨_, hnone⟩
      · cases herror
      · cases hok
        rfl
      · exact absurd hopen (hnone i)
    -- Some channel is picked with that source, and what is picked is open.
    · rintro ⟨hfree, hsome⟩
      obtain ⟨g, hg⟩ := hdrawable
      obtain ⟨choice, s', hrun⟩ := hg Unit ⟨d, (), g, []⟩ rfl rfl
      rcases hchosen Unit _ s' _ rfl hrun with herror | ⟨i, _, hopen⟩ | ⟨hnone, _⟩
      · cases herror
      · exact ⟨hfree, i, hopen⟩
      · cases hnone
        cases hsome Unit _ s' none rfl hrun
  · intro x hx hmay
    -- What is less than a wait that has an end has an end itself.
    have hlast : x.isNever = false := by
      rw [Bool.eq_false_iff, Ne, Duration.isNever_iff]
      rintro rfl
      exact absurd wait.le_horizon (Nat.not_le_of_lt hx)
    exact absurd ((earliestDelay_le_iff h hlast).mpr hmay) (Nat.not_le_of_lt hx)
  · intro hne
    have hlast : wait.isNever = false :=
      Bool.eq_false_iff.mpr fun hn => hne (Duration.isNever_iff.mp hn)
    exact (earliestDelay_le_iff h hlast).mp (Nat.le_refl _)

/--
**The scheduler and the choice of a channel agree on what is legal, and when.**

Whatever the plan, as long as its channels lie in sub-bands, the wait for the next attempt is
empty just if there is no aggregated wait and a channel is drawn whatever the random numbers. Any
channel that is drawn is enabled, supports the data rate and does not have to wait. Until the wait
is over the device may not send, and then it may.

So the alarm for the next attempt, going off while no exchange is open, gives an uplink up only if
the device may never send it, and sets itself again only if the device may not send it yet, for
the moment from which on it may.
-/
theorem schedule_agrees (r : Region) {d : EndDevice} (hplan : d.plan.Covered) (now : Instant)
    (rate : DataRate) :
    ∃ wait, d.earliestDelay now rate = .ok wait ∧ Agreed d now rate wait ∧
      ∀ (σ : Type) [Host σ] (s s' : Session EndDevice σ) (res : Except Failure Unit)
        (id : EventId) (u : HeldUplink), s.node = d → Host.now s.host = now → u.rate = rate →
        d.held = some u → d.rxWindowsPending = false → d.alarms.retransmit = some id →
        (alarm r id .retransmit).run s = (res, s') →
          Fired r u wait (disarmed .retransmit s) res s' := by
  obtain ⟨wait, hwait⟩ := earliestDelay_isOk hplan now rate
  refine ⟨wait, hwait, agreed_of_earliestDelay hplan hwait, ?_⟩
  rintro σ _ s s' res id u rfl rfl rfl hheld hclosed hid hrun
  have hretry : Retrying u wait (disarmed .retransmit s) := ⟨hheld, hclosed, hwait⟩
  -- The slot names this event, so the alarm is not stale and the repeat is considered.
  have hfire : (alarm r id .retransmit).run s = (retransmit r).run (disarmed .retransmit s) := by
    unfold alarm
    rw [Call.run_bind_ok (Call.run_node s), if_neg (fun hne => hne hid),
      Call.run_bind_ok (Call.run_modifyNode _ s)]
    rfl
  rw [hfire] at hrun
  exact retransmit_fired r hrun hplan hretry

/-- An uplink that nobody has answered waits for its repeat: its alarm is set, and when it goes off
after ten seconds, it has still a while to wait. -/
theorem schedule_agrees_unanswered :
    ∃ (d : EndDevice) (u : HeldUplink) (id : EventId) (wait : Duration),
      d = (initial ⟨5⟩ {} Region.eu868.defaultPlan).afterAll .eu868 unansweredRun ∧
      d.plan.Covered ∧ d.held = some u ∧ d.rxWindowsPending = false ∧
      d.alarms.retransmit = some id ∧ d.earliestDelay (.ofSeconds 10) u.rate = .ok wait ∧
      wait ≠ .zero ∧ wait ≠ .never ∧ Agreed d (.ofSeconds 10) u.rate wait ∧
      Fired .eu868 u wait
        (disarmed .retransmit ((Turn.onBench 10 (.alarm id .retransmit)).session d))
        ((Turn.onBench 10 (.alarm id .retransmit)).made .eu868 d).1
        ((Turn.onBench 10 (.alarm id .retransmit)).made .eu868 d).2 := by
  obtain ⟨d, hd⟩ : ∃ d, d = (initial ⟨5⟩ {} Region.eu868.defaultPlan).afterAll .eu868
      unansweredRun := ⟨_, rfl⟩
  have hcovered : d.plan.Covered := by
    rw [hd]
    refine (sound_run (sound_init Settings.valid_default ⟨5⟩ eu868_covered) ?_).covered
    intro t ht plan hop
    have hedit := unansweredRun_keeps t ht
    rw [hop] at hedit
    cases hedit
  have hstate : d.held.map (·.rate) = some 0 ∧ d.rxWindowsPending = false ∧
      d.alarms.retransmit = some ⟨0⟩ := by
    rw [hd]
    decide +kernel
  -- The wait is not computed here, but that it is neither of the two extremes is.
  have hwaits : (d.earliestDelay (.ofSeconds 10) 0).toOption.any
      (fun wait => wait ≠ .zero && wait ≠ .never) = true := by
    rw [hd]
    decide +kernel
  obtain ⟨hheld, hclosed, hid⟩ := hstate
  obtain ⟨u, hu, hrate⟩ := Option.map_eq_some_iff.mp hheld
  obtain ⟨wait, hwait, hagreed, hfired⟩ := schedule_agrees .eu868 hcovered (.ofSeconds 10) u.rate
  rw [← hrate, hwait] at hwaits
  obtain ⟨hpositive, hlast⟩ := Bool.and_eq_true_iff.mp hwaits
  exact ⟨d, u, ⟨0⟩, wait, hd, hcovered, hu, hclosed, hid, hwait, of_decide_eq_true hpositive,
    of_decide_eq_true hlast, hagreed, hfired _ ((Turn.onBench 10 (.alarm ⟨0⟩ .retransmit)).session d)
      _ _ ⟨0⟩ u rfl rfl rfl hu hclosed hid rfl⟩

end EndDevice

end LoraLink
