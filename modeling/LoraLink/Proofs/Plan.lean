import LoraLink.Device.Uplink

/-!
# What operations leave of a plan

A plan has two halves that change independently. Requests of the network touch its channels and
never its clocks; a transmission moves clocks and never touches a channel. Of a sub-band only the
clock ever moves, and only forward.
-/

namespace LoraLink

namespace Plan

/-! ## Channels -/

theorem channel?_lt {p : Plan} {i : Nat} {c : Channel} (h : p.channel? i = some c) :
    i < channelSlots := by
  unfold channel? at h
  by_cases hi : i < channelSlots
  · exact hi
  · rw [getElem?_neg p.channels i hi] at h
    cases h

theorem mem_definedChannels {p : Plan} {i : Nat} {c : Channel} :
    (i, c) ∈ p.definedChannels ↔ p.channel? i = some c := by
  unfold definedChannels
  rw [List.mem_filterMap]
  constructor
  · rintro ⟨j, _, hj⟩
    obtain ⟨c', hc', heq⟩ := Option.map_eq_some_iff.mp hj
    cases heq
    exact hc'
  · intro h
    exact ⟨i, List.mem_range.mpr (channel?_lt h), by rw [h]; rfl⟩

/-- The candidates for an uplink are the enabled channels that support its data rate. -/
theorem mem_candidates {p : Plan} {rate : DataRate} {i : Nat} :
    i ∈ p.candidates rate ↔
      ∃ c, p.channel? i = some c ∧ c.enabled = true ∧ c.supports rate = true := by
  unfold candidates
  simp only [List.mem_map, List.mem_filter, Bool.and_eq_true, Prod.exists, exists_and_right,
    exists_eq_right, mem_definedChannels]

theorem length_candidates (p : Plan) (rate : DataRate) :
    (p.candidates rate).length ≤ channelSlots := by
  unfold candidates definedChannels
  rw [List.length_map]
  refine Nat.le_trans (List.length_filter_le _ _) (Nat.le_trans (List.length_filterMap_le _ _) ?_)
  exact Nat.le_of_eq List.length_range

/-- There are no more candidates than a word can count. -/
theorem length_candidates_lt (p : Plan) (rate : DataRate) :
    (p.candidates rate).length < 4294967296 :=
  Nat.lt_of_le_of_lt (p.length_candidates rate) (by decide)

theorem channel?_putSlot (p : Plan) (i j : Nat) (c : Option Channel) :
    (p.putSlot i c).channel? j = if i = j ∧ i < channelSlots then c else p.channel? j := by
  unfold channel? putSlot
  dsimp only
  by_cases hij : i = j
  · subst hij
    by_cases hi : i < channelSlots
    · rw [if_pos ⟨rfl, hi⟩, Vector.getElem?_setIfInBounds_self_of_lt hi]
      rfl
    · rw [if_neg (fun h => hi h.2), getElem?_neg _ i hi, getElem?_neg _ i hi]
  · rw [if_neg (fun h => hij h.1), Vector.getElem?_setIfInBounds_ne hij]

/-- A channel whose frequency has a sub-band can be set in any slot there is. -/
theorem setChannel_eq_ok {p : Plan} {index : Nat} {c : Channel} (hindex : index < channelSlots)
    (hvalid : p.isValidFrequency c.frequency = true) :
    p.setChannel index c = .ok (p.putSlot index (some c)) := by
  obtain ⟨b, hb⟩ := Option.isSome_iff_exists.mp hvalid
  unfold setChannel subBand
  rw [hb]
  exact if_pos hindex

/-- Only a channel in a slot can be changed, and it stays in its slot. -/
theorem modifyChannel?_eq_some {p q : Plan} {i : Nat} {f : Channel → Channel}
    (h : p.modifyChannel? i f = some q) :
    ∃ c, p.channel? i = some c ∧ q = p.putSlot i (some (f c)) := by
  unfold modifyChannel? at h
  obtain ⟨c, hc, rfl⟩ := Option.map_eq_some_iff.mp h
  exact ⟨c, hc, rfl⟩

theorem channel?_selectChannels (p : Plan) (statuses : List Bool) (i : Nat) :
    (p.selectChannels statuses).channel? i =
      (p.channel? i).map fun c => { c with enabled := statuses.getD i false } := by
  unfold channel? selectChannels
  dsimp only
  by_cases hi : i < channelSlots
  · rw [getElem?_pos _ i hi, getElem?_pos _ i hi, Vector.getElem_mapFinIdx]
    rfl
  · rw [getElem?_neg _ i hi, getElem?_neg _ i hi]
    rfl

/-! ## Sub-bands -/

theorem subBand_eq_ok {p : Plan} {frequency : Nat} {b : SubBand} :
    p.subBand frequency = .ok b ↔ p.subBand? frequency = some b := by
  unfold subBand
  cases p.subBand? frequency <;> simp

theorem subBand_eq_error {p : Plan} {frequency : Nat} {f : PlanFault}
    (h : p.subBand frequency = .error f) : p.subBand? frequency = none := by
  unfold subBand at h
  cases hb : p.subBand? frequency with
  | none => rfl
  | some b =>
    rw [hb] at h
    cases h

theorem subBand?_contains {p : Plan} {frequency : Nat} {b : SubBand}
    (h : p.subBand? frequency = some b) : b ∈ p.subBands ∧ b.contains frequency = true :=
  ⟨List.mem_of_find?_eq_some h, by simpa using List.find?_some h⟩

theorem waitingTime_eq_ok {p : Plan} {now : Instant} {frequency : Nat} {w : Duration}
    (h : p.waitingTime now frequency = .ok w) :
    ∃ b, p.subBand? frequency = some b ∧ w = b.waitingTime now := by
  unfold waitingTime at h
  cases hb : p.subBand frequency with
  | error f =>
    rw [hb] at h
    cases h
  | ok b =>
    rw [hb] at h
    cases h
    exact ⟨b, subBand_eq_ok.mp hb, rfl⟩

theorem waitingTime_eq_error {p : Plan} {now : Instant} {frequency : Nat} {f : PlanFault}
    (h : p.waitingTime now frequency = .error f) : p.subBand? frequency = none := by
  unfold waitingTime at h
  cases hb : p.subBand frequency with
  | error f' => exact subBand_eq_error hb
  | ok b =>
    rw [hb] at h
    cases h

/-! ## Choosing a channel -/

theorem firstOpen_skip {p : Plan} {now : Instant} {j : Nat} {rest : List Nat}
    (hc : p.channel? j = none) : p.firstOpen now (j :: rest) = p.firstOpen now rest := by
  rw [firstOpen, hc]

theorem firstOpen_fault {p : Plan} {now : Instant} {j : Nat} {rest : List Nat} {c : Channel}
    {f : PlanFault} (hc : p.channel? j = some c) (hw : p.waitingTime now c.frequency = .error f) :
    p.firstOpen now (j :: rest) = .error f := by
  rw [firstOpen, hc]
  dsimp only
  rw [hw]
  rfl

theorem firstOpen_ask {p : Plan} {now : Instant} {j : Nat} {rest : List Nat} {c : Channel}
    {w : Duration} (hc : p.channel? j = some c) (hw : p.waitingTime now c.frequency = .ok w) :
    p.firstOpen now (j :: rest) =
      if w.isZero = true then .ok (some j) else p.firstOpen now rest := by
  rw [firstOpen, hc]
  dsimp only
  rw [hw]
  rfl

/-- The channel chosen is one of those asked about, and its sub-band is open. -/
theorem firstOpen_eq_some {p : Plan} {now : Instant} {order : List Nat} {i : Nat}
    (h : p.firstOpen now order = .ok (some i)) :
    i ∈ order ∧ ∃ c b, p.channel? i = some c ∧ p.subBand? c.frequency = some b
      ∧ (b.waitingTime now).isZero = true := by
  -- By induction on the order of search: a channel is missing, closed for now, or the result.
  induction order with
  | nil => cases h
  | cons j rest ih =>
    cases hc : p.channel? j with
    | none =>
      rw [firstOpen_skip hc] at h
      obtain ⟨hi, hrest⟩ := ih h
      exact ⟨List.mem_cons_of_mem j hi, hrest⟩
    | some c =>
      cases hw : p.waitingTime now c.frequency with
      | error f =>
        rw [firstOpen_fault hc hw] at h
        cases h
      | ok w =>
        rw [firstOpen_ask hc hw] at h
        obtain ⟨b, hb, rfl⟩ := waitingTime_eq_ok hw
        by_cases hz : (b.waitingTime now).isZero = true
        · rw [if_pos hz] at h
          cases h
          exact ⟨List.mem_cons_self, c, b, hc, hb, hz⟩
        · rw [if_neg hz] at h
          obtain ⟨hi, hrest⟩ := ih h
          exact ⟨List.mem_cons_of_mem j hi, hrest⟩

/-- A choice fails only at a channel outside all sub-bands. -/
theorem firstOpen_eq_error {p : Plan} {now : Instant} {order : List Nat} {f : PlanFault}
    (h : p.firstOpen now order = .error f) :
    ∃ i c, p.channel? i = some c ∧ p.subBand? c.frequency = none := by
  induction order with
  | nil => cases h
  | cons j rest ih =>
    cases hc : p.channel? j with
    | none =>
      rw [firstOpen_skip hc] at h
      exact ih h
    | some c =>
      cases hw : p.waitingTime now c.frequency with
      -- The search stops at the first channel that lies in no sub-band.
      | error f' => exact ⟨j, c, hc, waitingTime_eq_error hw⟩
      | ok w =>
        rw [firstOpen_ask hc hw] at h
        split at h
        · cases h
        · exact ih h

theorem shortestWait_eq_error {p : Plan} {now : Instant} {cs : List Channel} {f : PlanFault}
    (h : p.shortestWait now cs = .error f) :
    ∃ c ∈ cs, p.subBand? c.frequency = none := by
  induction cs with
  | nil => cases h
  | cons c rest ih =>
    rw [shortestWait] at h
    cases hw : p.waitingTime now c.frequency with
    | error f' => exact ⟨c, List.mem_cons_self, waitingTime_eq_error hw⟩
    | ok w =>
      rw [hw] at h
      cases hrest : p.shortestWait now rest with
      | error f' =>
        obtain ⟨c', hc', hb⟩ := ih (by rw [← h, hrest]; rfl)
        exact ⟨c', List.mem_cons_of_mem c hc', hb⟩
      | ok others =>
        rw [hrest] at h
        cases h

/-! ## Clocks -/

/-- The plans differ in their channels at most. -/
structure SameClocks (p q : Plan) : Prop where
  subBands : q.subBands = p.subBands
  lastStart : q.lastStart = p.lastStart
  lastAirtime : q.lastAirtime = p.lastAirtime

theorem SameClocks.refl (p : Plan) : SameClocks p p := ⟨rfl, rfl, rfl⟩

theorem SameClocks.trans {p q s : Plan} (h : SameClocks p q) (h' : SameClocks q s) :
    SameClocks p s :=
  ⟨h'.subBands.trans h.subBands, h'.lastStart.trans h.lastStart,
    h'.lastAirtime.trans h.lastAirtime⟩

theorem SameClocks.subBand? {p q : Plan} (h : SameClocks p q) (frequency : Nat) :
    q.subBand? frequency = p.subBand? frequency := by
  unfold Plan.subBand?
  rw [h.subBands]

theorem sameClocks_putSlot (p : Plan) (i : Nat) (c : Option Channel) :
    SameClocks p (p.putSlot i c) := ⟨rfl, rfl, rfl⟩

theorem sameClocks_selectChannels (p : Plan) (statuses : List Bool) :
    SameClocks p (p.selectChannels statuses) := ⟨rfl, rfl, rfl⟩

/-- Registering a transmission takes a sub-band to register it on. -/
theorem register_eq_ok {p q : Plan} {now : Instant} {airtime : Duration} {frequency : Nat}
    (h : p.register now airtime frequency = .ok q) :
    (∃ b, p.subBand? frequency = some b) ∧
      q = { p with
        lastStart := now
        lastAirtime := airtime
        subBands := updateFirst frequency (·.register now airtime) p.subBands } := by
  unfold register at h
  cases hb : p.subBand frequency with
  | error f =>
    rw [hb] at h
    cases h
  | ok b =>
    rw [hb] at h
    cases h
    exact ⟨⟨b, subBand_eq_ok.mp hb⟩, rfl⟩

/-- Where there is a sub-band, a transmission can be registered. -/
theorem register_isOk {p : Plan} {frequency : Nat} {b : SubBand}
    (hb : p.subBand? frequency = some b) (now : Instant) (airtime : Duration) :
    ∃ q, p.register now airtime frequency = .ok q := by
  unfold register
  rw [subBand_eq_ok.mpr hb]
  exact ⟨_, rfl⟩

theorem maxPower_eq_ok {p : Plan} {frequency : Nat} {limit : Int}
    (h : p.maxPower frequency = .ok limit) :
    ∃ b, p.subBand? frequency = some b ∧ limit = b.maxPower := by
  unfold maxPower at h
  cases hb : p.subBand frequency with
  | error f =>
    rw [hb] at h
    cases h
  | ok b =>
    rw [hb] at h
    cases h
    exact ⟨b, subBand_eq_ok.mp hb, rfl⟩

theorem maxPower_eq_error {p : Plan} {frequency : Nat} {f : PlanFault}
    (h : p.maxPower frequency = .error f) : p.subBand? frequency = none := by
  unfold maxPower at h
  cases hb : p.subBand frequency with
  | error f' => exact subBand_eq_error hb
  | ok b =>
    rw [hb] at h
    cases h

/-- What a frequency finds in a list of sub-bands of which one was changed. -/
theorem find?_updateFirst {f : SubBand → SubBand} (hf : ∀ b n, (f b).contains n = b.contains n)
    (changed n : Nat) (bands : List SubBand) {b : SubBand}
    (h : (updateFirst changed f bands).find? (·.contains n) = some b) :
    ∃ a, bands.find? (·.contains n) = some a ∧ (b = a ∨ b = f a) := by
  induction bands with
  | nil => cases h
  | cons a rest ih =>
    rw [updateFirst] at h
    -- Only the first sub-band with the changed frequency differs, and it keeps its bounds.
    by_cases hc : a.contains changed = true
    · rw [if_pos hc] at h
      cases hn : a.contains n with
      | true =>
        simp only [List.find?_cons, hf, hn] at h
        cases h
        exact ⟨a, by simp only [List.find?_cons, hn], Or.inr rfl⟩
      | false =>
        simp only [List.find?_cons, hf, hn] at h
        exact ⟨b, by simp only [List.find?_cons, hn]; exact h, Or.inl rfl⟩
    · rw [if_neg hc] at h
      cases hn : a.contains n with
      | true =>
        simp only [List.find?_cons, hn] at h
        cases h
        exact ⟨b, by simp only [List.find?_cons, hn], Or.inl rfl⟩
      | false =>
        simp only [List.find?_cons, hn] at h
        obtain ⟨a', ha', hb⟩ := ih h
        exact ⟨a', by simp only [List.find?_cons, hn]; exact ha', hb⟩

/-- The frequency that was registered finds the sub-band that was changed. -/
theorem find?_updateFirst_self {f : SubBand → SubBand}
    (hf : ∀ b n, (f b).contains n = b.contains n) (n : Nat) (bands : List SubBand) :
    (updateFirst n f bands).find? (·.contains n) = (bands.find? (·.contains n)).map f := by
  induction bands with
  | nil => rfl
  | cons a rest ih =>
    rw [updateFirst]
    cases hn : a.contains n with
    | true =>
      rw [if_pos rfl]
      simp only [List.find?_cons, hf, hn, Option.map_some]
    | false =>
      rw [if_neg (by decide)]
      simp only [List.find?_cons, hn, ih]

end Plan

namespace SubBand

/-! ## The clock of a sub-band -/

theorem contains_register (now : Instant) (airtime : Duration) (b : SubBand) (n : Nat) :
    (b.register now airtime).contains n = b.contains n := rfl

end SubBand

namespace Instant

theorem le_refl (a : Instant) : a ≤ a := Nat.le_refl _

theorem le_trans {a b c : Instant} (h : a ≤ b) (h' : b ≤ c) : a ≤ c := Nat.le_trans h h'

theorem le_max_left (a b : Instant) : a ≤ max a b := by
  change a ≤ if a ≤ b then b else a
  split
  · assumption
  · exact le_refl a

theorem le_max_right (a b : Instant) : b ≤ max a b := by
  change b ≤ if a ≤ b then b else a
  split
  · exact le_refl b
  · rename_i h
    exact Nat.le_of_lt (Nat.lt_of_not_le h)

/-- There is nothing to wait for just if the instant has come. -/
theorem isZero_since {t now : Instant} : (t.since now).isZero = true ↔ t ≤ now := by
  unfold Duration.isZero since
  rw [beq_iff_eq, le_def]
  exact Nat.sub_eq_zero_iff_le

end Instant

namespace Duration

theorem le_max_right (a b : Duration) : b ≤ max a b := by
  change b ≤ if a ≤ b then b else a
  split
  · exact Nat.le_refl _
  · rename_i h
    exact Nat.le_of_lt (Nat.lt_of_not_le h)

end Duration

namespace SubBand

/-- A clock never goes back. -/
theorem nextStart_le_register (now : Instant) (airtime : Duration) (b : SubBand) :
    b.nextStart ≤ (b.register now airtime).nextStart := Instant.le_max_left _ _

/-- After a transmission the sub-band stays closed for as long as the transmission asks. -/
theorem offTime_le_register (now : Instant) (airtime : Duration) (b : SubBand) :
    now + b.offTime airtime ≤ (b.register now airtime).nextStart := Instant.le_max_right _ _

end SubBand

/-! ## Rules and clocks -/

/-- A sub-band without its clock. -/
def SubBand.rule (b : SubBand) : SubBand := { b with nextStart := .zero }

namespace SubBand

theorem contains_of_rule {a b : SubBand} (h : a.rule = b.rule) (frequency : Nat) :
    a.contains frequency = b.contains frequency := by
  have hfirst : a.firstFrequency = b.firstFrequency := (congrArg SubBand.firstFrequency h :)
  have hlast : a.lastFrequency = b.lastFrequency := (congrArg SubBand.lastFrequency h :)
  unfold contains
  rw [hfirst, hlast]

theorem offTime_of_rule {a b : SubBand} (h : a.rule = b.rule) (airtime : Duration) :
    a.offTime airtime = b.offTime airtime := by
  have hduty : a.dutyCycle = b.dutyCycle := (congrArg SubBand.dutyCycle h :)
  unfold offTime
  rw [hduty]

theorem maxPower_of_rule {a b : SubBand} (h : a.rule = b.rule) : a.maxPower = b.maxPower :=
  (congrArg SubBand.maxPower h :)

/-- Where the rules are the same, a frequency belongs to sub-bands under the same rule. -/
theorem find?_of_rules {now before : List SubBand} (h : now.map rule = before.map rule)
    {frequency : Nat} {b : SubBand} (hb : now.find? (·.contains frequency) = some b) :
    ∃ b₀, before.find? (·.contains frequency) = some b₀ ∧ b.rule = b₀.rule := by
  induction now generalizing before with
  | nil => cases hb
  | cons a rest ih =>
    cases before with
    | nil => cases h
    | cons a₀ rest₀ =>
      obtain ⟨hrule, hrest⟩ := List.cons_eq_cons.mp h
      -- Sub-bands of one rule have one range, so both searches stop at the same place.
      have hcontains := contains_of_rule hrule frequency
      cases hin : a.contains frequency with
      | true =>
        simp only [List.find?_cons, hin] at hb
        cases hb
        exact ⟨a₀, by simp only [List.find?_cons, ← hcontains, hin], hrule⟩
      | false =>
        simp only [List.find?_cons, hin] at hb
        obtain ⟨b₀, hb₀, heq⟩ := ih hrest hb
        exact ⟨b₀, by simp only [List.find?_cons, ← hcontains, hin]; exact hb₀, heq⟩

/-- Two frequencies in one sub-band stay in one sub-band as long as the rules stay. -/
theorem find?_eq_of_rules {now before : List SubBand} (h : now.map rule = before.map rule)
    {f g : Nat} {b₀ : SubBand} (hf : before.find? (·.contains f) = some b₀)
    (hg : before.find? (·.contains g) = some b₀) :
    now.find? (·.contains f) = now.find? (·.contains g) := by
  induction before generalizing now with
  | nil => cases hf
  | cons a₀ rest₀ ih =>
    cases now with
    | nil => cases h
    | cons a rest =>
      obtain ⟨hrule, hrest⟩ := List.cons_eq_cons.mp h
      have hcf := contains_of_rule hrule f
      have hcg := contains_of_rule hrule g
      have hbf : b₀.contains f = true := by simpa using List.find?_some hf
      have hbg : b₀.contains g = true := by simpa using List.find?_some hg
      cases hinf : a₀.contains f with
      | true =>
        simp only [List.find?_cons, hinf] at hf
        cases hf
        simp only [List.find?_cons, hcf, hcg, hbf, hbg]
      | false =>
        cases hing : a₀.contains g with
        | true =>
          -- The first sub-band would be the one of `g`, and so that of `f`.
          simp only [List.find?_cons, hing] at hg
          cases hg
          rw [hinf] at hbf
          cases hbf
        | false =>
          simp only [List.find?_cons, hinf] at hf
          simp only [List.find?_cons, hing] at hg
          simp only [List.find?_cons, hcf, hcg, hinf, hing]
          exact ih hrest hf hg

end SubBand

namespace Plan

theorem map_rule_updateFirst (frequency : Nat) {f : SubBand → SubBand}
    (hf : ∀ b, (f b).rule = b.rule) (bands : List SubBand) :
    (updateFirst frequency f bands).map SubBand.rule = bands.map SubBand.rule := by
  induction bands with
  | nil => rfl
  | cons b rest ih =>
    rw [updateFirst]
    split
    · rw [List.map_cons, List.map_cons, hf]
    · rw [List.map_cons, List.map_cons, ih]

/-- Registering a transmission leaves every frequency its sub-band. -/
theorem subBand?_register {p q : Plan} {now : Instant} {airtime : Duration} {changed : Nat}
    (h : p.register now airtime changed = .ok q) {frequency : Nat} {b : SubBand}
    (hb : p.subBand? frequency = some b) : ∃ b', q.subBand? frequency = some b' := by
  obtain ⟨_, rfl⟩ := register_eq_ok h
  have hrules := map_rule_updateFirst changed (f := (·.register now airtime)) (fun _ => rfl)
    p.subBands
  obtain ⟨b', hb', _⟩ := SubBand.find?_of_rules hrules.symm hb
  exact ⟨b', hb'⟩

end Plan

end LoraLink
