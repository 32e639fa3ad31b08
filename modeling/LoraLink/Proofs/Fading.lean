import LoraLink.Proofs.Acknowledgement
import LoraLink.Proofs.Shift

/-!
# Uplinks that nobody answers

How far a device has backed off depends on one thing only: how many new uplinks it has put on air
since it last heard from the network. Repeats do not count, nor does what is refused, and a frame
for somebody else is no answer.

In the European region the device asks for an answer from the 65th uplink on. With the 96th it goes
back to the default power, and then every 32 uplinks to the next slower data rate. One step later
than the slowest, it is on all default channels, and sends each uplink once. The count stops where
no step is due, so from then on the device stays as it is.
-/

namespace LoraLink

/-- The channels below `n` that are there may be picked for uplinks. -/
def Plan.AllOn (p : Plan) (n : Nat) : Prop :=
  ∀ i c, i < n → p.channel? i = some c → c.enabled = true

theorem Plan.SameChannels.allOn {p q : Plan} (h : p.SameChannels q) {n : Nat} (hon : p.AllOn n) :
    q.AllOn n := by
  intro i c hi hc
  rw [h i] at hc
  exact hon i c hi hc

/-- The request for an answer is read off the flag of an uplink. -/
theorem FrameControl.adrAckReq_of_up {c : FrameControl} (h : c.direction = .up) :
    c.adrAckReq = Byte.flag c.raw 6 := by
  unfold adrAckReq isUplink
  rw [decide_eq_true h, Bool.true_and]

namespace EndDevice

variable {r : Region}

/-! ## The default channels -/

/-- Enabling a channel that is there changes no other. -/
theorem channel?_setEnabled {p : Plan} {n i : Nat} {c : Channel}
    (hc : (match p.setEnabled n true with
      | .ok q => q
      | .error _ => p).channel? i = some c) :
    (i = n ∧ c.enabled = true) ∨ (i ≠ n ∧ p.channel? i = some c) := by
  unfold Plan.setEnabled at hc
  cases hq : p.modifyChannel? n fun c => { c with enabled := true } with
  | none =>
    rw [hq] at hc
    have hnone : p.channel? n = none := Option.map_eq_none_iff.mp hq
    -- There was no such channel, so the slot looked up is another one.
    right
    refine ⟨?_, hc⟩
    rintro rfl
    exact absurd (hnone.symm.trans hc) nofun
  | some q =>
    rw [hq] at hc
    obtain ⟨c', hc', rfl⟩ := Plan.modifyChannel?_eq_some hq
    dsimp only at hc
    rw [Plan.channel?_putSlot] at hc
    by_cases hin : n = i
    · rw [if_pos ⟨hin, Plan.channel?_lt hc'⟩] at hc
      cases hc
      exact Or.inl ⟨hin.symm, rfl⟩
    · rw [if_neg fun h => hin h.1] at hc
      exact Or.inr ⟨Ne.symm hin, hc⟩

theorem allOn_enableDefaults (p : Plan) (n : Nat) : (enableDefaults p n).AllOn n := by
  induction n with
  | zero => exact fun i _ hi => absurd hi (Nat.not_lt_zero i)
  | succ n ih =>
    intro i c hi hc
    -- The last of the channels is enabled after all the others.
    unfold enableDefaults at hc
    rw [List.range_succ, List.foldl_append] at hc
    rcases channel?_setEnabled hc with ⟨_, hon⟩ | ⟨hne, hc⟩
    · exact hon
    · exact ih i c (by omega) hc

/-! ## The step that is due -/

variable (r)

/-- What is due with a new uplink, and what becomes with it of the settings and the channels. -/
inductive Backed (d d' : EndDevice) : Prop where
  | rested (hpower : d.nextCount = r.adrAckLimit ∨ d.nextCount ≠ r.adrAckLimit + r.adrAckDelay)
      (hrate : ¬d.SlowsDown r) (settings : d'.settings = d.settings)
      (channels : d.plan.SameChannels d'.plan)
  | strengthened (h : d.nextCount = r.adrAckLimit + r.adrAckDelay)
      (power : d'.power r = r.defaultPower) (rate : d'.dataRate r = d.dataRate r)
      (transmissions : d'.settings.transmissions = d.settings.transmissions)
      (channels : d.plan.SameChannels d'.plan)
  | slowed (h : d.SlowsDown r) (power : d'.power r = d.power r)
      (rate : (d.dataRate r).lower? = some (d'.dataRate r))
      (transmissions : d'.settings.transmissions = d.settings.transmissions)
      (channels : d.plan.SameChannels d'.plan)
  | fellBack (h : d.SlowsDown r) (hnone : (d.dataRate r).lower? = none)
      (power : d'.power r = d.power r) (rate : d'.dataRate r = d.dataRate r)
      (transmissions : d'.settings.transmissions = 1)
      (channels : d'.plan.AllOn r.defaultFrequencies.length)

variable {r} {σ : Type} [Host σ]

theorem backed_of_launches {t : Turn σ} {d : EndDevice} (hadr : d.settings.adr = true)
    (h : t.launches r d = true) : Backed r d (t.after r d) := by
  obtain ⟨x, hx, hafter⟩ := uncounted_of_launches h
  have hrate : x.dataRate r = d.dataRate r := dataRate_of_settings hx.settings
  have hpower : x.power r = d.power r := power_of_settings hx.settings
  have htransmissions := congrArg Settings.transmissions hx.settings
  have hcount : min (x.adrAckCount + 1) maxAdrAckCount = d.nextCount := hx.nextCount
  have hdue := d.slowsDown_iff r
  rw [hafter]
  unfold countUplink
  rw [if_pos (by rw [hx.settings]; exact hadr), hcount]
  unfold backOff
  dsimp only
  -- The branches are those of the code: the limit, the first step, and every step after it.
  split
  · rename_i hlimit
    refine .rested (Or.inl hlimit) ?_ hx.settings hx.channels
    rw [hdue]
    exact fun hslow => hslow.2.1 hlimit
  rename_i hlimit
  split
  · rename_i hfirst
    exact .strengthened hfirst rfl hrate htransmissions hx.channels
  rename_i hfirst
  split
  · rename_i hlater
    have hslow : d.SlowsDown r := hdue.mpr ⟨hadr, hlimit, hfirst, hlater⟩
    split
    · rename_i rate hlower
      change (x.dataRate r).lower? = some rate at hlower
      rw [hrate] at hlower
      exact .slowed hslow hpower hlower htransmissions hx.channels
    · rename_i hnone
      change (x.dataRate r).lower? = none at hnone
      rw [hrate] at hnone
      exact .fellBack hslow hnone hpower hrate rfl (allOn_enableDefaults _ _)
  · rename_i hlater
    refine .rested (Or.inr hfirst) ?_ hx.settings hx.channels
    rw [hdue]
    exact fun hslow => hlater hslow.2.2.2

/-! ## The request for an answer -/

theorem adrAckReq_control {d : EndDevice} (hadr : d.settings.adr = true) :
    Byte.flag (d.control r).raw 6 = decide (r.adrAckLimit ≤ d.adrAckCount) := by
  unfold control
  dsimp only
  rw [if_pos hadr]
  refine (Byte.flag_withFlag_of_ne _ (by decide) (by decide) (by decide) _).trans ?_
  exact Byte.flag_withFlag _ (by decide) _

/-- An uplink asks for an answer just if the limit was reached before it. -/
theorem asks_of_transmission {t : Turn σ} {d : EndDevice} (hadr : d.settings.adr = true)
    {x : Transmission} (hx : x ∈ t.transmissions r d) :
    ∃ f, DataFrame.decode x.frame = .ok f ∧
      (f.header.control.adrAckReq = true ↔ r.adrAckLimit ≤ d.adrAckCount) := by
  obtain ⟨f, hdecode, hup, hflags⟩ := flags_of_transmission hx
  refine ⟨f, hdecode, ?_⟩
  rw [FrameControl.adrAckReq_of_up hup, hflags 6 (by decide), adrAckReq_control hadr,
    decide_eq_true_iff]

/-! ## The European region -/

/-- The new uplinks that a run puts on air. -/
def uplinks (r : Region) (d : EndDevice) : List (Turn σ) → Nat
  | [] => 0
  | t :: rest => (t.launches r d).toNat + (t.after r d).uplinks r rest

/-- A device that has put `k` new uplinks on air and got no answer to any, in terms of what it was
before. -/
structure Faded (d : EndDevice) (k : Nat) (e : EndDevice) : Prop where
  adr : e.settings.adr = true
  count : e.adrAckCount = min k 65535
  power : e.power .eu868 = if k < 96 then d.power .eu868 else Region.eu868.defaultPower
  rate : (e.dataRate .eu868).val =
    if k < 96 then (d.dataRate .eu868).val else (d.dataRate .eu868).val - (k - 96) / 32
  once : 96 + 32 * ((d.dataRate .eu868).val + 1) ≤ k → e.settings.transmissions = 1

theorem faded_start {d : EndDevice} (hadr : d.settings.adr = true) (hcount : d.adrAckCount = 0) :
    Faded d 0 d where
  adr := hadr
  count := hcount
  power := rfl
  rate := rfl
  once := fun h => by omega

theorem Faded.nextCount {d e : EndDevice} {k : Nat} (h : Faded d k e) :
    e.nextCount = min (k + 1) 65535 := by
  unfold EndDevice.nextCount maxAdrAckCount
  rw [h.count]
  omega

/-- The last count is one at which no step is due. -/
theorem Faded.slowsDown_iff {d e : EndDevice} {k : Nat} (h : Faded d k e) :
    e.SlowsDown .eu868 ↔ 128 ≤ k + 1 ∧ k + 1 ≤ 65535 ∧ (k + 1) % 32 = 0 := by
  have hlimit : Region.eu868.adrAckLimit = 64 := rfl
  have hdelay : Region.eu868.adrAckDelay = 32 := rfl
  unfold SlowsDown
  rw [h.nextCount, hlimit, hdelay]
  constructor
  · rintro ⟨_, _, j, hj, hdue⟩
    omega
  · rintro ⟨hlate, hcounted, hdue⟩
    exact ⟨h.adr, by decide, (k + 1 - 64) / 32, by omega, by omega⟩

theorem lower?_eq_some {rate slower : DataRate} (h : rate.lower? = some slower) :
    rate.val = slower.val + 1 := by
  obtain ⟨_ | n, hn⟩ := rate
  · cases h
  · cases h
    rfl

theorem lower?_eq_none {rate : DataRate} (h : rate.lower? = none) : rate.val = 0 := by
  obtain ⟨_ | n, hn⟩ := rate
  · rfl
  · cases h

/-- One more uplink, and the step that is due with it. -/
theorem Faded.backed {d e e' : EndDevice} {k : Nat} (h : Faded d k e) (hcounting : Counting e e')
    (hbacked : Backed .eu868 e e') : Faded d (k + 1) e' := by
  have hpower := h.power
  have hrate := h.rate
  have honce := h.once
  have hnext := h.nextCount
  have hslow := h.slowsDown_iff
  have hlast := (d.dataRate .eu868).isLt
  have hfull : Region.eu868.adrAckLimit + Region.eu868.adrAckDelay = 96 := rfl
  have hlimit : Region.eu868.adrAckLimit = 64 := rfl
  have hadr : e'.settings.adr = true := hcounting.adr.trans h.adr
  have hcount : e'.adrAckCount = min (k + 1) 65535 := (hcounting.count h.adr).trans hnext
  -- The count tells which step is due, and it fits the bounds of the schedule in each case.
  cases hbacked with
  | rested hfirst hnot settings _ =>
    rw [hslow] at hnot
    rw [hnext, hfull, hlimit] at hfirst
    refine ⟨hadr, hcount, ?_, ?_, ?_⟩
    · rw [power_of_settings settings, hpower]
      by_cases hk : k < 96
      · rw [if_pos hk, if_pos (by omega)]
      · rw [if_neg hk, if_neg (by omega)]
    · rw [dataRate_of_settings settings, hrate]
      split <;> split <;> omega
    · intro hk
      rw [settings]
      exact honce (by omega)
  | strengthened hfirst power rate transmissions _ =>
    rw [hnext, hfull] at hfirst
    refine ⟨hadr, hcount, ?_, ?_, fun hk => by omega⟩
    · rw [power, if_neg (by omega)]
    · rw [rate, hrate]
      split <;> split <;> omega
  | slowed hdue power rate transmissions _ =>
    rw [hslow] at hdue
    have hval := lower?_eq_some rate
    rw [if_neg (by omega)] at hrate hpower
    refine ⟨hadr, hcount, ?_, ?_, ?_⟩
    · rw [power, hpower, if_neg (by omega)]
    · rw [if_neg (by omega)]
      omega
    · intro hk
      rw [transmissions]
      exact honce (by omega)
  | fellBack hdue hnone power rate transmissions _ =>
    rw [hslow] at hdue
    have hval := lower?_eq_none hnone
    rw [if_neg (by omega)] at hrate hpower
    refine ⟨hadr, hcount, ?_, ?_, fun _ => transmissions⟩
    · rw [power, hpower, if_neg (by omega)]
    · rw [rate, if_neg (by omega)]
      omega

omit [Host σ] in
theorem Faded.unmoved {d e e' : EndDevice} {k : Nat} (h : Faded d k e) {t : Turn σ}
    (hunmoved : Unmoved t e e') : Faded d k e' where
  adr := by rw [hunmoved.settings]; exact h.adr
  count := hunmoved.count.trans h.count
  power := (power_of_settings hunmoved.settings).trans h.power
  rate := by rw [hunmoved.dataRate]; exact h.rate
  once := by rw [hunmoved.settings]; exact h.once

/-- **A call that brings no downlink takes the device one uplink further, or leaves it where it
is.** -/
theorem faded_step {d e : EndDevice} {k : Nat} (h : Faded d k e) {t : Turn σ}
    (hdeaf : t.downlink? e = none) :
    Faded d (k + (t.launches .eu868 e).toNat) (t.after .eu868 e) := by
  cases hlaunch : t.launches .eu868 e with
  | true => exact h.backed (counting_of_launches hlaunch) (backed_of_launches h.adr hlaunch)
  | false => exact h.unmoved (EndDevice.unmoved hlaunch hdeaf)

theorem faded_run {d e : EndDevice} {k : Nat} (h : Faded d k e) {ts : List (Turn σ)}
    (hdeaf : e.downlinks .eu868 ts = []) :
    Faded d (k + e.uplinks .eu868 ts) (e.afterAll .eu868 ts) := by
  induction ts generalizing e k with
  | nil => exact h
  | cons t rest ih =>
    obtain ⟨hfirst, hrest⟩ := List.append_eq_nil_iff.mp hdeaf
    have hstep := faded_step h (Option.toList_eq_nil_iff.mp hfirst)
    rw [uplinks, ← Nat.add_assoc]
    exact ih hstep hrest

/-! ## The channels of a device that has fallen back -/

/-- Once a device has fallen back, it is on all default channels, as long as only backing off
changes them. -/
def Reopened (d : EndDevice) (k : Nat) (e : EndDevice) : Prop :=
  96 + 32 * ((d.dataRate .eu868).val + 1) ≤ k →
    e.plan.AllOn Region.eu868.defaultFrequencies.length

theorem reopened_step {d e : EndDevice} {k : Nat} (h : Faded d k e) (hopen : Reopened d k e)
    {t : Turn σ} (hdeaf : t.downlink? e = none) (hkeep : t.op.isEdit = false) :
    Reopened d (k + (t.launches .eu868 e).toNat) (t.after .eu868 e) := by
  intro hk
  cases hlaunch : t.launches .eu868 e with
  | false =>
    rw [hlaunch] at hk
    exact ((EndDevice.unmoved hlaunch hdeaf).channels hkeep).allOn (hopen hk)
  | true =>
    rw [hlaunch] at hk
    have hrate := h.rate
    have hslow := h.slowsDown_iff
    have hnext := h.nextCount
    have hlt := (d.dataRate .eu868).isLt
    have hfull : Region.eu868.adrAckLimit + Region.eu868.adrAckDelay = 96 := rfl
    change _ ≤ k + 1 at hk
    cases backed_of_launches h.adr hlaunch with
    | rested _ hnot _ channels =>
      rw [hslow] at hnot
      exact channels.allOn (hopen (by omega))
    | strengthened hfirst _ _ _ channels =>
      rw [hnext, hfull] at hfirst
      exact channels.allOn (hopen (by omega))
    | slowed hdue _ rate _ channels =>
      -- There is still a slower data rate, so it is not that late.
      rw [hslow] at hdue
      have hval := lower?_eq_some rate
      rw [if_neg (by omega)] at hrate
      exact channels.allOn (hopen (by omega))
    | fellBack _ _ _ _ _ channels => exact channels

theorem reopened_run {d e : EndDevice} {k : Nat} (h : Faded d k e) (hopen : Reopened d k e)
    {ts : List (Turn σ)} (hdeaf : e.downlinks .eu868 ts = [])
    (hkeep : ∀ t ∈ ts, t.op.isEdit = false) :
    Reopened d (k + e.uplinks .eu868 ts) (e.afterAll .eu868 ts) := by
  induction ts generalizing e k with
  | nil => exact hopen
  | cons t rest ih =>
    obtain ⟨hfirst, hrest⟩ := List.append_eq_nil_iff.mp hdeaf
    have hnone := Option.toList_eq_nil_iff.mp hfirst
    have hstep := reopened_step h hopen hnone (hkeep t List.mem_cons_self)
    rw [uplinks, ← Nat.add_assoc]
    exact ih (faded_step h hnone) hstep hrest fun u hu => hkeep u (List.mem_cons_of_mem t hu)

/-! ## The schedule -/

/-- What a call that brings no downlink does to a device that has got no answer to `k` uplinks. -/
structure Fades (t : Turn σ) (k : Nat) (e : EndDevice) : Prop where
  /-- The next new uplink is the one after the `k`-th. -/
  asks : t.launches .eu868 e = true → ∃ x f, t.transmissions .eu868 e = [x] ∧
    DataFrame.decode x.frame = .ok f ∧ (f.header.control.adrAckReq = true ↔ 64 < k + 1)
  reports : t.shifts .eu868 e = changes .eu868 e (t.after .eu868 e)
  /-- When the count has reached its end, uplinks are no more than counted. -/
  rests : 65535 ≤ k → (t.after .eu868 e).settings = e.settings ∧
    (t.op.isEdit = false → e.plan.SameChannels (t.after .eu868 e).plan)

/-- A call that puts a new uplink on air puts just its frame there. -/
theorem transmissions_of_launches {t : Turn σ} {d : EndDevice} (h : t.launches r d = true) :
    ∃ x, t.transmissions r d = [x] := by
  obtain ⟨_, hok⟩ := t.result_of_launches r h
  obtain ⟨_, _, _, _, hop, _, _⟩ := launches_cases h
  obtain ⟨a, _, hone⟩ := launched_airing hop hok
  exact ⟨_, hone⟩

theorem Faded.fades {d e : EndDevice} {k : Nat} (h : Faded d k e) {t : Turn σ}
    (hdeaf : t.downlink? e = none) : Fades t k e := by
  refine ⟨fun hlaunch => ?_, shifts_of_deaf hdeaf, fun hk => ?_⟩
  · obtain ⟨x, hone⟩ := transmissions_of_launches hlaunch
    obtain ⟨f, hdecode, hasks⟩ := asks_of_transmission h.adr (r := .eu868) (t := t) (x := x)
      (by rw [hone]; exact List.mem_singleton_self x)
    refine ⟨x, f, hone, hdecode, hasks.trans ?_⟩
    have hlimit : Region.eu868.adrAckLimit = 64 := rfl
    rw [h.count, hlimit]
    omega
  · cases hlaunch : t.launches .eu868 e with
    | false =>
      have hunmoved := EndDevice.unmoved hlaunch hdeaf
      exact ⟨hunmoved.settings, hunmoved.channels⟩
    | true =>
      have hslow := h.slowsDown_iff
      have hnext := h.nextCount
      have hfull : Region.eu868.adrAckLimit + Region.eu868.adrAckDelay = 96 := rfl
      -- The count tells which step is due; the others contradict it.
      cases backed_of_launches h.adr hlaunch with
      | rested _ _ settings channels => exact ⟨settings, fun _ => channels⟩
      | strengthened hfirst _ _ _ _ => omega
      | slowed hdue _ _ _ _ =>
        rw [hslow] at hdue
        omega
      | fellBack hdue _ _ _ _ _ =>
        rw [hslow] at hdue
        omega

theorem downlinks_append (d : EndDevice) (ts us : List (Turn σ)) :
    d.downlinks r (ts ++ us) = d.downlinks r ts ++ (d.afterAll r ts).downlinks r us := by
  induction ts generalizing d with
  | nil => rfl
  | cons t rest ih =>
    rw [List.cons_append, downlinks, ih (t.after r d), ← List.append_assoc]
    rfl

/--
**Without an answer, a device in the European region backs off on a fixed schedule.**

The network controls the data rate of the device, and no uplink was counted yet. Then any calls
come, by hosts of any kind, and however they end, but none brings a downlink. What has become of
the device depends only on how many new uplinks it has put on air: its count, which stops at its
limit; its power, which is the default from the 96th on; its data rate, which from there on is one
slower every 32 uplinks, until it is the slowest; and, one step later, that each uplink is sent
once, and, if nobody edits the plan, on all default channels that are there.

The first frame of an uplink asks for an answer just if it is at least the 65th. In every call, the
changes of data rate and power that are reported are just those that are there.
-/
theorem backs_off_on_schedule {d : EndDevice} {ts : List (Turn σ)} (hadr : d.settings.adr = true)
    (hcount : d.adrAckCount = 0) (hdeaf : d.downlinks .eu868 ts = []) :
    Faded d (d.uplinks .eu868 ts) (d.afterAll .eu868 ts) ∧
      ((∀ t ∈ ts, t.op.isEdit = false) →
        Reopened d (d.uplinks .eu868 ts) (d.afterAll .eu868 ts)) ∧
      ∀ pre t post, ts = pre ++ t :: post →
        Fades t (d.uplinks .eu868 pre) (d.afterAll .eu868 pre) := by
  have hstart := faded_start hadr hcount
  have hnone : Reopened d 0 d := fun hk => by omega
  have hrun : ∀ {us : List (Turn σ)}, d.downlinks .eu868 us = [] →
      Faded d (d.uplinks .eu868 us) (d.afterAll .eu868 us) := by
    intro us hquiet
    have h := faded_run hstart hquiet
    rwa [Nat.zero_add] at h
  refine ⟨hrun hdeaf, fun hkeep => ?_, ?_⟩
  · have h := reopened_run hstart hnone hdeaf hkeep
    rwa [Nat.zero_add] at h
  · rintro pre t post rfl
    rw [downlinks_append] at hdeaf
    obtain ⟨hbefore, hfrom⟩ := List.append_eq_nil_iff.mp hdeaf
    obtain ⟨hfirst, _⟩ := List.append_eq_nil_iff.mp hfrom
    exact (hrun hbefore).fades (Option.toList_eq_nil_iff.mp hfirst)

/-! ### A device that nobody ever answers -/

/-- Without an answer a device gets slower at most, and keeps its channels for what is slower. -/
theorem Outlasts.persists {d d' : EndDevice} (h : Outlasts r d d') :
    d'.dataRate r ≤ d.dataRate r ∧ ∀ rate, d.plan.Serves rate → d'.plan.Serves rate := by
  -- A step slows the device down, or it turns channels on, but it never turns any off.
  by_cases hslows : d.SlowsDown r
  · cases hlower : (d.dataRate r).lower? with
    | some slower =>
      obtain ⟨hrate, hchannels⟩ := h.slowed slower hslows hlower
      have hval := lower?_eq_some hlower
      refine ⟨?_, fun rate => hchannels.serves_iff.mpr⟩
      rw [hrate, Fin.le_def]
      omega
    | none =>
      obtain ⟨hrate, hkept⟩ := h.slowest hslows hlower
      refine ⟨Fin.le_of_eq hrate, ?_⟩
      rintro rate ⟨i, c, hc, hon, hsupports⟩
      exact ⟨i, c, hkept i c hc hon, hon, hsupports⟩
  · obtain ⟨hrate, hchannels⟩ := h.steady hslows
    exact ⟨Fin.le_of_eq hrate, fun rate => hchannels.serves_iff.mpr⟩

/-- A device that may send whenever no exchange is open, however slow it gets. -/
structure Tireless (d : EndDevice) : Prop where
  sound : Sound d
  closed : d.rxWindowsPending = false
  share : ¬d.settings.aggregatedDutyCycle.share ≤ 0.0
  served : ∀ rate ≤ d.dataRate .eu868, d.plan.Serves rate

/-- One more uplink goes out, and its exchange is over without an answer. -/
theorem Tireless.uplink {d : EndDevice} (h : Tireless d) :
    ∃ ts : List (Turn Solo), d.uplinks .eu868 ts = 1 ∧ d.downlinks .eu868 ts = [] ∧
      (∀ t ∈ ts, t.op.isEdit = false) ∧ Tireless (d.afterAll .eu868 ts) := by
  have hlaunch := oneByte_launches h.sound h.closed (h.served _ (Fin.le_refl _)) h.share
  obtain ⟨hrate, hserves⟩ := (outlasts_of_launches hlaunch).persists
  have hcounting := counting_of_launches hlaunch
  obtain ⟨hwindows, hdeferred⟩ := hcounting.settled h.closed
  have hsound : Sound (oneByte.after .eu868 d) :=
    sound_step h.sound oneByte fun _ hop => (by cases hop)
  -- The exchange is brought to its end without any downlink.
  obtain ⟨i, j, s₁, s₂, s₃, hlanded, hfirst, hsecond, hover, hlink⟩ :=
    exists_conclusion hsound hcounting.on hwindows hdeferred
  let ts : List (Turn Solo) := [oneByte, atLast .sleep .txFinished,
    atLast .rx (.alarm i .openRx1), atLast .rx (.alarm j .openRx2)]
  -- Each call is known by what it leaves behind, so the run is put together from them.
  have hafter : d.afterAll .eu868 ts = s₃.node := by
    change Turn.after .eu868 _ (Turn.after .eu868 _ (Turn.after .eu868 _ _)) = _
    unfold Turn.after
    rw [show Turn.made .eu868 (atLast .sleep .txFinished) (Turn.made .eu868 oneByte d).2.node = _
      from hlanded]
    dsimp only
    rw [hfirst]
    dsimp only
    rw [hsecond]
  have hkeep : ∀ t ∈ ts, t.op.isEdit = false := by
    intro t ht
    simp only [ts, List.mem_cons, List.not_mem_nil, or_false] at ht
    rcases ht with rfl | rfl | rfl | rfl <;> rfl
  have hsettings : s₃.node.settings = (oneByte.after .eu868 d).settings :=
    (congrArg EndDevice.settings hlink :)
  have hplan : s₃.node.plan = (oneByte.after .eu868 d).plan := (congrArg EndDevice.plan hlink :)
  have hsame : s₃.node.dataRate .eu868 = (oneByte.after .eu868 d).dataRate .eu868 :=
    dataRate_of_settings hsettings
  refine ⟨ts, ?_, rfl, hkeep, ?_⟩
  · rw [uplinks, hlaunch]
    rfl
  · refine ⟨?_, ?_, ?_, ?_⟩
    · refine sound_run h.sound fun t ht plan hop => ?_
      have hedit := hkeep t ht
      rw [hop] at hedit
      cases hedit
    · rw [hafter]
      exact hover
    · rw [hafter, hsettings, hcounting.duty]
      exact h.share
    · intro rate hle
      rw [hafter] at hle ⊢
      rw [hplan]
      rw [hsame] at hle
      exact hserves rate (h.served rate (Fin.le_trans hle hrate))

theorem uplinks_append (d : EndDevice) (ts us : List (Turn σ)) :
    d.uplinks r (ts ++ us) = d.uplinks r ts + (d.afterAll r ts).uplinks r us := by
  induction ts generalizing d with
  | nil => exact (Nat.zero_add _).symm
  | cons t rest ih =>
    rw [List.cons_append, uplinks, uplinks, ih (t.after r d), Nat.add_assoc]
    rfl

/-- So it goes on, as often as one likes. -/
theorem Tireless.run {d : EndDevice} (h : Tireless d) (n : Nat) :
    ∃ ts : List (Turn Solo), d.uplinks .eu868 ts = n ∧ d.downlinks .eu868 ts = [] ∧
      (∀ t ∈ ts, t.op.isEdit = false) ∧ Tireless (d.afterAll .eu868 ts) := by
  -- By induction on the number of uplinks, since each leaves a device that can send another.
  induction n with
  | zero => exact ⟨[], rfl, rfl, fun _ ht => (by cases ht), h⟩
  | succ n ih =>
    obtain ⟨ts, hup, hdeaf, hkeep, hts⟩ := ih
    obtain ⟨us, hup', hdeaf', hkeep', hus⟩ := hts.uplink
    refine ⟨ts ++ us, ?_, ?_, ?_, ?_⟩
    · rw [uplinks_append, hup, hup']
    · rw [downlinks_append, hdeaf, hdeaf']
      rfl
    · intro t ht
      rcases List.mem_append.mp ht with h | h
      · exact hkeep t h
      · exact hkeep' t h
    · rw [afterAll_append]
      exact hus

/-- An uplink that is on air twice counts once, and one that is refused does not count. After 224
uplinks without an answer, a device that began at data rate 3 has taken all steps there are. -/
theorem backs_off_on_schedule_unanswered :
    let d := initial ⟨5⟩ { adr := true, txDataRate := some 3, txPower := some 2, transmissions := 3 }
      Region.eu868.defaultPlan
    let refused := Turn.onBench 6 (.send [4] 0 false)
    let us := unansweredRun ++ [refused, .onBench 200 (.alarm ⟨0⟩ .retransmit)]
    (d.uplinks .eu868 us = 1 ∧ (d.transmissions .eu868 us).length = 2 ∧
      (d.afterAll .eu868 us).adrAckCount = 1 ∧
      ((d.afterAll .eu868 us).dataRate .eu868).val = 3) ∧
    ∃ ts : List (Turn Solo), d.uplinks .eu868 ts = 224 ∧
      (d.afterAll .eu868 ts).adrAckCount = 224 ∧ (d.afterAll .eu868 ts).power .eu868 = 14 ∧
      ((d.afterAll .eu868 ts).dataRate .eu868).val = 0 ∧
      (d.afterAll .eu868 ts).settings.transmissions = 1 ∧ (d.afterAll .eu868 ts).plan.AllOn 3 ∧
      ∀ pre t post, ts = pre ++ t :: post →
        Fades t (d.uplinks .eu868 pre) (d.afterAll .eu868 pre) := by
  intro d refused us
  refine ⟨?_, ?_⟩
  · have hone : d.uplinks .eu868 us = 1 := by decide +kernel
    have hdeaf : d.downlinks .eu868 us = [] := by decide +kernel
    obtain ⟨hfaded, _, _⟩ := backs_off_on_schedule rfl rfl hdeaf
    rw [hone] at hfaded
    exact ⟨hone, by decide +kernel, hfaded.count, hfaded.rate⟩
  · have hsettings : Settings.Valid d.settings :=
      ⟨fun _ h => (by cases h; decide), fun _ h => (by cases h), fun _ h => (by cases h)⟩
    -- One channel of the default plan serves all data rates up to 3, and more.
    have hserved : ∀ rate ≤ (3 : DataRate), d.plan.Serves rate := by
      intro rate hle
      exact ⟨0, _, rfl, by decide, by revert rate; decide⟩
    have htireless : Tireless d :=
      ⟨sound_init hsettings _ eu868_covered, by decide, by decide +kernel, hserved⟩
    obtain ⟨ts, hup, hdeaf, hkeep, _⟩ := htireless.run 224
    obtain ⟨hfaded, hreopened, hfades⟩ := backs_off_on_schedule rfl rfl hdeaf
    have hopen := hreopened hkeep
    rw [hup] at hfaded hopen
    exact ⟨ts, hup, hfaded.count, hfaded.power, hfaded.rate, hfaded.once (by decide),
      hopen (by decide), hfades⟩

end EndDevice

end LoraLink
