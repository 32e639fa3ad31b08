import Mathlib.Algebra.Order.Field.Rat
import Mathlib.Tactic.FieldSimp
import Mathlib.Tactic.Linarith
import LoraLink.Gateway
import LoraLink.Proofs.Legality

/-!
# How long a sub-band is occupied

The duty cycle of a sub-band is the share of time it may be occupied. The silence that a
transmission has to leave behind is what remains when its airtime is taken out of the span of which
it is that share. It is counted from the start of the transmission. But at its start the airtime is
still to come, so the next transmission may start an airtime too early.

Where a share `q` is allowed, a sub-band can thus be occupied for `q / (1 - q)` of the time, and
that is exact: a little more than a hundredth for a hundredth, and all the time from one half on.
What is not lost is the order. Whatever is sent in other sub-bands in between, and however long the
frames are, the silences add up, for each pair of transmissions in a row keeps its own.
-/

namespace LoraLink

namespace Plan

/-! ## Transmissions when there is nothing to wait for -/

/-- The plan after a transmission, if it starts when there is nothing to wait for. -/
def transmit? (p : Plan) (x : Transmission) : Option Plan :=
  match p.waitingTime x.start x.config.frequency with
  | .ok wait =>
    if wait.isZero then (p.register x.start x.airtime x.config.frequency).toOption else none
  | .error _ => none

/-- The plan after transmissions one after the other, none of which had to wait. -/
def transmitAll? (p : Plan) : List Transmission → Option Plan
  | [] => some p
  | x :: rest => (p.transmit? x).bind (·.transmitAll? rest)

/-- Of some transmissions, those in a sub-band. -/
def within (p : Plan) (b : SubBand) (xs : List Transmission) : List Transmission :=
  xs.filter fun x => p.subBand? x.config.frequency = some b

theorem transmit?_eq_some {p q : Plan} {x : Transmission} (h : p.transmit? x = some q) :
    ∃ b, p.subBand? x.config.frequency = some b ∧ (b.waitingTime x.start).isZero = true ∧
      p.register x.start x.airtime x.config.frequency = .ok q := by
  unfold transmit? at h
  cases hwait : p.waitingTime x.start x.config.frequency with
  | error f =>
    rw [hwait] at h
    cases h
  | ok wait =>
    rw [hwait] at h
    -- The sub-band that was asked for the wait is the one that is registered with.
    obtain ⟨b, hb, rfl⟩ := waitingTime_eq_ok hwait
    dsimp only at h
    by_cases hopen : (b.waitingTime x.start).isZero = true
    case neg =>
      rw [if_neg hopen] at h
      cases h
    rw [if_pos hopen] at h
    cases hregister : p.register x.start x.airtime x.config.frequency with
    | error f =>
      rw [hregister] at h
      cases h
    | ok q' =>
      rw [hregister] at h
      cases h
      exact ⟨b, hb, hopen, rfl⟩

theorem Disciplined.transmit {p₀ p q : Plan} {past : List Transmission} {x : Transmission}
    (h : Disciplined p₀ past p) (hx : p.transmit? x = some q) :
    Disciplined p₀ (past ++ [x]) q := by
  obtain ⟨b, hb, hopen, hregister⟩ := transmit?_eq_some hx
  exact h.register hb hopen hregister

theorem Disciplined.transmitAll {p₀ p q : Plan} {past xs : List Transmission}
    (h : Disciplined p₀ past p) (hxs : p.transmitAll? xs = some q) :
    Disciplined p₀ (past ++ xs) q := by
  induction xs generalizing past p with
  | nil =>
    cases hxs
    rw [List.append_nil]
    exact h
  | cons x rest ih =>
    obtain ⟨p', hx, hrest⟩ := Option.bind_eq_some_iff.mp hxs
    have hstep := ih (h.transmit hx) hrest
    rw [List.append_assoc] at hstep
    exact hstep

/-! ## Sums of silences -/

/-- The airtime of some transmissions, in microseconds. -/
def totalAirtime (xs : List Transmission) : Nat := (xs.map fun x => x.airtime.micros).sum

/-- The silence that some transmissions ask for, in microseconds. -/
def totalSilence (b : SubBand) (xs : List Transmission) : Nat :=
  (xs.map fun x => (b.offTime x.airtime).micros).sum

/-- From one transmission in a sub-band to another, all silences find room one after the other. -/
theorem totalSilence_le {b : SubBand} {e x : Transmission} {mid : List Transmission}
    (h : (e :: (mid ++ [x])).Pairwise fun y z : Transmission =>
      y.start + b.offTime y.airtime ≤ z.start)
    (hend : x.start.micros < horizon) :
    e.start.micros + totalSilence b (e :: mid) ≤ x.start.micros := by
  -- An instant past the horizon is cut off to it. None here is, since `x` starts before.
  induction mid generalizing e with
  | nil =>
    have hnext := (List.pairwise_cons.mp h).1 x (by simp)
    rw [Instant.le_def, Instant.micros_add] at hnext
    simp only [totalSilence, List.map_cons, List.map_nil, List.sum_cons, List.sum_nil]
    omega
  | cons m mid ih =>
    obtain ⟨hfirst, hrest⟩ := List.pairwise_cons.mp h
    have hnext := hfirst m (by simp)
    have hlater := ih hrest
    rw [Instant.le_def, Instant.micros_add] at hnext
    simp only [totalSilence, List.map_cons, List.sum_cons] at hlater ⊢
    omega

/-- The span of which the airtime is the share `q` is rounded to the nearest microsecond. -/
def Rounded (b : SubBand) (q : ℚ) (x : Transmission) : Prop :=
  |((x.airtime.divideBy b.dutyCycle.share).micros : ℚ) - x.airtime.micros / q| ≤ 1 / 2

theorem Rounded.airtime_le {b : SubBand} {q : ℚ} {x : Transmission} (hq : 0 < q)
    (h : Rounded b q x) :
    (1 - q) * x.airtime.micros ≤ q * ((b.offTime x.airtime).micros + 1 / 2) := by
  have hround := (abs_le.mp h).1
  -- A span shorter than the airtime leaves no silence, and the bound is then all the weaker.
  have hspan : (x.airtime.divideBy b.dutyCycle.share).micros ≤
      (b.offTime x.airtime).micros + x.airtime.micros := by
    unfold SubBand.offTime
    rw [Duration.micros_sub]
    omega
  have hspan' : ((x.airtime.divideBy b.dutyCycle.share).micros : ℚ) ≤
      (b.offTime x.airtime).micros + x.airtime.micros := by exact_mod_cast hspan
  have hshare : q * (x.airtime.micros / q) = x.airtime.micros := by field_simp
  nlinarith

/-- The airtime is bounded by the silences. -/
theorem totalAirtime_le {b : SubBand} {q : ℚ} {xs : List Transmission} (hq : 0 < q)
    (h : ∀ x ∈ xs, Rounded b q x) :
    (1 - q) * totalAirtime xs ≤ q * (totalSilence b xs + xs.length / 2) := by
  induction xs with
  | nil => simp [totalAirtime, totalSilence]
  | cons x rest ih =>
    have hx := (h x (by simp)).airtime_le hq
    have hrest := ih fun y hy => h y (List.mem_cons_of_mem x hy)
    simp only [totalAirtime, totalSilence, List.map_cons, List.sum_cons, List.length_cons,
      Nat.cast_add, Nat.cast_one] at hrest ⊢
    linarith

/-! ## The share of time a sub-band is occupied -/

/-- In a sub-band, each transmission keeps the silence of all before it. -/
theorem Disciplined.within {p₀ p : Plan} {xs : List Transmission} (h : Disciplined p₀ xs p)
    (b : SubBand) : (p₀.within b xs).Pairwise fun y z : Transmission =>
      y.start + b.offTime y.airtime ≤ z.start := by
  have hspaced : (p₀.within b xs).Pairwise (Spaced p₀) := h.spaced.filter _
  refine hspaced.imp_of_mem ?_
  intro y z hy hz hyz
  have hyband : p₀.subBand? y.config.frequency = some b :=
    of_decide_eq_true (List.mem_filter.mp hy).2
  have hzband : p₀.subBand? z.config.frequency = some b :=
    of_decide_eq_true (List.mem_filter.mp hz).2
  exact hyz b hyband hzband

/--
**A sub-band with the duty cycle `q` is occupied for at most `q / (1 - q)` of the time.**

Transmissions of any length are sent in any sub-bands, each when there is nothing to wait for. In
one sub-band they begin with `e` and end with `x`, which starts before the clock comes to its end.
Then from the start of `e` to that of `x` the airtime is within the bound, up to half a microsecond
for each silence.
-/
theorem occupancy_bounded {p₀ p : Plan} {xs mid : List Transmission} {b : SubBand} {q : ℚ}
    {e x : Transmission} (hrun : p₀.transmitAll? xs = some p)
    (hown : p₀.within b xs = e :: (mid ++ [x])) (hq : 0 < q)
    (hround : ∀ y ∈ e :: mid, Rounded b q y) (hend : x.start.micros < horizon) :
    (1 - q) * totalAirtime (e :: mid) ≤
      q * ((x.start.micros - e.start.micros : ℚ) + (mid.length + 1) / 2) := by
  have hdisciplined := (disciplined_init p₀).transmitAll hrun
  have hsilent := hdisciplined.within b
  rw [List.nil_append, hown] at hsilent
  -- Every frame but the last is followed by its silence, all before the last one starts.
  have hroom := totalSilence_le hsilent hend
  have hroom' : (e.start.micros : ℚ) + totalSilence b (e :: mid) ≤ x.start.micros := by
    exact_mod_cast hroom
  -- Each silence is short of the exact one by at most half a microsecond.
  have hairtime := totalAirtime_le hq hround
  rw [List.length_cons, Nat.cast_add, Nat.cast_one] at hairtime
  have hle : (totalSilence b (e :: mid) : ℚ) + ((mid.length : ℚ) + 1) / 2 ≤
      (x.start.micros - e.start.micros : ℚ) + (mid.length + 1) / 2 := by linarith
  calc (1 - q) * totalAirtime (e :: mid)
      ≤ q * (totalSilence b (e :: mid) + ((mid.length : ℚ) + 1) / 2) := hairtime
    _ ≤ q * ((x.start.micros - e.start.micros : ℚ) + (mid.length + 1) / 2) :=
        mul_le_mul_of_nonneg_left hle hq.le

/-! ## A hundredth of the time -/

/-- A transmission whose start and airtime are given in seconds. -/
def lasting (start airtime frequency : Nat) : Transmission where
  start := .ofSeconds start
  airtime := .ofSeconds airtime
  config := Gateway.transmitConfig .eu868 14 frequency ⟨.sf7, .khz125⟩
  frame := []

/-- The sub-band of the default channels. -/
def hundredth : SubBand :=
  { firstFrequency := 868000000, lastFrequency := 868600000, dutyCycle := .ofFloat 0.01,
    maxPower := 14 }

/-- Two seconds are a hundredth of 200 seconds. -/
theorem rounded_hundredth (start frequency : Nat) :
    Rounded hundredth (1 / 100) (lasting start 2 frequency) := by
  have hspan : (Duration.ofSeconds 2).divideBy hundredth.dutyCycle.share = .ofSeconds 200 := by
    decide +kernel
  have hlong : (Duration.ofSeconds 200).micros = 200000000 := by decide
  have hshort : (Duration.ofSeconds 2).micros = 2000000 := by decide
  unfold Rounded lasting
  dsimp only
  rw [hspan, hlong, hshort]
  norm_num

/-- Three transmissions in the sub-band, and one in another in between. -/
def mixedRun : List Transmission :=
  [lasting 0 2 868100000, lasting 1 1 869525000, lasting 198 2 868300000, lasting 400 1 868500000]

theorem within_mixedRun : Region.eu868.defaultPlan.within hundredth mixedRun =
    lasting 0 2 868100000 :: ([lasting 198 2 868300000] ++ [lasting 400 1 868500000]) := by
  have hinside : ∀ f ∈ [868100000, 868300000, 868500000],
      Region.eu868.defaultPlan.subBand? f = some hundredth := by decide +kernel
  have houtside : Region.eu868.defaultPlan.subBand? 869525000 ≠ some hundredth := by
    decide +kernel
  simp [within, mixedRun, lasting, Gateway.transmitConfig, hinside, houtside]

/-- What is sent in another sub-band makes no difference. -/
theorem occupancy_bounded_mixedRun :
    let e := lasting 0 2 868100000
    let mid := [lasting 198 2 868300000]
    let x := lasting 400 1 868500000
    (Region.eu868.defaultPlan.transmitAll? mixedRun).isSome = true ∧
      Region.eu868.defaultPlan.within hundredth mixedRun = e :: (mid ++ [x]) ∧
      (1 - 1 / 100) * totalAirtime (e :: mid) ≤
        (1 / 100 : ℚ) * ((x.start.micros - e.start.micros : ℚ) + (mid.length + 1) / 2) := by
  intro e mid x
  have hrun : (Region.eu868.defaultPlan.transmitAll? mixedRun).isSome = true := by decide +kernel
  obtain ⟨p, hp⟩ := Option.isSome_iff_exists.mp hrun
  have hround : ∀ y ∈ e :: mid, Rounded hundredth (1 / 100) y := by
    intro y hy
    rcases List.mem_cons.mp hy with rfl | hy
    · exact rounded_hundredth 0 868100000
    · obtain rfl := List.mem_singleton.mp hy
      exact rounded_hundredth 198 868300000
  exact ⟨hrun, within_mixedRun,
    occupancy_bounded hp within_mixedRun (by norm_num) hround (by decide)⟩

/--
The duty cycle itself is no bound. Two seconds on air are followed by a transmission 198 seconds
after their start, and a hundredth of 198 seconds is less than two, by more than can be put down to
rounding.
-/
theorem occupancy_exceeds_dutyCycle :
    ¬∀ (p₀ p : Plan) (xs mid : List Transmission) (b : SubBand) (q : ℚ) (e x : Transmission),
      0 < q → q ≤ 1 → xs.Pairwise (fun y z => y.start ≤ z.start) →
      p₀.transmitAll? xs = some p → p₀.within b xs = e :: (mid ++ [x]) →
      (∀ y ∈ e :: (mid ++ [x]), Rounded b q y) →
      (totalAirtime (e :: mid) : ℚ) ≤
        q * (x.start.micros - e.start.micros : ℚ) + (mid.length + 2) := by
  intro h
  let e := lasting 0 2 868100000
  let x := lasting 198 2 868100000
  have hrun : (Region.eu868.defaultPlan.transmitAll? [e, x]).isSome = true := by decide +kernel
  obtain ⟨p, hp⟩ := Option.isSome_iff_exists.mp hrun
  have hinside : Region.eu868.defaultPlan.subBand? 868100000 = some hundredth := by
    decide +kernel
  have hown : Region.eu868.defaultPlan.within hundredth [e, x] = e :: ([] ++ [x]) := by
    simp [within, e, x, lasting, Gateway.transmitConfig, hinside]
  have hordered : [e, x].Pairwise (fun y z => y.start ≤ z.start) := by
    refine List.pairwise_pair.mpr ?_
    decide
  have hround : ∀ y ∈ e :: ([] ++ [x]), Rounded hundredth (1 / 100) y := by
    intro y hy
    rcases List.mem_cons.mp hy with rfl | hy
    · exact rounded_hundredth 0 868100000
    · obtain rfl := List.mem_singleton.mp hy
      exact rounded_hundredth 198 868100000
  -- Two million microseconds against 1 980 000, and two more for the rounding.
  have hbound := h Region.eu868.defaultPlan p [e, x] [] hundredth (1 / 100) e x (by norm_num)
    (by norm_num) hordered hp hown hround
  have hairtime : totalAirtime [e] = 2000000 := by decide
  have hstart : e.start.micros = 0 := by decide
  have hnext : x.start.micros = 198000000 := by decide
  rw [hairtime, hstart, hnext] at hbound
  norm_num at hbound

end Plan

end LoraLink
