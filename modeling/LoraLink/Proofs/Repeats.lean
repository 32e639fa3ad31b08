import LoraLink.Proofs.Held
import LoraLink.Region.EU868

/-!
# Repeats are bounded and reported

The course of an uplink begins with the call that sends it and ends before the next call that sends
a new one. All frames in between are frames of that uplink. They are no more than the attempts it
began with, they are numbered, and of a confirmed uplink one report at most says how many they
were.

While the uplink is held, the attempts it has left and the frames it has cost are the budget it
began with. Once it is not, nothing happens to it any more.
-/

namespace LoraLink

/-- The number of the repeat that is reported, if one is. -/
def Action.repeat? : Action → Option Nat
  | .event (.retransmitted _ _ n) => some n
  | _ => none

/-- The number of frames in the last report on a confirmed uplink, if this is one. -/
def Action.final? : Action → Option Nat
  | .event (.acknowledged n) => some n
  | .event (.maxTransmissionsReached n) => some n
  | .event (.retransmissionAbandoned n) => some n
  | _ => none

theorem Action.repeat?_eq_none {a : Action} (h : a.isSignal = false) : a.repeat? = none := by
  unfold Action.repeat?
  split
  · cases h
  · rfl

theorem Action.final?_eq_none {a : Action} (h : a.isSignal = false) : a.final? = none := by
  unfold Action.final?
  split
  · cases h
  · cases h
  · cases h
  · rfl

def Op.isSend : Op → Bool
  | .send _ _ _ => true
  | _ => false

variable {σ : Type} [Host σ] (r : Region)

/-- Does the call put a new uplink on air? -/
def Turn.launches (t : Turn σ) (d : EndDevice) : Bool := t.op.isSend && (t.result r d).toBool

theorem Turn.result_of_launches {t : Turn σ} {d : EndDevice} (h : t.launches r d = true) :
    t.op.isSend = true ∧ t.result r d = .ok () := by
  obtain ⟨hop, hok⟩ := Bool.and_eq_true_iff.mp h
  exact ⟨hop, eq_ok_of_toBool hok⟩

namespace EndDevice

/-- Does no call of the run put a new uplink on air? -/
def undisturbed (d : EndDevice) : List (Turn σ) → Bool
  | [] => true
  | t :: rest => !t.launches r d && (t.after r d).undisturbed rest

/-- All that is done in a run. -/
def trace (d : EndDevice) : List (Turn σ) → List Action
  | [] => []
  | t :: rest => t.trace r d ++ (t.after r d).trace rest

theorem undisturbed_append {d : EndDevice} {ts us : List (Turn σ)}
    (h : d.undisturbed r (ts ++ us) = true) :
    d.undisturbed r ts = true ∧ (d.afterAll r ts).undisturbed r us = true := by
  induction ts generalizing d with
  | nil => exact ⟨rfl, h⟩
  | cons t rest ih =>
    obtain ⟨hhead, htail⟩ := Bool.and_eq_true_iff.mp h
    obtain ⟨hrest, hus⟩ := ih htail
    exact ⟨Bool.and_eq_true_iff.mpr ⟨hhead, hrest⟩, hus⟩

/-- A run sends no new uplink, or there is a last call that does. -/
theorem last_launch (d : EndDevice) (ts : List (Turn σ)) : d.undisturbed r ts = true ∨
    ∃ pre t₀ post, ts = pre ++ t₀ :: post ∧ t₀.launches r (d.afterAll r pre) = true ∧
      (t₀.after r (d.afterAll r pre)).undisturbed r post = true := by
  induction ts generalizing d with
  | nil => exact Or.inl rfl
  | cons t rest ih =>
    -- If the rest has a launch of its own, that one is later, so it is taken first.
    rcases ih (t.after r d) with hquiet | ⟨pre, t₀, post, rfl, hlaunch, hpost⟩
    · cases hlaunch : t.launches r d with
      | true => exact Or.inr ⟨[], t, rest, rfl, hlaunch, hquiet⟩
      | false =>
        refine Or.inl ?_
        rw [undisturbed, hlaunch, hquiet]
        rfl
    · exact Or.inr ⟨t :: pre, t₀, post, rfl, hlaunch, hpost⟩

/-! ## Where an uplink stands -/

/-- The two are one uplink, at different times. -/
structure SameUplink (u₀ u : HeldUplink) : Prop where
  payload : u.payload = u₀.payload
  port : u.port = u₀.port
  counter : u.counter = u₀.counter
  confirmed : u.confirmed = u₀.confirmed
  rate : u.rate = u₀.rate

/--
Where the uplink `u₀` stands that began with `budget` attempts: after so many frames, and with what
was reported of its repeats and in the end.
-/
inductive Standing (u₀ : HeldUplink) (budget : Nat) (d : EndDevice) (frames : Nat)
    (repeats finals : List Nat) : Prop where
  | held {u : HeldUplink} (hheld : d.held = some u) (same : SameUplink u₀ u)
      (count : u.transmissions = frames) (left : frames + u.attemptsLeft = budget)
      (first : 0 < frames) (hrepeats : repeats = List.range' 2 (frames - 1)) (hfinals : finals = [])
  | closed (hheld : d.held = none) (bound : frames ≤ budget) (first : 0 < frames)
      (hrepeats : repeats = List.range' 2 (frames - 1)) (hfinals : finals = [] ∨ finals = [frames])

/-- The last report says how often a confirmed uplink was on air; of another there is none. -/
theorem final_outcome (u : HeldUplink) (ack : Bool) :
    ((outcome u ack).map Action.event).filterMap Action.final? =
      if u.confirmed then [u.transmissions] else [] := by
  unfold outcome
  cases u.confirmed <;> cases ack <;> rfl

theorem repeat_outcome (u : HeldUplink) (ack : Bool) :
    ((outcome u ack).map Action.event).filterMap Action.repeat? = [] := by
  unfold outcome
  cases u.confirmed <;> cases ack <;> rfl

theorem final_actions (u : HeldUplink) (a : Airing) :
    (a.actions u).filterMap Action.final? = [] := by
  unfold Airing.actions onAirEvent
  split <;> rfl

/-- A frame of an uplink that was on air before is reported as a repeat. -/
theorem repeat_actions {u : HeldUplink} (a : Airing) (h : 0 < u.transmissions) :
    (a.actions u).filterMap Action.repeat? = [u.transmissions + 1] := by
  unfold Airing.actions onAirEvent
  rw [if_neg (by omega)]
  rfl

/-- The first frame of an uplink is no repeat. -/
theorem repeat_first {u : HeldUplink} (a : Airing) (h : u.transmissions = 0) :
    (a.actions u).filterMap Action.repeat? = [] := by
  unfold Airing.actions onAirEvent
  rw [if_pos h]
  rfl

theorem SameUplink.refl (u : HeldUplink) : SameUplink u u := ⟨rfl, rfl, rfl, rfl, rfl⟩

theorem SameUplink.next {u₀ u : HeldUplink} (h : SameUplink u₀ u) : SameUplink u₀ u.next :=
  ⟨h.payload, h.port, h.counter, h.confirmed, h.rate⟩

variable {r}

theorem Standing.of_held {u₀ : HeldUplink} {budget frames : Nat} {repeats finals : List Nat}
    {d d' : EndDevice} (h : Standing u₀ budget d frames repeats finals) (hheld : d'.held = d.held) :
    Standing u₀ budget d' frames repeats finals := by
  cases h with
  | held hu same count left first hrepeats hfinals =>
    rw [← hheld] at hu
    exact .held hu same count left first hrepeats hfinals
  | closed hnone bound first hrepeats hfinals =>
    rw [← hheld] at hnone
    exact .closed hnone bound first hrepeats hfinals

/-- The course of an uplink that was held is over, with or without a report. -/
theorem Standing.ended {u₀ u : HeldUplink} {budget frames : Nat} {repeats finals : List Nat}
    {d d' : EndDevice} (h : Standing u₀ budget d frames repeats finals) (hu : d.held = some u)
    (hnone : d'.held = none) {report : List Nat}
    (hreport : report = [] ∨ report = [u.transmissions]) :
    Standing u₀ budget d' frames repeats (finals ++ report) := by
  cases h with
  | held hv same count left first hrepeats hfinals =>
    rw [hu] at hv
    cases hv
    refine .closed hnone (by omega) first hrepeats ?_
    rw [hfinals, List.nil_append, ← count]
    exact hreport
  -- An uplink that is gone cannot end once more.
  | closed hgone _ _ _ _ =>
    rw [hu] at hgone
    cases hgone

/-- Another attempt costs the uplink one of those it has left, and is reported by its number. -/
theorem Standing.again {u₀ u : HeldUplink} {budget frames : Nat} {repeats finals : List Nat}
    {d d' : EndDevice} (h : Standing u₀ budget d frames repeats finals) (hu : d.held = some u)
    (hleft : 0 < u.attemptsLeft) (hnext : d'.held = some u.next) :
    Standing u₀ budget d' (frames + 1) (repeats ++ [u.transmissions + 1]) finals := by
  cases h with
  | held hv same count left first hrepeats hfinals =>
    rw [hu] at hv
    cases hv
    refine .held hnext same.next ?_ ?_ (Nat.succ_pos _) ?_ hfinals
    · change u.transmissions + 1 = frames + 1
      omega
    · change frames + 1 + (u.attemptsLeft - 1) = budget
      omega
    · have hrange : frames + 1 - 1 = (frames - 1) + 1 := by omega
      -- The numbers of the repeats run from 2 on, so the new one is one more than the last.
      have hlast : u.transmissions + 1 = 2 + 1 * (frames - 1) := by omega
      rw [hrepeats, hrange, List.range'_concat, hlast]
  | closed hgone _ _ _ _ =>
    rw [hu] at hgone
    cases hgone

theorem Standing.bounded {u₀ : HeldUplink} {budget frames : Nat} {repeats finals : List Nat}
    {d : EndDevice} (h : Standing u₀ budget d frames repeats finals) : frames ≤ budget := by
  cases h with
  | held _ _ _ left _ _ _ => omega
  | closed _ bound _ _ _ => exact bound

theorem Standing.numbered {u₀ : HeldUplink} {budget frames : Nat} {repeats finals : List Nat}
    {d : EndDevice} (h : Standing u₀ budget d frames repeats finals) :
    repeats = List.range' 2 (frames - 1) := by
  cases h with
  | held _ _ _ _ _ hrepeats _ => exact hrepeats
  | closed _ _ _ hrepeats _ => exact hrepeats

theorem Standing.final {u₀ : HeldUplink} {budget frames : Nat} {repeats finals : List Nat}
    {d : EndDevice} (h : Standing u₀ budget d frames repeats finals) :
    finals = [] ∨ finals = [frames] := by
  cases h with
  | held _ _ _ _ _ _ hfinals => exact Or.inl hfinals
  | closed _ _ _ _ hfinals => exact hfinals

/-- What can be said of the uplink as long as it is held. -/
theorem Standing.of_some {u₀ u : HeldUplink} {budget frames : Nat} {repeats finals : List Nat}
    {d : EndDevice} (h : Standing u₀ budget d frames repeats finals) (hu : d.held = some u) :
    SameUplink u₀ u ∧ u.transmissions = frames ∧ frames + u.attemptsLeft = budget ∧
      finals = [] := by
  cases h with
  | held hv same count left _ _ hfinals =>
    rw [hu] at hv
    cases hv
    exact ⟨same, count, left, hfinals⟩
  | closed hgone _ _ _ _ =>
    rw [hu] at hgone
    cases hgone

/-- After the last report the uplink is not held any more. -/
theorem Standing.none_of_final {u₀ : HeldUplink} {budget frames : Nat} {repeats finals : List Nat}
    {d : EndDevice} (h : Standing u₀ budget d frames repeats finals) (hfinals : finals ≠ []) :
    d.held = none := by
  cases h with
  | held _ _ _ _ _ _ hnil => exact absurd hnil hfinals
  | closed hnone _ _ _ _ => exact hnone

/-- The repeats that a call reports are read off its signals. -/
theorem repeats_eq (t : Turn σ) (d : EndDevice) :
    (t.trace r d).filterMap Action.repeat? = (t.signals r d).filterMap Action.repeat? :=
  t.filterMap_signals r (fun _ ha => Action.repeat?_eq_none ha) d

theorem finals_eq (t : Turn σ) (d : EndDevice) :
    (t.trace r d).filterMap Action.final? = (t.signals r d).filterMap Action.final? :=
  t.filterMap_signals r (fun _ ha => Action.final?_eq_none ha) d

/-! ## What a call can mean for the uplink that is held -/

variable (r) in
/-- What a call can mean for the uplink that is held, if it puts no new one on air. -/
inductive Fate (t : Turn σ) (d : EndDevice) : Prop where
  | kept (held : (t.after r d).held = d.held) (signals : t.signals r d = [])
  | released {u : HeldUplink} {ack : Bool} (hheld : d.held = some u)
      (held : (t.after r d).held = none) (signals : t.signals r d = (outcome u ack).map .event)
      (last : u.confirmed = true → ack = false → u.attemptsLeft = 0)
      (hack : ack = true → Acknowledges t d)
  | gaveUp {u : HeldUplink} (hheld : d.held = some u) (held : (t.after r d).held = none)
      (trace : t.trace r d =
        [.event .dutyCycleBlocked, .event (.maxTransmissionsReached u.transmissions)])
  | lost {id : EventId} {u : HeldUplink} {e : Failure} (hop : t.op = .alarm id .retransmit)
      (hid : d.alarms.retransmit = some id) (hheld : d.held = some u)
      (result : t.result r d = .error e) (held : (t.after r d).held = none)
      (signals : t.signals r d = [])
  | repeated {id : EventId} {u : HeldUplink} {a : Airing} (hid : d.alarms.retransmit = some id)
      (hheld : d.held = some u) (hair : Aired r (t.session d) u a)
      (held : (t.after r d).held = some u.next) (signals : t.signals r d = a.actions u)

theorem fate_of_effect {t : Turn σ} {d : EndDevice} (hnew : t.launches r d = false) :
    Fate r t d := by
  have heffect := t.effect r d
  unfold Turn.launches at hnew
  generalize hresult : t.result r d = res at heffect hnew
  generalize hs : (t.made r d).2 = s' at heffect
  have hafter : t.after r d = s'.node := congrArg Session.node hs
  have htrace : t.trace r d = s'.trace := congrArg Session.trace hs
  have hsignals : t.signals r d = s'.signals := congrArg Session.signals hs
  -- Of the six effects all but a launch concern the uplink that is already held.
  cases heffect with
  | kept _ _ held signals _ =>
    exact .kept (by rw [hafter, held]) (hsignals.trans signals)
  | released hheld _ _ held _ signals last hack =>
    exact .released hheld (by rw [hafter, held]) (hsignals.trans signals) last hack
  | gaveUp _ _ hheld _ held _ trace =>
    exact .gaveUp hheld (by rw [hafter, held]) (htrace.trans trace)
  | lost hop hid hheld _ held _ signals =>
    exact .lost hop hid hheld hresult (by rw [hafter, held]) (hsignals.trans signals)
  | repeated _ hid hheld hair node trace =>
    rename_i id u a
    refine .repeated hid hheld hair (by rw [hafter, node]; rfl) ?_
    rw [hsignals]
    unfold Session.signals
    rw [trace, filter_actions]
  | launched hop _ _ _ _ =>
    rw [hop] at hnew
    cases hnew

/-- **A call that sends no new uplink keeps the account of the old one.** -/
theorem standing_step {u₀ : HeldUplink} {budget frames : Nat} {repeats finals : List Nat}
    {d : EndDevice} {t : Turn σ} (h : Standing u₀ budget d frames repeats finals)
    (hholding : Holding d) (hnew : t.launches r d = false) :
    Standing u₀ budget (t.after r d) (frames + (t.transmissions r d).length)
      (repeats ++ (t.trace r d).filterMap Action.repeat?)
      (finals ++ (t.trace r d).filterMap Action.final?) := by
  cases fate_of_effect hnew with
  | kept held signals =>
    -- Nothing was on air, and nothing was reported.
    rw [repeats_eq, finals_eq, t.transmissions_eq, signals, List.filterMap_nil, List.filterMap_nil,
      List.filterMap_nil, List.append_nil, List.append_nil]
    exact h.of_held held
  | released hheld held signals last hack =>
    rename_i u ack
    -- The last report gives the count of the uplink, which is the number of its frames.
    rw [repeats_eq, finals_eq, t.transmissions_eq, signals, transmissions_of_events,
      repeat_outcome, final_outcome, List.append_nil]
    refine h.ended hheld held ?_
    cases u.confirmed with
    | true => exact Or.inr rfl
    | false => exact Or.inl rfl
  | gaveUp hheld held trace =>
    unfold Turn.transmissions
    rw [trace]
    have hended := h.ended hheld held (Or.inr rfl)
    rw [← List.append_nil repeats] at hended
    exact hended
  | lost _ _ hheld _ held signals =>
    rw [repeats_eq, finals_eq, t.transmissions_eq, signals, List.filterMap_nil, List.filterMap_nil,
      List.filterMap_nil, List.append_nil]
    exact h.ended hheld held (Or.inl rfl)
  | repeated hid hheld hair held signals =>
    rename_i id u a
    -- The alarm for this attempt was set, so the budget has room for it.
    obtain ⟨v, hv, hleft⟩ := hholding.waiting (by rw [hid]; rfl)
    rw [hheld] at hv
    cases hv
    have honair := (hholding.counted u hheld).1
    rw [repeats_eq, finals_eq, t.transmissions_eq, signals, transmissions_of_actions,
      repeat_actions a honair, final_actions, List.append_nil]
    exact h.again hheld hleft held

theorem standing_run {u₀ : HeldUplink} {budget frames : Nat} {repeats finals : List Nat}
    {d : EndDevice} {us : List (Turn σ)} (h : Standing u₀ budget d frames repeats finals)
    (hholding : Holding d) (hnew : d.undisturbed r us = true) :
    Standing u₀ budget (d.afterAll r us) (frames + (d.transmissions r us).length)
      (repeats ++ (d.trace r us).filterMap Action.repeat?)
      (finals ++ (d.trace r us).filterMap Action.final?) := by
  -- By induction on the run: each call extends the lists of what was seen so far.
  induction us generalizing d frames repeats finals with
  | nil =>
    change Standing u₀ budget d (frames + 0) (repeats ++ []) (finals ++ [])
    rw [List.append_nil, List.append_nil]
    exact h
  | cons t rest ih =>
    obtain ⟨hhead, htail⟩ := Bool.and_eq_true_iff.mp hnew
    have hstep := standing_step h hholding (by simpa using hhead)
    have hrest := ih hstep (holding_step hholding t) htail
    change Standing u₀ budget ((t.after r d).afterAll r rest)
      (frames + (t.transmissions r d ++ (t.after r d).transmissions r rest).length)
      (repeats ++ (t.trace r d ++ (t.after r d).trace r rest).filterMap Action.repeat?)
      (finals ++ (t.trace r d ++ (t.after r d).trace r rest).filterMap Action.final?)
    rw [List.length_append, List.filterMap_append, List.filterMap_append, ← Nat.add_assoc,
      ← List.append_assoc, ← List.append_assoc]
    exact hrest

/-- A call that sends a new uplink puts one frame on air, which is a frame of that uplink. -/
theorem launched_airing {d : EndDevice} {t : Turn σ} {payload : List UInt8} {port : UInt8}
    {confirmed : Bool} (hop : t.op = .send payload port confirmed) (hok : t.result r d = .ok ()) :
    ∃ a, Aired r (t.session d) (d.newUplink r payload port confirmed) a ∧
      t.transmissions r d = [a.transmission t.host] := by
  obtain ⟨a, hair, _, hsignals⟩ := Turn.launched hop hok
  refine ⟨a, hair, ?_⟩
  rw [t.transmissions_eq, hsignals, List.filterMap_append, transmissions_of_actions,
    transmissions_of_events, List.append_nil]

/-- A call that sends a new uplink puts one frame of it on air, and holds it from then on. -/
theorem launched_frame {d : EndDevice} {t : Turn σ} {payload : List UInt8} {port : UInt8}
    {confirmed : Bool} (hop : t.op = .send payload port confirmed) (hok : t.result r d = .ok ()) :
    (∃ x, t.transmissions r d = [x] ∧
      d.frame r (d.newUplink r payload port confirmed) = .ok x.frame) ∧
      (t.after r d).held = some (d.newUplink r payload port confirmed).next := by
  refine ⟨?_, ?_⟩
  · obtain ⟨a, hair, hone⟩ := launched_airing hop hok
    exact ⟨a.transmission t.host, hone, hair.frame⟩
  · obtain ⟨a, _, hafter, _⟩ := Turn.launched hop hok
    have hcounted := countUplink_cases r (EndDevice.supersede d.held
      (d.onAir (d.newUplink r payload port confirmed) a.channel a.plan))
    rw [hafter, hcounted.held]
    rfl

/-- The call that sends a new uplink begins its course. -/
theorem standing_launched {d : EndDevice} {t : Turn σ} {payload : List UInt8} {port : UInt8}
    {confirmed : Bool} (hop : t.op = .send payload port confirmed) (hok : t.result r d = .ok ()) :
    Standing (d.newUplink r payload port confirmed)
      (d.newUplink r payload port confirmed).attemptsLeft (t.after r d) 1 [] [] := by
  have hheld := (launched_frame hop hok).2
  have hattempts := (newUplink_attempts r d payload port confirmed).1
  refine .held hheld (SameUplink.refl _).next rfl ?_ Nat.one_pos rfl rfl
  change 1 + ((d.newUplink r payload port confirmed).attemptsLeft - 1) = _
  omega

/-! ## What single reports mean -/

/-- What is reported of an uplink when it is released. -/
theorem mem_outcome {u : HeldUplink} {ack : Bool} {e : Event}
    (h : Action.event e ∈ (outcome u ack).map Action.event) :
    (ack = true ∧ e = .acknowledged u.transmissions) ∨
      (u.confirmed = true ∧ ack = false ∧ e = .maxTransmissionsReached u.transmissions) := by
  obtain ⟨e', he', heq⟩ := List.mem_map.mp h
  cases heq
  unfold outcome at he'
  cases hconfirmed : u.confirmed with
  | false =>
    rw [hconfirmed] at he'
    cases he'
  | true =>
    rw [hconfirmed] at he'
    cases ack with
    | true => exact Or.inl ⟨rfl, List.mem_singleton.mp he'⟩
    | false => exact Or.inr ⟨rfl, rfl, List.mem_singleton.mp he'⟩

/-- A frame on air is no last report. -/
theorem final?_of_mem_actions {u : HeldUplink} {a : Airing} {x : Action} (h : x ∈ a.actions u) :
    x.final? = none :=
  List.filterMap_eq_nil_iff.mp (final_actions u a) x h

/--
A last report is on the uplink that is held. It is acknowledged by a downlink that acknowledges; or
its attempts are used up; or the duty cycle has ended it.
-/
theorem final_report {t : Turn σ} {d : EndDevice} {e : Event} (hnew : t.launches r d = false)
    (h : .event e ∈ t.trace r d) (hfinal : (Action.event e).final?.isSome = true) :
    ∃ u, d.held = some u ∧ ((e = .acknowledged u.transmissions ∧ Acknowledges t d) ∨
      (e = .maxTransmissionsReached u.transmissions ∧ (u.attemptsLeft = 0 ∨
        t.trace r d =
          [.event .dutyCycleBlocked, .event (.maxTransmissionsReached u.transmissions)]))) := by
  have hsignal : .event e ∈ t.signals r d := by
    refine List.mem_filter.mpr ⟨h, ?_⟩
    cases hkind : (Action.event e).isSignal with
    | true => rfl
    | false =>
      rw [Action.final?_eq_none hkind] at hfinal
      cases hfinal
  cases fate_of_effect hnew with
  | kept _ signals =>
    rw [signals] at hsignal
    cases hsignal
  | released hheld _ signals last hack =>
    rw [signals] at hsignal
    refine ⟨_, hheld, ?_⟩
    rcases mem_outcome hsignal with ⟨hacked, heq⟩ | ⟨hconfirmed, hunacked, heq⟩
    · exact Or.inl ⟨heq, hack hacked⟩
    · exact Or.inr ⟨heq, Or.inl (last hconfirmed hunacked)⟩
  | gaveUp hheld _ trace =>
    -- Here the duty cycle is blamed first, which is no report on the uplink.
    rw [trace] at h
    rcases List.mem_cons.mp h with hblocked | hlast
    · cases hblocked
      cases hfinal
    · cases List.mem_singleton.mp hlast
      exact ⟨_, hheld, Or.inr ⟨rfl, Or.inr trace⟩⟩
  | lost _ _ _ _ _ signals =>
    rw [signals] at hsignal
    cases hsignal
  | repeated _ _ _ _ signals =>
    rw [signals] at hsignal
    rw [final?_of_mem_actions hsignal] at hfinal
    cases hfinal

/--
A confirmed uplink that is dropped without a report was dropped because sending it again failed.
-/
theorem failed_of_dropped {t : Turn σ} {d : EndDevice} {u : HeldUplink}
    (hnew : t.launches r d = false) (hheld : d.held = some u) (hconfirmed : u.confirmed = true)
    (hgone : (t.after r d).held = none)
    (hsilent : (t.trace r d).filterMap Action.final? = []) :
    ∃ id e, t.op = .alarm id .retransmit ∧ d.alarms.retransmit = some id ∧
      t.result r d = .error e := by
  -- A confirmed uplink leaves with a report in all cases but one, the failed repeat.
  cases fate_of_effect hnew with
  | kept held _ =>
    rw [held, hheld] at hgone
    cases hgone
  | released hheld' _ signals _ _ =>
    rw [hheld] at hheld'
    cases hheld'
    rw [finals_eq, signals, final_outcome, hconfirmed] at hsilent
    cases hsilent
  | gaveUp _ _ trace =>
    rw [trace] at hsilent
    cases hsilent
  | lost hop hid _ result _ _ => exact ⟨_, _, hop, hid, result⟩
  | repeated _ _ _ held _ =>
    rw [held] at hgone
    cases hgone

/-- The frames of a call that sends no new uplink are frames of the one that is held. -/
theorem own_airing {t : Turn σ} {d : EndDevice} {x : Transmission} (hnew : t.launches r d = false)
    (hx : x ∈ t.transmissions r d) :
    ∃ u a, d.held = some u ∧ Aired r (t.session d) u a ∧ x = a.transmission t.host := by
  rw [t.transmissions_eq] at hx
  -- Events are no frames, so the frame comes from the repeat.
  cases fate_of_effect hnew with
  | kept _ signals =>
    rw [signals] at hx
    cases hx
  | released _ _ signals _ _ =>
    rw [signals, transmissions_of_events] at hx
    cases hx
  | gaveUp _ _ trace =>
    rw [← t.transmissions_eq] at hx
    unfold Turn.transmissions at hx
    rw [trace] at hx
    cases hx
  | lost _ _ _ _ _ signals =>
    rw [signals] at hx
    cases hx
  | repeated _ hheld hair _ signals =>
    rw [signals, transmissions_of_actions] at hx
    exact ⟨_, _, hheld, hair, List.mem_singleton.mp hx⟩

theorem own_frame {t : Turn σ} {d : EndDevice} {x : Transmission} (hnew : t.launches r d = false)
    (hx : x ∈ t.transmissions r d) : ∃ u, d.held = some u ∧ d.frame r u = .ok x.frame := by
  obtain ⟨u, a, hheld, hair, rfl⟩ := own_airing hnew hx
  exact ⟨u, hheld, hair.frame⟩

/-- Where no uplink is held, none is on air until a new one is sent. -/
theorem silent_of_none {d : EndDevice} {us : List (Turn σ)} (hnone : d.held = none)
    (hnew : d.undisturbed r us = true) : d.transmissions r us = [] := by
  induction us generalizing d with
  | nil => rfl
  | cons t rest ih =>
    obtain ⟨hhead, htail⟩ := Bool.and_eq_true_iff.mp hnew
    have hlaunch : t.launches r d = false := by simpa using hhead
    have hheld : ∀ u, d.held ≠ some u := fun u hu => by rw [hnone] at hu; cases hu
    -- All cases but the first are about an uplink that is held.
    cases fate_of_effect hlaunch with
    | kept held signals =>
      change t.transmissions r d ++ (t.after r d).transmissions r rest = []
      rw [t.transmissions_eq, signals, ih (held.trans hnone) htail]
      rfl
    | released hu _ _ _ _ => exact absurd hu (hheld _)
    | gaveUp hu _ _ => exact absurd hu (hheld _)
    | lost _ _ hu _ _ _ => exact absurd hu (hheld _)
    | repeated _ hu _ _ _ => exact absurd hu (hheld _)

/-! ## The course of a confirmed uplink -/

variable (r)

/--
The course of the uplink `u₀` over a run that begins with the device as the call left it that sent
the uplink, and in which no other uplink is sent. The uplink has cost one frame before the run.
-/
structure Course (u₀ : HeldUplink) (budget : Nat) (d₁ : EndDevice) (us : List (Turn σ)) : Prop where
  /-- The frames on air are frames of this uplink, -/
  own : ∀ pre t post x, us = pre ++ t :: post → x ∈ t.transmissions r (d₁.afterAll r pre) →
    ∃ u, (d₁.afterAll r pre).held = some u ∧ SameUplink u₀ u ∧
      (d₁.afterAll r pre).frame r u = .ok x.frame
  /-- and they are no more than the budget. -/
  bounded : 1 + (d₁.transmissions r us).length ≤ budget
  /-- As long as the uplink is held, its count is right, and the rest of the budget is left. -/
  counted : ∀ u, (d₁.afterAll r us).held = some u → SameUplink u₀ u ∧
    u.transmissions = 1 + (d₁.transmissions r us).length ∧
    u.transmissions + u.attemptsLeft = budget
  /-- Each frame is reported as a repeat, by the numbers from 2 on. -/
  numbered : (d₁.trace r us).filterMap Action.repeat? =
    List.range' 2 (d₁.transmissions r us).length
  /-- There is one last report at most, and it gives the number of frames. -/
  final : (d₁.trace r us).filterMap Action.final? = [] ∨
    (d₁.trace r us).filterMap Action.final? = [1 + (d₁.transmissions r us).length]
  /-- No frame comes after it. -/
  last : ∀ pre post, us = pre ++ post → (d₁.trace r pre).filterMap Action.final? ≠ [] →
    (d₁.afterAll r pre).transmissions r post = []
  /-- Only a downlink that acknowledges makes the uplink acknowledged. -/
  acknowledged : ∀ pre t post n, us = pre ++ t :: post →
    .event (.acknowledged n) ∈ t.trace r (d₁.afterAll r pre) → Acknowledges t (d₁.afterAll r pre)
  /-- The budget is used up when that is reported, unless the duty cycle was in the way. -/
  exhausted : ∀ pre t post n, us = pre ++ t :: post →
    .event (.maxTransmissionsReached n) ∈ t.trace r (d₁.afterAll r pre) →
    n = budget ∨ t.trace r (d₁.afterAll r pre) =
      [.event .dutyCycleBlocked, .event (.maxTransmissionsReached n)]
  /-- The uplink is dropped without a report only by an attempt that fails. -/
  dropped : ∀ pre t post, us = pre ++ t :: post → (d₁.afterAll r pre).held.isSome = true →
    (t.after r (d₁.afterAll r pre)).held = none →
    (t.trace r (d₁.afterAll r pre)).filterMap Action.final? = [] →
    ∃ id e, t.op = .alarm id .retransmit ∧ (d₁.afterAll r pre).alarms.retransmit = some id ∧
      t.result r (d₁.afterAll r pre) = .error e
  /-- If the next uplink finds it held, that is the last report; else there is no other. -/
  replaced : ∀ t : Turn σ, t.launches r (d₁.afterAll r us) = true →
    (t.trace r (d₁.afterAll r us)).filterMap Action.final? =
      ((d₁.afterAll r us).held.map fun _ => 1 + (d₁.transmissions r us).length).toList ∧
    ((d₁.trace r us ++ t.trace r (d₁.afterAll r us)).filterMap Action.final?).length ≤ 1
  /-- From then on there are only frames of the next one. -/
  succeeded : ∀ (t : Turn σ) payload port confirmed, t.op = .send payload port confirmed →
    t.result r (d₁.afterAll r us) = .ok () →
    (∃ x, t.transmissions r (d₁.afterAll r us) = [x] ∧ (d₁.afterAll r us).frame r
      ((d₁.afterAll r us).newUplink r payload port confirmed) = .ok x.frame) ∧
    (t.after r (d₁.afterAll r us)).held =
      some ((d₁.afterAll r us).newUplink r payload port confirmed).next

variable {r}

/-- A run of the course up to one of its calls, which sends no new uplink. -/
theorem standing_at {u₀ : HeldUplink} {budget : Nat} {d₁ : EndDevice} {us pre post : List (Turn σ)}
    {t : Turn σ} (h : Standing u₀ budget d₁ 1 [] []) (hholding : Holding d₁)
    (hnew : d₁.undisturbed r us = true) (heq : us = pre ++ t :: post) :
    Standing u₀ budget (d₁.afterAll r pre) (1 + (d₁.transmissions r pre).length)
        ((d₁.trace r pre).filterMap Action.repeat?) ((d₁.trace r pre).filterMap Action.final?) ∧
      t.launches r (d₁.afterAll r pre) = false := by
  rw [heq] at hnew
  obtain ⟨hpre, hpost⟩ := undisturbed_append r hnew
  have hstanding := standing_run h hholding hpre
  rw [List.nil_append, List.nil_append] at hstanding
  have hlaunch := (Bool.and_eq_true_iff.mp hpost).1
  exact ⟨hstanding, by simpa using hlaunch⟩

/-- The last report on an uplink that is replaced is made by the call that replaces it. -/
theorem finals_of_launches {t : Turn σ} {d : EndDevice} (h : t.launches r d = true) :
    (t.trace r d).filterMap Action.final? = (d.held.map HeldUplink.transmissions).toList := by
  obtain ⟨hop, hok⟩ := Turn.result_of_launches r h
  cases hsend : t.op with
  | send payload port confirmed =>
    obtain ⟨a, _, _, hsignals⟩ := Turn.launched hsend hok
    rw [finals_eq, hsignals, List.filterMap_append, final_actions, List.nil_append]
    cases d.held <;> rfl
  | _ =>
    rw [hsend] at hop
    cases hop

/-- The account that is kept of an uplink makes its course. -/
theorem course_of_standing {u₀ : HeldUplink} {budget : Nat} {d₁ : EndDevice} {us : List (Turn σ)}
    (h : Standing u₀ budget d₁ 1 [] []) (hconfirmed : u₀.confirmed = true) (hholding : Holding d₁)
    (hnew : d₁.undisturbed r us = true) : Course r u₀ budget d₁ us := by
  have hend := standing_run h hholding hnew
  rw [List.nil_append, List.nil_append] at hend
  refine
    { own := ?own, bounded := hend.bounded, counted := ?counted, numbered := ?numbered,
      final := hend.final, last := ?last, acknowledged := ?acknowledged, exhausted := ?exhausted,
      dropped := ?dropped, replaced := ?replaced,
      succeeded := fun _ _ _ _ hop hok => launched_frame hop hok }
  case own =>
    intro pre t post x heq hx
    obtain ⟨hstanding, hlaunch⟩ := standing_at h hholding hnew heq
    obtain ⟨u, hu, hframe⟩ := own_frame hlaunch hx
    exact ⟨u, hu, (hstanding.of_some hu).1, hframe⟩
  case counted =>
    intro u hu
    obtain ⟨hsame, hcount, hleft, _⟩ := hend.of_some hu
    exact ⟨hsame, hcount, by omega⟩
  case numbered =>
    rw [hend.numbered, Nat.add_sub_cancel_left]
  -- After the report nothing is held, and a device that holds nothing is silent.
  case last =>
    intro pre post heq hfinals
    rw [heq] at hnew
    obtain ⟨hpre, hpost⟩ := undisturbed_append r hnew
    have hstanding := standing_run h hholding hpre
    rw [List.nil_append, List.nil_append] at hstanding
    exact silent_of_none (hstanding.none_of_final hfinals) hpost
  case acknowledged =>
    intro pre t post n heq hreport
    obtain ⟨_, hlaunch⟩ := standing_at h hholding hnew heq
    obtain ⟨u, _, ⟨_, hacknowledges⟩ | ⟨hother, _⟩⟩ := final_report hlaunch hreport rfl
    · exact hacknowledges
    · cases hother
  -- Either no attempt is left, so that all have been made, or no channel would ever be free.
  case exhausted =>
    intro pre t post n heq hreport
    obtain ⟨hstanding, hlaunch⟩ := standing_at h hholding hnew heq
    obtain ⟨u, hu, ⟨hother, _⟩ | ⟨hn, hzero | hblocked⟩⟩ := final_report hlaunch hreport rfl
    · cases hother
    · cases hn
      obtain ⟨_, hcount, hleft, _⟩ := hstanding.of_some hu
      exact Or.inl (by omega)
    · cases hn
      exact Or.inr hblocked
  case dropped =>
    intro pre t post heq hsome hgone hsilent
    obtain ⟨hstanding, hlaunch⟩ := standing_at h hholding hnew heq
    obtain ⟨u, hu⟩ := Option.isSome_iff_exists.mp hsome
    have hsame := (hstanding.of_some hu).1
    exact failed_of_dropped hlaunch hu (hsame.confirmed.trans hconfirmed) hgone hsilent
  -- The call that replaces the uplink reports it with the count it had, if it was still held.
  case replaced =>
    intro t hlaunch
    have hfinals := finals_of_launches hlaunch
    rw [List.filterMap_append, hfinals]
    cases hheld : (d₁.afterAll r us).held with
    | none =>
      refine ⟨rfl, ?_⟩
      change (_ ++ []).length ≤ 1
      rw [List.append_nil]
      rcases hend.final with hnil | hone
      · rw [hnil]
        exact Nat.zero_le 1
      · rw [hone]
        exact Nat.le_refl 1
    | some u =>
      obtain ⟨_, hcount, _, hnil⟩ := hend.of_some hheld
      rw [hnil, ← hcount]
      exact ⟨rfl, Nat.le_refl 1⟩

/--
**A confirmed uplink is transmitted a bounded number of times and reported once.**

However the device was driven before, a call that sends a confirmed uplink puts one frame of it on
air, and its course from there on is as described, however the device is driven.
-/
theorem send_course (address : DeviceAddress) (settings : Settings) (plan : Plan)
    (before : List (Turn σ)) (t₀ : Turn σ) {payload : List UInt8} {port : UInt8}
    (hop : t₀.op = .send payload port true)
    (hsent : t₀.result r ((initial address settings plan).afterAll r before) = .ok ())
    {us : List (Turn σ)}
    (hnew :
      (t₀.after r ((initial address settings plan).afterAll r before)).undisturbed r us = true) :
    let d₀ := (initial address settings plan).afterAll r before
    let u₀ := d₀.newUplink r payload port true
    (∃ x, t₀.transmissions r d₀ = [x] ∧ d₀.frame r u₀ = .ok x.frame) ∧
      (t₀.after r d₀).held = some u₀.next ∧
      (t₀.trace r d₀).filterMap Action.repeat? = [] ∧
      Course r u₀ (max d₀.settings.maxTransmissions.toNat 1) (t₀.after r d₀) us := by
  intro d₀ u₀
  have hholding : Holding d₀ := holding_run (holding_init address settings plan) before
  obtain ⟨hframe, hheld⟩ := launched_frame hop hsent
  refine ⟨hframe, hheld, ?_, ?_⟩
  -- The first frame of an uplink is no repeat of it.
  · obtain ⟨a, _, _, hsignals⟩ := Turn.launched hop hsent
    rw [repeats_eq, hsignals, List.filterMap_append, repeat_first a rfl, List.nil_append]
    cases d₀.held <;> rfl
  · exact course_of_standing (standing_launched hop hsent) rfl (holding_step hholding t₀) hnew

/-- An uplink is on air a second time before it is acknowledged, and that is on its course: what is
reported last is that it was on air twice, and it is held no more. -/
theorem send_course_acknowledged :
    let d₀ := initial ⟨5⟩ {} Region.eu868.defaultPlan
    let t₀ := Turn.onBench 0 (.send [1, 2, 3] 1 true)
    let us := unansweredRun.tail ++ acknowledgedRun
    t₀.result .eu868 d₀ = .ok () ∧ (t₀.after .eu868 d₀).undisturbed .eu868 us = true ∧
      ((t₀.after .eu868 d₀).transmissions .eu868 us).length = 1 ∧
      ((t₀.after .eu868 d₀).trace .eu868 us).filterMap Action.repeat? = [2] ∧
      ((t₀.after .eu868 d₀).trace .eu868 us).filterMap Action.final? = [2] ∧
      ((t₀.after .eu868 d₀).afterAll .eu868 us).held = none ∧
      Course .eu868 (d₀.newUplink .eu868 [1, 2, 3] 1 true) 8 (t₀.after .eu868 d₀) us := by
  intro d₀ t₀ us
  have hsent : t₀.result .eu868 d₀ = .ok () := eq_ok_of_toBool (by decide +kernel)
  have hnew : (t₀.after .eu868 d₀).undisturbed .eu868 us = true := by decide +kernel
  have hcourse := send_course ⟨5⟩ {} Region.eu868.defaultPlan [] t₀ rfl hsent hnew
  exact ⟨hsent, hnew, by decide +kernel, by decide +kernel, by decide +kernel, by decide +kernel,
    hcourse.2.2.2⟩

end EndDevice

end LoraLink
