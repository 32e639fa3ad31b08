import LoraLink.Proofs.Repeats
import LoraLink.Proofs.Schedule

/-!
# Which uplinks are reported as exhausted

Nobody answers an uplink, and it is dropped. There are two places for that. When the exchange of its
last attempt ends, only a confirmed uplink is reported: the others were never meant to be answered.
But when its next attempt comes due and no channel will ever allow it, the uplink is reported
whatever it is.

So the report that all transmissions are used up stands for a confirmed uplink, save for repeats
that have become impossible. Of an unconfirmed uplink it says just that.
-/

namespace LoraLink

namespace EndDevice

variable {σ : Type} [Host σ] {r : Region}

/-- The next attempt is due, and it will never be allowed. -/
structure Hopeless (t : Turn σ) (d : EndDevice) (u : HeldUplink) : Prop where
  due : ∃ id, t.op = .alarm id .retransmit ∧ d.alarms.retransmit = some id
  closed : d.rxWindowsPending = false
  never : d.earliestDelay (Host.now t.host) u.rate = .ok .never

/-! ## One call -/

/-- An attempt that succeeds without a word about the uplink on air drops it as hopeless. -/
theorem Retried.never_of_dropped {s s' : Session EndDevice σ} {u : HeldUplink}
    (h : Retried r s (.ok ()) s') (hheld : s.node.held = some u) (hgone : s'.node.held = none) :
    Retrying u .never s := by
  have hsame : ∀ {u' wait}, Retrying u' wait s → u' = u := by
    intro u' wait hretry
    exact Option.some.inj (hretry.held.symm.trans hheld)
  cases h with
  | nothing hnone => exact absurd (hheld.symm.trans hnone) nofun
  | late _ => exact absurd (hheld.symm.trans hgone) nofun
  | blocked hretry hwait hselect =>
    -- without anything to wait for, some channel is open, and the draw finds it
    obtain ⟨-, i, hopen⟩ := (earliestDelay_isZero_iff hretry.wait).mp hwait
    exact absurd hopen (hselect.none_open i)
  | repeated hretry hwait hselect hsend =>
    obtain ⟨a, -, hnode, -⟩ := hsend.aired hselect (earliestDelay_free hretry.wait hwait)
    rw [hnode] at hgone
    exact absurd hgone nofun
  | never hretry _ hnever =>
    obtain rfl := hsame hretry
    rwa [Duration.isNever_iff.mp hnever] at hretry
  | postponed _ _ _ => exact absurd (hheld.symm.trans hgone) nofun

/-- The alarm of the next attempt goes on to the attempt. -/
theorem alarm_retransmit {s : Session EndDevice σ} {id : EventId}
    (hid : s.node.alarms.retransmit = some id) :
    (alarm r id .retransmit).run s = (retransmit r).run (disarmed .retransmit s) := by
  unfold alarm
  rw [Call.run_bind_ok (Call.run_node s), if_neg (fun hne => hne hid),
    Call.run_bind_ok (Call.run_modifyNode _ s)]
  rfl

theorem Hopeless.trace {t : Turn σ} {d : EndDevice} {u : HeldUplink} (h : Hopeless t d u)
    (hheld : d.held = some u) : t.trace r d =
      [.event .dutyCycleBlocked, .event (.maxTransmissionsReached u.transmissions)] := by
  obtain ⟨id, hop, hid⟩ := h.due
  have hretry : Retrying u .never (disarmed .retransmit (t.session d)) := ⟨hheld, h.closed, h.never⟩
  have hmade : t.made r d = (.ok (), givenUp u (disarmed .retransmit (t.session d))) := by
    unfold Turn.made
    rw [hop]
    exact (alarm_retransmit hid).trans (retransmit_never r hretry rfl)
  exact congrArg (fun made => made.2.trace) hmade

/-- A call that puts a new uplink on air reports none as exhausted. -/
theorem not_exhausted_of_launches {t : Turn σ} {d : EndDevice} (hnew : t.launches r d = true)
    (n : Nat) : .event (.maxTransmissionsReached n) ∉ t.trace r d := by
  intro h
  obtain ⟨hop, hok⟩ := Turn.result_of_launches r hnew
  have hsignal : .event (.maxTransmissionsReached n) ∈ t.signals r d := List.mem_filter.mpr ⟨h, rfl⟩
  cases hsend : t.op with
  | send payload port confirmed =>
    obtain ⟨a, -, -, hsignals⟩ := Turn.launched hsend hok
    rw [hsignals] at hsignal
    -- A launch signals its frame, and that the uplink before is abandoned; this is neither.
    rcases List.mem_append.mp hsignal with hair | habandoned
    · exact absurd (final?_of_mem_actions hair) nofun
    · cases hheld : d.held with
      | none =>
        rw [hheld] at habandoned
        cases habandoned
      | some u =>
        rw [hheld] at habandoned
        cases List.mem_singleton.mp habandoned
  | _ =>
    rw [hsend] at hop
    cases hop

/-- **What a call reports as exhausted** is the uplink that was held, and is held no more. -/
theorem exhausted_cases {t : Turn σ} {d : EndDevice} {n : Nat}
    (h : .event (.maxTransmissionsReached n) ∈ t.trace r d) :
    ∃ u, d.held = some u ∧ n = u.transmissions ∧ (t.after r d).held = none ∧
      (u.confirmed = true ∧ u.attemptsLeft = 0 ∨ Hopeless t d u) := by
  have hnew : t.launches r d = false :=
    Bool.eq_false_iff.mpr fun hlaunch => not_exhausted_of_launches hlaunch n h
  have hsignal : .event (.maxTransmissionsReached n) ∈ (t.made r d).2.signals :=
    List.mem_filter.mpr ⟨h, rfl⟩
  have heffect := t.effect r d
  unfold Turn.launches at hnew
  unfold Turn.after
  generalize hresult : t.result r d = res at heffect hnew
  generalize hs : (t.made r d).2 = s' at heffect hsignal
  have htrace : t.trace r d = s'.trace := congrArg Session.trace hs
  cases heffect with
  | kept _ _ _ signals _ =>
    rw [signals] at hsignal
    cases hsignal
  | released hheld _ _ held _ signals last _ =>
    rw [signals] at hsignal
    rcases mem_outcome hsignal with ⟨-, hother⟩ | ⟨hconfirmed, hunacked, heq⟩
    · cases hother
    · cases heq
      exact ⟨_, hheld, rfl, held, Or.inl ⟨hconfirmed, last hconfirmed hunacked⟩⟩
  | gaveUp hop hid hheld link held retry trace =>
    rename_i id u
    rw [htrace, trace] at h
    have hn : n = u.transmissions := by
      rcases List.mem_cons.mp h with hblocked | hlast
      · cases hblocked
      · cases List.mem_singleton.mp hlast
        rfl
    -- the call was the attempt itself, which succeeded and held nothing afterwards
    have hmade : t.made r d = (.ok (), s') := Prod.ext hresult hs
    unfold Turn.made at hmade
    rw [hop] at hmade
    have hrun := (alarm_retransmit (r := r) (s := t.session d) hid).symm.trans hmade
    have hretry := (retransmit_cases r hrun).never_of_dropped hheld held
    exact ⟨u, hheld, hn, held, Or.inr ⟨⟨id, hop, hid⟩, hretry.closed, hretry.wait⟩⟩
  | lost _ _ _ _ _ _ signals =>
    rw [signals] at hsignal
    cases hsignal
  | repeated _ _ _ _ _ trace =>
    rw [htrace, trace] at h
    exact absurd (final?_of_mem_actions h) nofun
  | launched hop _ _ _ _ =>
    rw [hop] at hnew
    cases hnew

/-! ## All runs -/

/-- Where no uplink is held, none is until a new one is sent. -/
theorem held_of_undisturbed {d : EndDevice} {ts : List (Turn σ)} (hnone : d.held = none)
    (hnew : d.undisturbed r ts = true) : (d.afterAll r ts).held = none := by
  induction ts generalizing d with
  | nil => exact hnone
  | cons t rest ih =>
    obtain ⟨hhead, htail⟩ := Bool.and_eq_true_iff.mp hnew
    have hlaunch : t.launches r d = false := by simpa using hhead
    refine ih ?_ htail
    cases fate_of_effect hlaunch with
    | kept held _ => exact held.trans hnone
    | released _ held _ _ _ => exact held
    | gaveUp _ held _ => exact held
    | lost _ _ _ _ held _ => exact held
    | repeated _ hheld _ _ _ => exact absurd (hheld.symm.trans hnone) nofun

/-- The uplink that is held goes back to the last call that sent one. -/
theorem sent_of_held {d : EndDevice} (hnone : d.held = none) (hholding : Holding d)
    {before : List (Turn σ)} {u : HeldUplink} (hu : (d.afterAll r before).held = some u) :
    ∃ pre t₀ mid payload port confirmed, before = pre ++ t₀ :: mid ∧
      t₀.op = .send payload port confirmed ∧ t₀.result r (d.afterAll r pre) = .ok () ∧
      (t₀.after r (d.afterAll r pre)).undisturbed r mid = true ∧
      SameUplink ((d.afterAll r pre).newUplink r payload port confirmed) u := by
  rcases last_launch r d before with hquiet | ⟨pre, t₀, mid, rfl, hlaunch, hmid⟩
  · exact absurd (hu.symm.trans (held_of_undisturbed hnone hquiet)) nofun
  · obtain ⟨hop, hok⟩ := Turn.result_of_launches r hlaunch
    cases hsend : t₀.op with
    | send payload port confirmed =>
      have hbegin := standing_launched hsend hok
      have hend := standing_run hbegin (holding_step (holding_run hholding pre) t₀) hmid
      rw [afterAll_append] at hu
      exact ⟨pre, t₀, mid, payload, port, confirmed, rfl, hsend, hok, hmid, (hend.of_some hu).1⟩
    | _ =>
      rw [hsend] at hop
      cases hop

variable (r)

/--
**An unconfirmed uplink is reported as exhausted just if its repeat has become impossible.**

However a device is driven, and whatever its caller does to the channels: what is reported as
exhausted is the uplink that was sent last, with the number of its frames, and it is held no more.
It is a confirmed one whose attempts are used up, or its next attempt is due and will never be
allowed. In the second case it is always reported, together with the duty cycle, and whether it is
confirmed makes no difference.
-/
theorem exhaustion_reported (address : DeviceAddress) (settings : Settings) (plan : Plan)
    (before : List (Turn σ)) (t : Turn σ) :
    let d₀ := initial address settings plan
    let d := d₀.afterAll r before
    (∀ n, .event (.maxTransmissionsReached n) ∈ t.trace r d →
      ∃ pre t₀ mid payload port confirmed u, before = pre ++ t₀ :: mid ∧
        t₀.op = .send payload port confirmed ∧ t₀.result r (d₀.afterAll r pre) = .ok () ∧
        (t₀.after r (d₀.afterAll r pre)).undisturbed r mid = true ∧
        SameUplink ((d₀.afterAll r pre).newUplink r payload port confirmed) u ∧
        d.held = some u ∧ n = u.transmissions ∧ (t.after r d).held = none ∧
        (confirmed = true ∧ u.attemptsLeft = 0 ∨ Hopeless t d u)) ∧
    ∀ u, d.held = some u → Hopeless t d u → t.trace r d =
      [.event .dutyCycleBlocked, .event (.maxTransmissionsReached u.transmissions)] := by
  intro d₀ d
  refine ⟨?_, fun u hheld hhopeless => hhopeless.trace hheld⟩
  intro n h
  -- Whoever reports this holds an uplink, and that goes back to the call that sent it.
  obtain ⟨u, hheld, hn, hgone, hcase⟩ := exhausted_cases h
  obtain ⟨pre, t₀, mid, payload, port, confirmed, hsplit, hop, hok, hmid, hsame⟩ :=
    sent_of_held rfl (holding_init address settings plan) hheld
  refine ⟨pre, t₀, mid, payload, port, confirmed, u, hsplit, hop, hok, hmid, hsame, hheld, hn,
    hgone, hcase.imp_left fun hlast => ⟨?_, hlast.2⟩⟩
  exact hsame.confirmed.symm.trans hlast.1

/--
An unconfirmed uplink that is to be on air twice. Nobody answers it, and before it is repeated the
caller removes the channels.
-/
def withdrawnRun : List (Turn Simulation.View) :=
  [.onBench 0 (.send [1, 2, 3] 1 false), .onBench 1 .txFinished, .onBench 2 (.alarm ⟨0⟩ .openRx1),
    .onBench 3 (.alarm ⟨0⟩ .closeRx1), .onBench 4 (.alarm ⟨1⟩ .openRx2),
    .onBench 5 (.alarm ⟨0⟩ .closeRx2), .onBench 6 (.editPlan
      (((Region.eu868.defaultPlan.removeChannel 0).removeChannel 1).removeChannel 2))]

/-- The device after that run. -/
def withdrawn : EndDevice :=
  (initial ⟨5⟩ { transmissions := 2 } Region.eu868.defaultPlan).afterAll .eu868 withdrawnRun

theorem hopeless_withdrawn : ∃ u, withdrawn.held = some u ∧ u.confirmed = false ∧
    Hopeless (Turn.onBench 20 (.alarm ⟨0⟩ .retransmit)) withdrawn u := by
  have hheld : withdrawn.held.map (fun u => (u.confirmed, u.rate)) = some (false, 0) := by
    decide +kernel
  have hid : withdrawn.alarms.retransmit = some ⟨0⟩ := by decide +kernel
  have hclosed : withdrawn.rxWindowsPending = false := by decide +kernel
  -- Waits can be compared, faults cannot, so the wait is evaluated without its fault.
  have hwait : (withdrawn.earliestDelay (.ofSeconds 20) 0).toOption = some .never := by
    decide +kernel
  have hnever : withdrawn.earliestDelay (.ofSeconds 20) 0 = .ok .never := by
    cases hdelay : withdrawn.earliestDelay (.ofSeconds 20) 0 with
    | error f =>
      rw [hdelay] at hwait
      cases hwait
    | ok wait =>
      rw [hdelay] at hwait
      exact congrArg Except.ok (Option.some.inj hwait)
  obtain ⟨u, hu, hpair⟩ := Option.map_eq_some_iff.mp hheld
  obtain ⟨hunconfirmed, hrate⟩ := Prod.mk.inj hpair
  exact ⟨u, hu, hunconfirmed, ⟨⟨0⟩, rfl, hid⟩, hclosed, hrate ▸ hnever⟩

/-- The uplink of that run is reported when its repeat is due, and was sent unconfirmed. -/
theorem exhaustion_reported_withdrawn :
    ∃ u, withdrawn.held = some u ∧
      (Turn.onBench 20 (.alarm ⟨0⟩ .retransmit)).trace .eu868 withdrawn =
        [.event .dutyCycleBlocked, .event (.maxTransmissionsReached u.transmissions)] ∧
      ∃ pre t₀ mid payload port, withdrawnRun = pre ++ t₀ :: mid ∧
        t₀.op = .send payload port false := by
  obtain ⟨u, hheld, hunconfirmed, hhopeless⟩ := hopeless_withdrawn
  obtain ⟨hsound, hcomplete⟩ := exhaustion_reported .eu868 ⟨5⟩ { transmissions := 2 }
    Region.eu868.defaultPlan withdrawnRun (Turn.onBench 20 (.alarm ⟨0⟩ .retransmit))
  have htrace := hcomplete u hheld hhopeless
  have hmem : .event (.maxTransmissionsReached u.transmissions) ∈
      (Turn.onBench 20 (.alarm ⟨0⟩ .retransmit)).trace .eu868 withdrawn := by
    rw [withdrawn, htrace]
    exact List.mem_cons_of_mem _ (List.mem_singleton_self _)
  obtain ⟨pre, t₀, mid, payload, port, confirmed, v, hsplit, hop, -, -, hsame, hv, -⟩ :=
    hsound u.transmissions hmem
  obtain rfl : v = u := Option.some.inj (hv.symm.trans hheld)
  obtain rfl : confirmed = false := hsame.confirmed.symm.trans hunconfirmed
  exact ⟨v, hheld, htrace, pre, t₀, mid, payload, port, hsplit, hop⟩

/-- It is not always a confirmed uplink that is reported as exhausted. -/
theorem unconfirmed_exhausted :
    ¬∀ (settings : Settings) (before : List (Turn Simulation.View)) (t : Turn Simulation.View)
        (n : Nat) (u : HeldUplink),
      ((initial ⟨5⟩ settings Region.eu868.defaultPlan).afterAll .eu868 before).held = some u →
      .event (.maxTransmissionsReached n) ∈ t.trace .eu868
        ((initial ⟨5⟩ settings Region.eu868.defaultPlan).afterAll .eu868 before) →
      u.confirmed = true := by
  intro h
  obtain ⟨u, hheld, hunconfirmed, hhopeless⟩ := hopeless_withdrawn
  have hreport : .event (.maxTransmissionsReached u.transmissions) ∈
      (Turn.onBench 20 (.alarm ⟨0⟩ .retransmit)).trace .eu868 withdrawn := by
    rw [hhopeless.trace hheld]
    exact List.mem_cons_of_mem _ (List.mem_singleton_self _)
  rw [h _ withdrawnRun _ _ u hheld hreport] at hunconfirmed
  cases hunconfirmed

end EndDevice

end LoraLink
