import LoraLink.Gateway
import LoraLink.Proofs.Legality

/-!
# The downlinks of a gateway

A gateway sends when it is asked to, if it may. Whoever plans a downlink asks it before how long the
frequency stays closed, and that question and the attempt to send look up the sub-band by the same
rule. So the answer can be relied upon: a downlink goes out just if the gateway is idle, the answer
is that there is nothing to wait for, the data rate is one of the region, and the radio accepts.

What a gateway remembers is its plan and whether it is sending. A call that fails changes neither.
One that succeeds makes the gateway busy until it is told that the downlink has left the antenna,
and registers the downlink with the plan. So over any run there is one downlink at a time, and each
keeps the silence that those before it in its sub-band ask for.
-/

namespace LoraLink

/-- If it is a request, the radio has accepted it. -/
def Action.isObeyed : Action → Bool
  | .radio _ accepted => accepted
  | _ => true

namespace Gateway

/-! ## Runs -/

/-- What the caller of a gateway may do. -/
inductive Op where
  | send (frame : List UInt8) (rate : DataRate) (frequency : Nat)
  | txFinished
  | receive (bytes : List UInt8) (reception : Reception)
  | failedReception
  | alarm (id : EventId) (alarm : Alarm)

/-- A call in a run, with the host and the random numbers it finds. -/
structure Turn (σ : Type) where
  op : Op
  host : σ
  random : Random

section

variable {σ : Type} [Host σ] (r : Region)

/-- What is called. -/
def Op.call : Op → Call Gateway σ Unit
  | .send frame rate frequency => Gateway.send r frame rate frequency
  | .txFinished => Gateway.txFinished
  | .receive bytes reception => Gateway.receive bytes reception
  | .failedReception => Gateway.failedReception
  | .alarm id a => Gateway.alarm id a

namespace Turn

/-- The session in which a gateway is called. -/
def session (t : Turn σ) (g : Gateway) : Session Gateway σ :=
  { node := g, host := t.host, random := t.random }

/-- The result of the call, and the session after it. -/
def made (t : Turn σ) (g : Gateway) : Except Failure Unit × Session Gateway σ :=
  (t.op.call r).run (t.session g)

def result (t : Turn σ) (g : Gateway) : Except Failure Unit := (t.made r g).1

/-- The gateway after the call. -/
def after (t : Turn σ) (g : Gateway) : Gateway := (t.made r g).2.node

/-- What was done in the call. -/
def trace (t : Turn σ) (g : Gateway) : List Action := (t.made r g).2.trace

/-- The downlinks that the radio accepted in the call. -/
def transmissions (t : Turn σ) (g : Gateway) : List Transmission :=
  (t.trace r g).filterMap (Action.transmission? t.host)

end Turn

/-- The gateway after a run. -/
def afterAll (g : Gateway) : List (Turn σ) → Gateway
  | [] => g
  | t :: rest => (t.after r g).afterAll rest

/-- The downlinks that the radio accepted in a run, first to last. -/
def transmissions (g : Gateway) : List (Turn σ) → List Transmission
  | [] => []
  | t :: rest => t.transmissions r g ++ (t.after r g).transmissions rest

end

/-! ## What can come of a call -/

/-- There is nothing to wait for just if the frequency is in a sub-band that is open. -/
theorem waitingTime_isZero {g : Gateway} {now : Instant} {frequency : Nat} :
    (g.waitingTime now frequency).isZero = true ↔
      ∃ b, g.plan.subBand? frequency = some b ∧ (b.waitingTime now).isZero = true := by
  unfold waitingTime
  cases hb : g.plan.subBand? frequency with
  | none =>
    have hnever : Duration.never.isZero = false := by decide
    simp [hnever]
  | some b => simp

variable {σ : Type} [Host σ] {r : Region}

/-- The gateway is idle, and the sub-band of the frequency is open. -/
structure Clear (s : Session Gateway σ) (frequency : Nat) (b : SubBand) : Prop where
  idle : s.node.transmitting = false
  band : s.node.plan.subBand? frequency = some b
  opened : (b.waitingTime (Host.now s.host)).isZero = true

/-- How a call to send a downlink can end. -/
inductive Sent (r : Region) (frame : List UInt8) (rate : DataRate) (frequency : Nat)
    (s : Session Gateway σ) : Except Failure Unit → Session Gateway σ → Prop where
  | busy (h : s.node.transmitting = true) :
      Sent r frame rate frequency s (.error (.refused .transmissionInProgress)) s
  | outside (h : s.node.plan.subBand? frequency = none) :
      Sent r frame rate frequency s (.error (.region .invalidFrequency)) s
  | closed {b : SubBand} (hb : s.node.plan.subBand? frequency = some b)
      (h : (b.waitingTime (Host.now s.host)).isZero = false) :
      Sent r frame rate frequency s (.error (.refused .noValidChannelFound))
        (s.did [.event .dutyCycleBlocked])
  | unmodulated {b : SubBand} {e : RegionError} (hclear : Clear s frequency b)
      (hm : r.modulation rate = .error e) :
      Sent r frame rate frequency s (.error (.region e)) s
  | refused {b : SubBand} {m : Modulation} {q : RadioRequest} (hclear : Clear s frequency b)
      (hm : r.modulation rate = .ok m)
      (hrequest : q = .send (transmitConfig r b.maxPower frequency m) frame)
      (hq : s.accepts q = false) :
      Sent r frame rate frequency s (.error (.radio q)) (s.asked q)
  | sent {b : SubBand} {m : Modulation} {config : TransmitConfig} {plan : Plan}
      (hclear : Clear s frequency b) (hm : r.modulation rate = .ok m)
      (hconfig : config = transmitConfig r b.maxPower frequency m)
      (hq : s.accepts (.send config frame) = true)
      (hplan : s.node.plan.register (Host.now s.host)
        (Host.airtime config frame.length s.host) frequency = .ok plan) :
      Sent r frame rate frequency s (.ok ())
        ((s.asked (.send config frame)).withNode { plan, transmitting := true })

theorem send_cases {frame : List UInt8} {rate : DataRate} {frequency : Nat}
    {s s' : Session Gateway σ} {res : Except Failure Unit}
    (h : (send r frame rate frequency).run s = (res, s')) :
    Sent r frame rate frequency s res s' := by
  unfold send at h
  rw [Call.run_bind_ok (Call.run_now s), Call.run_bind_ok (Call.run_node s)] at h
  dsimp only at h
  by_cases hbusy : s.node.transmitting = true
  · rw [if_pos hbusy] at h
    cases h
    exact .busy hbusy
  rw [if_neg hbusy] at h
  cases hb : s.node.plan.subBand? frequency with
  | none =>
    rw [hb] at h
    cases h
    exact .outside hb
  | some b =>
    rw [hb] at h
    dsimp only at h
    by_cases hwait : (b.waitingTime (Host.now s.host)).isZero = true
    case neg =>
      rw [if_neg hwait] at h
      cases h
      exact .closed hb (Bool.eq_false_iff.mpr hwait)
    rw [if_pos hwait] at h
    have hclear : Clear s frequency b := ⟨Bool.eq_false_iff.mpr hbusy, hb, hwait⟩
    rcases Call.ofRegion_bind_cases h with ⟨m, hm, h⟩ | ⟨e, hm, rfl, rfl⟩
    case inr => exact .unmodulated hclear hm
    rw [Call.run_bind_ok (Call.run_airtime _ _ s)] at h
    rcases Call.radio_bind_cases h with ⟨hq, h⟩ | ⟨hq, rfl, rfl⟩
    case inr => exact .refused hclear hm rfl hq
    -- The sub-band that was open takes the downlink, too.
    obtain ⟨plan, hplan⟩ := Plan.register_isOk hb (Host.now s.host)
      (Host.airtime (transmitConfig r b.maxPower frequency m) frame.length s.host)
    rw [hplan] at h
    cases h
    exact .sent hclear hm rfl hq hplan

/-- A call to send a downlink that fails leaves the gateway as it was. -/
theorem Sent.unchanged {frame : List UInt8} {rate : DataRate} {frequency : Nat}
    {s s' : Session Gateway σ} {e : Failure} (h : Sent r frame rate frequency s (.error e) s') :
    s'.node = s.node := by
  cases h <;> rfl

/-- Unless the radio refuses, a call to send a downlink succeeds just if it may. -/
theorem Sent.isOk_iff {frame : List UInt8} {rate : DataRate} {frequency : Nat}
    {s s' : Session Gateway σ} {res : Except Failure Unit}
    (h : Sent r frame rate frequency s res s') (hradio : s'.trace.all Action.isObeyed = true) :
    res = .ok () ↔ s.node.transmitting = false ∧
      (s.node.waitingTime (Host.now s.host) frequency).isZero = true ∧
      ∃ m, r.modulation rate = .ok m := by
  rw [waitingTime_isZero]
  cases h with
  | busy hbusy => simp [hbusy]
  | outside hnone => simp [hnone]
  | closed hb hwait => simp [hb, hwait]
  | unmodulated _ hm => simp [hm]
  | refused hclear hm hrequest hq =>
    unfold Session.asked at hradio
    rw [hq] at hradio
    simp [Action.isObeyed] at hradio
  | sent hclear hm _ _ _ => simp [hclear.idle, hclear.band, hclear.opened, hm]

/-! ## What a call does to the gateway -/

/-- A downlink is on air as it was asked for, and accounted for. -/
structure OnAir (r : Region) (frame : List UInt8) (rate : DataRate) (frequency : Nat) (t : Turn σ)
    (g : Gateway) (x : Transmission) (b : SubBand) (m : Modulation) (g' : Gateway) : Prop where
  start : x.start = Host.now t.host
  airtime : x.airtime = Host.airtime x.config frame.length t.host
  config : x.config = transmitConfig r b.maxPower frequency m
  frame : x.frame = frame
  modulation : r.modulation rate = .ok m
  clear : Clear (t.session g) frequency b
  registered : g.plan.register x.start x.airtime x.config.frequency = .ok g'.plan
  busy : g'.transmitting = true

/-- The effect of a call on a gateway. -/
inductive Effect (r : Region) (t : Turn σ) (g : Gateway) : Prop where
  | kept (silent : t.transmissions r g = []) (after : t.after r g = g)
  | finished (hop : t.op = .txFinished) (silent : t.transmissions r g = [])
      (after : t.after r g = { g with transmitting := false })
  | sent {frame : List UInt8} {rate : DataRate} {frequency : Nat} {x : Transmission} {b : SubBand}
      {m : Modulation} (hop : t.op = .send frame rate frequency) (one : t.transmissions r g = [x])
      (onAir : OnAir r frame rate frequency t g x b m (t.after r g))

/-- How a call to send a downlink ends. -/
inductive Attempted (r : Region) (frame : List UInt8) (rate : DataRate) (frequency : Nat)
    (t : Turn σ) (g : Gateway) : Except Failure Unit → Prop where
  | failed {e : Failure} (silent : t.transmissions r g = []) (after : t.after r g = g) :
      Attempted r frame rate frequency t g (.error e)
  | sent {x : Transmission} {b : SubBand} {m : Modulation} (one : t.transmissions r g = [x])
      (onAir : OnAir r frame rate frequency t g x b m (t.after r g)) :
      Attempted r frame rate frequency t g (.ok ())

theorem sent_send {t : Turn σ} {g : Gateway} {frame : List UInt8} {rate : DataRate}
    {frequency : Nat} (hop : t.op = .send frame rate frequency) :
    Sent r frame rate frequency (t.session g) (t.result r g) (t.made r g).2 := by
  have hrun : (t.op.call r).run (t.session g) = (t.result r g, (t.made r g).2) := rfl
  rw [hop] at hrun
  exact send_cases hrun

/-- A call to send a downlink fails and changes nothing, or puts the downlink on air. -/
theorem attempted_send {t : Turn σ} {g : Gateway} {frame : List UInt8} {rate : DataRate}
    {frequency : Nat} (hop : t.op = .send frame rate frequency) :
    Attempted r frame rate frequency t g (t.result r g) := by
  have hsent := sent_send (r := r) (g := g) hop
  have htransmissions : t.transmissions r g =
      (t.made r g).2.trace.filterMap (Action.transmission? t.host) := rfl
  have hafter : t.after r g = (t.made r g).2.node := rfl
  -- The cases below are on what the call has come to, not on how it is computed.
  generalize t.result r g = res at hsent ⊢
  generalize (t.made r g).2 = s' at hsent htransmissions hafter
  cases hsent with
  | busy _ => exact .failed htransmissions hafter
  | outside _ => exact .failed htransmissions hafter
  | closed _ _ => exact .failed htransmissions hafter
  | unmodulated _ _ => exact .failed htransmissions hafter
  | refused hclear hm hrequest hq =>
    refine .failed ?_ hafter
    rw [htransmissions]
    unfold Session.asked
    rw [hq, hrequest]
    rfl
  | sent hclear hm hconfig hq hplan =>
    rename_i b m config plan
    let x : Transmission :=
      ⟨Host.now t.host, Host.airtime config frame.length t.host, config, frame⟩
    have hone : t.transmissions r g = [x] := by
      rw [htransmissions]
      change ([] ++ [Action.radio (.send config frame)
        ((t.session g).accepts (.send config frame))]).filterMap _ = _
      rw [hq]
      rfl
    have honAir : OnAir r frame rate frequency t g x b m (t.after r g) := by
      rw [hafter]
      exact
        { start := rfl
          airtime := rfl
          config := hconfig
          frame := rfl
          modulation := hm
          clear := hclear
          registered := by
            subst hconfig
            exact hplan
          busy := rfl }
    exact .sent hone honAir

/-- A call that does nothing but report keeps the gateway as it is. -/
theorem effect_of_reports {t : Turn σ} {g : Gateway} {res : Except Failure Unit} (es : List Event)
    (h : t.made r g = (res, (t.session g).did (es.map .event))) : Effect r t g := by
  refine .kept ?_ ?_
  · unfold Turn.transmissions Turn.trace
    rw [h]
    exact EndDevice.transmissions_of_events t.host es
  · unfold Turn.after
    rw [h]
    rfl

/-- Of a frame that is received, at most its arrival is reported. -/
theorem effect_receive {t : Turn σ} {g : Gateway} {bytes : List UInt8} {reception : Reception}
    (hop : t.op = .receive bytes reception) : Effect r t g := by
  have hmade : t.made r g = (Gateway.receive bytes reception).run (t.session g) := by
    unfold Turn.made
    rw [hop]
    rfl
  unfold receive at hmade
  split at hmade
  · split at hmade
    · exact effect_of_reports [.uplinkReceived bytes reception] hmade
    · exact effect_of_reports [] hmade
  · exact effect_of_reports [] hmade

/-- When a downlink has left the antenna, the gateway is idle, even if the radio does not obey. -/
theorem effect_txFinished {t : Turn σ} {g : Gateway} (hop : t.op = .txFinished) : Effect r t g := by
  let s := (t.session g).withNode { g with transmitting := false }
  have hmade : (t.made r g).2 = s.asked .standby := by
    unfold Turn.made
    rw [hop]
    change ((Gateway.txFinished : Call Gateway σ Unit).run (t.session g)).2 = _
    unfold Gateway.txFinished
    rw [Call.run_bind_ok (Call.run_modifyNode _ (t.session g))]
    change ((Call.radio .standby : Call Gateway σ Unit).run s).2 = _
    -- Refused or not, the request to the radio is all that happens.
    cases hq : s.accepts .standby with
    | true => rw [Call.run_radio_ok hq]
    | false => rw [Call.run_radio_error hq]
  refine .finished hop ?_ ?_
  · unfold Turn.transmissions Turn.trace
    rw [hmade]
    rfl
  · unfold Turn.after
    rw [hmade]
    rfl

/-- **A call keeps the gateway as it is, ends its downlink, or puts a downlink on air.** -/
theorem effect (t : Turn σ) (g : Gateway) : Effect r t g := by
  -- What a gateway does not care for is no more than an empty report.
  have hnothing : (t.op.call r : Call Gateway σ Unit) = pure () → Effect r t g := by
    intro hcall
    have hmade : t.made r g = (.ok (), t.session g) := by
      unfold Turn.made
      rw [hcall]
      rfl
    exact effect_of_reports [] hmade
  cases hop : t.op with
  | send frame rate frequency =>
    have hattempted := attempted_send (r := r) (g := g) hop
    generalize t.result r g = res at hattempted
    cases hattempted with
    | failed silent after => exact .kept silent after
    | sent one onAir => exact .sent hop one onAir
  | txFinished => exact effect_txFinished hop
  | receive bytes reception => exact effect_receive hop
  | failedReception => exact hnothing (by rw [hop]; rfl)
  | alarm id a => exact hnothing (by rw [hop]; rfl)

/-! ## One downlink at a time -/

/-- A call that puts a downlink on air finds the gateway idle and leaves it busy. -/
theorem busy_of_transmission {t : Turn σ} {g : Gateway} {x : Transmission}
    (hx : x ∈ t.transmissions r g) :
    g.transmitting = false ∧ (t.after r g).transmitting = true ∧ t.transmissions r g = [x] := by
  cases effect (r := r) t g with
  | kept silent _ =>
    rw [silent] at hx
    cases hx
  | finished _ silent _ =>
    rw [silent] at hx
    cases hx
  | sent _ one onAir =>
    rw [one] at hx
    obtain rfl := List.mem_singleton.mp hx
    exact ⟨onAir.clear.idle, onAir.busy, one⟩

/-- A gateway that is sending goes on sending until it is told that it has finished. -/
theorem busy_step {t : Turn σ} {g : Gateway} (hbusy : g.transmitting = true)
    (hop : t.op ≠ .txFinished) : (t.after r g).transmitting = true := by
  cases effect (r := r) t g with
  | kept _ after =>
    rw [after]
    exact hbusy
  | finished hfinished _ _ => exact absurd hfinished hop
  | sent _ _ onAir => exact onAir.busy

theorem busy_run {g : Gateway} {ts : List (Turn σ)} (hbusy : g.transmitting = true)
    (hops : ∀ t ∈ ts, t.op ≠ .txFinished) : (g.afterAll r ts).transmitting = true := by
  induction ts generalizing g with
  | nil => exact hbusy
  | cons t rest ih =>
    have hstill : (t.after r g).transmitting = true := busy_step hbusy (hops t List.mem_cons_self)
    exact ih hstill fun t' ht' => hops t' (List.mem_cons_of_mem t ht')

theorem afterAll_append (g : Gateway) (ts us : List (Turn σ)) :
    g.afterAll r (ts ++ us) = (g.afterAll r ts).afterAll r us := by
  induction ts generalizing g with
  | nil => rfl
  | cons t rest ih => exact ih (t.after r g)

/-- **Between two downlinks the gateway was told that the first has finished.** -/
theorem finished_between {g : Gateway} {pre mid : List (Turn σ)} {t t' : Turn σ}
    {x x' : Transmission} (hx : x ∈ t.transmissions r (g.afterAll r pre))
    (hx' : x' ∈ t'.transmissions r (g.afterAll r (pre ++ t :: mid))) :
    ∃ u ∈ mid, u.op = .txFinished := by
  obtain ⟨-, hbusy, -⟩ := busy_of_transmission hx
  obtain ⟨hidle, -, -⟩ := busy_of_transmission hx'
  rw [afterAll_append] at hidle
  -- Else it would have been busy all the time in between.
  refine Classical.byContradiction fun hnone => ?_
  have hstill := busy_run (r := r) hbusy fun u hu hop => hnone ⟨u, hu, hop⟩
  exact Bool.false_ne_true (hidle.symm.trans hstill)

/-! ## Silence between downlinks -/

/-- **A call keeps the discipline of the plan.** -/
theorem disciplined_step {p₀ : Plan} {past : List Transmission} {g : Gateway}
    (h : Plan.Disciplined p₀ past g.plan) (t : Turn σ) :
    Plan.Disciplined p₀ (past ++ t.transmissions r g) (t.after r g).plan := by
  cases effect (r := r) t g with
  | kept silent after =>
    rw [silent, after, List.append_nil]
    exact h
  | finished _ silent after =>
    rw [silent, after, List.append_nil]
    exact h
  | sent hop one onAir =>
    rename_i frame rate frequency x b m
    have hband : g.plan.subBand? x.config.frequency = some b := by
      rw [onAir.config]
      exact onAir.clear.band
    -- The frame starts when the call is made, so the sub-band was open at its start.
    have hopen : (b.waitingTime x.start).isZero = true := by
      rw [onAir.start]
      exact onAir.clear.opened
    rw [one]
    exact h.register hband hopen onAir.registered

theorem disciplined_run {p₀ : Plan} {past : List Transmission} {g : Gateway}
    (h : Plan.Disciplined p₀ past g.plan) (ts : List (Turn σ)) :
    Plan.Disciplined p₀ (past ++ g.transmissions r ts) (g.afterAll r ts).plan := by
  induction ts generalizing past g with
  | nil =>
    rw [transmissions, List.append_nil]
    exact h
  | cons t rest ih =>
    rw [transmissions, ← List.append_assoc]
    exact ih (disciplined_step h t)

/-! ## All downlinks of a run -/

variable (r)

/-- What a gateway does when it is asked to send. -/
structure Honours (frame : List UInt8) (rate : DataRate) (frequency : Nat) (t : Turn σ)
    (g : Gateway) : Prop where
  /-- Unless the radio refuses, the downlink goes out just if it may. -/
  sent_iff : (t.trace r g).all Action.isObeyed = true →
    (t.result r g = .ok () ↔ g.transmitting = false ∧
      (g.waitingTime (Host.now t.host) frequency).isZero = true ∧ ∃ m, r.modulation rate = .ok m)
  onAir : t.result r g = .ok () →
    ∃ x b m, t.transmissions r g = [x] ∧ OnAir r frame rate frequency t g x b m (t.after r g)
  /-- A call that fails leaves all as it was. -/
  unchanged : ∀ e, t.result r g = .error e → t.transmissions r g = [] ∧ t.after r g = g

variable {r}

theorem honours_send {t : Turn σ} {g : Gateway} {frame : List UInt8} {rate : DataRate}
    {frequency : Nat} (hop : t.op = .send frame rate frequency) :
    Honours r frame rate frequency t g := by
  have hattempted := attempted_send (r := r) (g := g) hop
  refine ⟨(sent_send hop).isOk_iff, ?_, ?_⟩
  · intro hok
    rw [hok] at hattempted
    cases hattempted with
    | sent one onAir => exact ⟨_, _, _, one, onAir⟩
  · intro e herror
    rw [herror] at hattempted
    cases hattempted with
    | failed silent after => exact ⟨silent, after⟩

/--
**A gateway sends what it may, one downlink at a time, and keeps the silence between them.**

The gateway may be called in any order, by hosts whose clocks and radios behave in any way. Asked to
send, it does so just if it is idle, the frequency is one it need not wait for, and the data rate is
one of its region; if that fails, or the radio refuses, it is as it was. No call puts two downlinks
on air, and between any two the gateway was told that the first has finished. Of any two in one
sub-band, the later starts after the silence that the earlier asks for.
-/
theorem downlink_discipline (r : Region) (p₀ : Plan) :
    let g₀ : Gateway := { plan := p₀ }
    (∀ (before : List (Turn σ)) (t : Turn σ) (frame : List UInt8) (rate : DataRate)
      (frequency : Nat), t.op = .send frame rate frequency →
      Honours r frame rate frequency t (g₀.afterAll r before)) ∧
    (∀ (before : List (Turn σ)) (t : Turn σ),
      (t.transmissions r (g₀.afterAll r before)).length ≤ 1) ∧
    (∀ (pre mid : List (Turn σ)) (t t' : Turn σ) (x x' : Transmission),
      x ∈ t.transmissions r (g₀.afterAll r pre) →
      x' ∈ t'.transmissions r (g₀.afterAll r (pre ++ t :: mid)) →
      ∃ u ∈ mid, u.op = .txFinished) ∧
    ∀ ts : List (Turn σ), (g₀.transmissions r ts).Pairwise (Plan.Spaced p₀) := by
  intro g₀
  refine ⟨?_, ?_, ?_, ?_⟩
  · intro before t frame rate frequency hop
    exact honours_send hop
  · intro before t
    -- A downlink that is on air is the only one of its call.
    cases hsome : t.transmissions r (g₀.afterAll r before) with
    | nil => exact Nat.zero_le 1
    | cons x rest =>
      have hmem : x ∈ t.transmissions r (g₀.afterAll r before) := by rw [hsome]; simp
      obtain ⟨-, -, hone⟩ := busy_of_transmission hmem
      rw [← hsome, hone]
      exact Nat.le_refl 1
  · intro pre mid t t' x x' hx hx'
    exact finished_between hx hx'
  · intro ts
    have hdisciplined := disciplined_run (g := g₀) (r := r) (Plan.disciplined_init p₀) ts
    exact hdisciplined.spaced

/-- A call of a gateway on the bench. -/
def Turn.onBench (seconds : Nat) (op : Op) : Turn Simulation.View :=
  let bench := LoraLink.Turn.onBench seconds .txFinished
  { op, host := bench.host, random := bench.random }

/-- A downlink of one byte, as slow as it can be. -/
def benchSend (byte : UInt8) : Op := .send [byte] Region.eu868.defaultRate 868100000

/-- A downlink on the bench, from its start to its end. -/
def downlinkRun : List (Turn Simulation.View) :=
  [.onBench 0 (benchSend 1), .onBench 1 .txFinished]

/-- The gateway on the bench after its downlink. -/
def rested : Gateway :=
  ({ plan := Region.eu868.defaultPlan } : Gateway).afterAll .eu868 downlinkRun

/-- After a downlink another one is refused at first, and then goes out. -/
theorem downlink_discipline_twice :
    let early : Turn Simulation.View := .onBench 2 (benchSend 2)
    let late : Turn Simulation.View := .onBench 300 (benchSend 3)
    let sent := ({ plan := Region.eu868.defaultPlan } : Gateway).transmissions .eu868
      (downlinkRun ++ [late])
    (rested.waitingTime (Host.now early.host) 868100000).isZero = false ∧
      early.after .eu868 rested = rested ∧ late.result .eu868 rested = .ok () ∧
      sent.length = 2 ∧ sent.Pairwise (Plan.Spaced Region.eu868.defaultPlan) := by
  intro early late sent
  obtain ⟨hhonours, -, -, hspaced⟩ :=
    downlink_discipline (σ := Simulation.View) .eu868 Region.eu868.defaultPlan
  have hearly : Honours .eu868 [2] Region.eu868.defaultRate 868100000 early rested :=
    hhonours downlinkRun early _ _ _ rfl
  have hlate : Honours .eu868 [3] Region.eu868.defaultRate 868100000 late rested :=
    hhonours downlinkRun late _ _ _ rfl
  have hclosed : (rested.waitingTime (Host.now early.host) 868100000).isZero = false := by
    decide +kernel
  -- What fails changes nothing, and this call fails, since the sub-band is closed.
  have hkept : early.after .eu868 rested = rested := by
    have hfails : (early.result .eu868 rested).toBool = false := by decide +kernel
    obtain ⟨e, hfail⟩ := exists_error_of_toBool hfails
    exact (hearly.unchanged e hfail).2
  have hsent : late.result .eu868 rested = .ok () := by
    have hradio : (late.trace .eu868 rested).all Action.isObeyed = true := by decide +kernel
    have hidle : rested.transmitting = false := by decide +kernel
    have hopen : (rested.waitingTime (Host.now late.host) 868100000).isZero = true := by
      decide +kernel
    have hrate : Region.eu868.modulation Region.eu868.defaultRate = .ok ⟨.sf12, .khz125⟩ := rfl
    exact (hlate.sent_iff hradio).mpr ⟨hidle, hopen, _, hrate⟩
  exact ⟨hclosed, hkept, hsent, by decide +kernel, hspaced (downlinkRun ++ [late])⟩

end Gateway

end LoraLink
