import LoraLink.Proofs.Downlink
import LoraLink.Proofs.Run

/-!
# What a call does to the uplink

A device has at most one uplink that may have to be sent again. The central result is
`Turn.effect`: a call leaves that uplink alone, ends it in one of three ways, repeats it, or puts a
new one in its place. What the call signals says which.

All the rest of a device, its `link`, depends neither on the uplink nor on the windows. It changes
with what is sent, with what is heard, and when the caller asks for it.
-/

namespace LoraLink

namespace EndDevice

/-- The device without its exchange. -/
def link (d : EndDevice) : EndDevice :=
  { d with held := none, alarms := {}, deferredClose := none, transmitting := false }

variable {σ : Type}

/-! ## Nothing happens to the uplink -/

/-- Neither to the uplink nor to the link anything has happened in between. -/
structure Quiet (s s' : Session EndDevice σ) : Prop where
  signals : s'.signals = s.signals
  link : s'.node.link = s.node.link
  held : s'.node.held = s.node.held
  retry : s'.node.alarms.retransmit = s.node.alarms.retransmit

theorem Quiet.refl (s : Session EndDevice σ) : Quiet s s := ⟨rfl, rfl, rfl, rfl⟩

theorem Quiet.trans {s s' s'' : Session EndDevice σ} (h : Quiet s s') (h' : Quiet s' s'') :
    Quiet s s'' :=
  ⟨h'.signals.trans h.signals, h'.link.trans h.link, h'.held.trans h.held, h'.retry.trans h.retry⟩

theorem quiet_did {s : Session EndDevice σ} {actions : List Action}
    (h : ∀ a ∈ actions, a.isSignal = false) : Quiet s (s.did actions) :=
  ⟨Session.signals_did_of h, rfl, rfl, rfl⟩

theorem quiet_windowless (s : Session EndDevice σ) : Quiet s (windowless s) := ⟨rfl, rfl, rfl, rfl⟩

theorem quiet_disarmed {a : Alarm} (ha : a ≠ .retransmit) (s : Session EndDevice σ) :
    Quiet s (disarmed a s) := by
  refine ⟨rfl, rfl, rfl, ?_⟩
  cases a with
  | retransmit => exact absurd rfl ha
  | _ => rfl

theorem Selected.quiet {now : Instant} {rate : DataRate} {s s' : Session EndDevice σ}
    {res : Except Failure (Option Nat)} (h : Selected now rate s res s') : Quiet s s' := by
  obtain ⟨g, rfl⟩ := h.session
  exact ⟨rfl, rfl, rfl, rfl⟩

/-! ## Something may happen to it when the exchange ends -/

/-- What the end of an exchange can mean for the uplink. -/
inductive Settled (ack : Bool) (s s' : Session EndDevice σ) : Prop where
  /-- It is kept, or there is none. -/
  | kept (signals : s'.signals = s.signals) (link : s'.node.link = s.node.link)
      (held : s'.node.held = s.node.held)
      (retry : s'.node.alarms.retransmit = s.node.alarms.retransmit ∨
        ∃ u, s.node.held = some u ∧ 0 < u.attemptsLeft)
  | released {u : HeldUplink} (hheld : s.node.held = some u)
      (signals : s'.signals = s.signals ++ (outcome u ack).map .event)
      (link : s'.node.link = s.node.link) (held : s'.node.held = none)
      (retry : s'.node.alarms.retransmit = none)
      (last : u.confirmed = true → ack = false → u.attemptsLeft = 0)

theorem Quiet.settled {ack : Bool} {s s' : Session EndDevice σ} (h : Quiet s s') :
    Settled ack s s' :=
  .kept h.signals h.link h.held (Or.inl h.retry)

theorem Quiet.trans_settled {ack : Bool} {s s' s'' : Session EndDevice σ} (h : Quiet s s')
    (h' : Settled ack s' s'') : Settled ack s s'' := by
  cases h' with
  | kept signals link held retry =>
    refine .kept (signals.trans h.signals) (link.trans h.link) (held.trans h.held) ?_
    rw [h.held, h.retry] at retry
    exact retry
  | released hheld signals link held retry last =>
    rw [h.held] at hheld
    rw [h.signals] at signals
    exact .released hheld signals (link.trans h.link) held retry last

/-- All that is reported of an uplink when it is released is a signal. -/
theorem filter_outcome (u : HeldUplink) (ack : Bool) :
    ((outcome u ack).map Action.event).filter Action.isSignal = (outcome u ack).map .event := by
  unfold outcome
  cases u.confirmed <;> cases ack <;> rfl

theorem filter_abandoned (previous : Option HeldUplink) :
    ((abandoned previous).map Action.event).filter Action.isSignal =
      (abandoned previous).map .event := by
  cases previous <;> rfl

theorem signals_launched (r : Region) (previous : Option HeldUplink) (s : Session EndDevice σ) :
    (launched r previous s).signals = s.signals ++ (abandoned previous).map .event := by
  unfold launched
  rw [Session.signals_did_of]
  · change (s.did ((abandoned previous).map .event)).signals = _
    rw [Session.signals_did, filter_abandoned]
  · intro a ha
    obtain ⟨e, he, rfl⟩ := List.mem_map.mp ha
    exact countUplink_quiet r _ e he

variable [Host σ] {r : Region}

/-! ## Calls that leave the uplink alone -/

theorem quiet_asked {s : Session EndDevice σ} {q : RadioRequest}
    (h : (Action.radio q (s.accepts q)).isSignal = false) : Quiet s (s.asked q) :=
  ⟨Session.signals_asked_of h, rfl, rfl, rfl⟩

theorem quiet_scheduled (s : Session EndDevice σ) (delay : Duration) (a : Alarm) :
    Quiet s (s.scheduled delay a) := ⟨rfl, rfl, rfl, rfl⟩

theorem quiet_armed {a : Alarm} (ha : a ≠ .retransmit) (delay : Duration) (id : EventId)
    (s : Session EndDevice σ) : Quiet s (armed delay a id s) := by
  refine ⟨rfl, rfl, rfl, ?_⟩
  cases a with
  | retransmit => exact absurd rfl ha
  | _ => rfl

theorem Transmitted.quiet {u : HeldUplink} {i : Nat} {s s' : Session EndDevice σ} {e : Failure}
    (h : Transmitted r u i s (.error e) s') : Quiet s s' := by
  cases h with
  | refused hq => exact quiet_asked (by rw [hq]; rfl)
  | _ => exact Quiet.refl s

theorem Sent.quiet {payload : List UInt8} {port : UInt8} {confirmed : Bool}
    {s s' : Session EndDevice σ} {e : Failure} (h : Sent r payload port confirmed s (.error e) s') :
    Quiet s s' := by
  have hevent : ∀ {event : Event} {s₁ : Session EndDevice σ},
      (Action.event event).isSignal = false → Quiet s₁ (s₁.did [.event event]) := by
    intro event s₁ h
    refine quiet_did fun a ha => ?_
    rw [List.mem_singleton.mp ha]
    exact h
  cases h with
  | pending _ => exact hevent rfl
  | misplaced _ _ => exact Quiet.refl s
  | unlimited _ => exact Quiet.refl s
  | tooLong _ _ => exact hevent rfl
  | tooSoon _ _ => exact hevent rfl
  | unselected h => exact h.quiet
  | blocked h => exact h.quiet.trans (hevent rfl)
  | oversized _ _ h _ => exact h.quiet
  | failed _ h hsend => exact h.quiet.trans hsend.quiet

theorem Tuned.quiet {w : Window} {s s' : Session EndDevice σ} {res : Except Failure Modulation}
    (h : Tuned r w s res s') : Quiet s s' := by
  have hasked : ∀ {q q' : RadioRequest} {m : Modulation},
      q = .setFrequency (s.node.windowFrequency r w) →
      q' = .setSpreadingFactor m.spreadingFactor → Quiet s ((s.asked q).asked q') := by
    rintro _ _ m rfl rfl
    exact (quiet_asked rfl).trans (quiet_asked rfl)
  cases h with
  | noRate _ => exact Quiet.refl s
  | unmodulated _ _ => exact Quiet.refl s
  | noFrequency hq _ =>
    subst hq
    exact quiet_asked rfl
  | noSpreading hq hq' _ _ => exact hasked hq hq'
  | tuned _ _ hq hq' _ _ => exact hasked hq hq'

theorem Landed.quiet {s s' : Session EndDevice σ} {res : Except Failure Unit}
    (h : Landed r s res s') : Quiet s s' := by
  have hland : Quiet s (landed s) := ⟨rfl, rfl, rfl, rfl⟩
  have hfirst : Alarm.openRx1 ≠ .retransmit := Alarm.noConfusion
  have hsecond : Alarm.openRx2 ≠ .retransmit := Alarm.noConfusion
  -- However far the call gets, it asks the radio and sets alarms of windows, which is quiet.
  cases h with
  | idle _ => exact Quiet.refl s
  | untuned _ htune => exact hland.trans htune.quiet
  | awake _ htune _ => exact (hland.trans htune.quiet).trans (quiet_asked rfl)
  | full _ htune _ h₂ _ =>
    subst h₂
    exact ((hland.trans htune.quiet).trans (quiet_asked rfl)).trans (quiet_scheduled _ _ _)
  | halfFull _ htune _ h₂ _ h₃ _ =>
    subst h₂ h₃
    exact (((hland.trans htune.quiet).trans (quiet_asked rfl)).trans
      (quiet_armed hfirst _ _ _)).trans (quiet_scheduled _ _ _)
  | scheduled _ htune _ h₂ _ h₃ _ =>
    subst h₂ h₃
    exact (((hland.trans htune.quiet).trans (quiet_asked rfl)).trans
      (quiet_armed hfirst _ _ _)).trans (quiet_armed hsecond _ _ _)

theorem Opened.quiet {w : Window} {s s' : Session EndDevice σ} {res : Except Failure Unit}
    (h : Opened r w s res s') : Quiet s s' := by
  cases h with
  | skipped _ => exact Quiet.refl s
  | untuned htune => exact htune.quiet
  | asleep htune _ => exact htune.quiet.trans (quiet_asked rfl)
  | full htune _ h₂ _ =>
    subst h₂
    exact (htune.quiet.trans (quiet_asked rfl)).trans (quiet_scheduled _ _ _)
  | opened _ htune _ h₂ _ =>
    subst h₂
    have hclose : closeAlarm w ≠ .retransmit := by cases w <;> exact Alarm.noConfusion
    exact (htune.quiet.trans (quiet_asked rfl)).trans (quiet_armed hclose _ _ _)

/-! ## Calls that end an exchange -/

theorem Concluded.settled {received ack : Bool} {s s' : Session EndDevice σ}
    {res : Except Failure Unit} (h : Concluded received ack s res s') : Settled ack s s' := by
  cases h with
  | nothing _ => exact (Quiet.refl s).settled
  | again hheld hagain _ =>
    rename_i u id _
    refine .kept rfl rfl rfl (Or.inr ⟨u, hheld, ?_⟩)
    exact of_decide_eq_true (Bool.and_eq_true_iff.mp hagain).2
  | full _ _ _ => exact (quiet_scheduled s _ _).settled
  | released hheld hlast =>
    rename_i u
    refine .released hheld ?_ rfl rfl rfl ?_
    · unfold EndDevice.released
      rw [Session.signals_did, filter_outcome]
      rfl
    -- A confirmed uplink without its answer is let go only if no attempt is left.
    · intro hconfirmed hack
      unfold tryAgain at hlast
      rw [hconfirmed, hack, Bool.not_false, Bool.and_self, Bool.or_true, Bool.true_and] at hlast
      exact Nat.eq_zero_of_not_pos (of_decide_eq_false hlast)

theorem Parked.settled {s s' : Session EndDevice σ} {res : Except Failure Unit}
    (h : Parked s res s') : Settled false s s' := by
  cases h with
  | awake _ => exact (quiet_asked rfl).settled
  | waiting _ _ => exact (quiet_asked rfl).settled
  | closed _ _ h => exact (quiet_asked rfl).trans_settled h.settled

theorem Closed.settled {w : Window} {s s' : Session EndDevice σ} {res : Except Failure Unit}
    (h : Closed w s res s') : Settled false s s' := by
  cases h with
  | deferred _ => exact .kept rfl rfl rfl (Or.inl rfl)
  | parked _ h => exact h.settled

theorem Missed.settled {s s' : Session EndDevice σ} {res : Except Failure Unit}
    (h : Missed s res s') : Settled false s s' := by
  cases h with
  | nothing _ => exact (Quiet.refl s).settled
  | parked _ h =>
    have hquiet : Quiet s (resumed s) := ⟨rfl, rfl, rfl, rfl⟩
    exact hquiet.trans_settled h.settled

theorem Answered.settled {ack : Bool} {s s' : Session EndDevice σ} {res : Except Failure Unit}
    (h : Answered ack s res s') : Settled ack s s' := by
  cases h with
  | awake _ => exact ((quiet_windowless s).trans (quiet_asked rfl)).settled
  | concluded _ h => exact ((quiet_windowless s).trans (quiet_asked rfl)).trans_settled h.settled

/-! ## Calls that put a frame on air -/

/-- What belongs to a frame on air. -/
structure Airing where
  index : Nat
  channel : Channel
  band : SubBand
  modulation : Modulation
  config : TransmitConfig
  frame : List UInt8
  plan : Plan

variable (r)

/-- In a session, a frame of an uplink could go on air like this. -/
structure Aired (s : Session EndDevice σ) (u : HeldUplink) (a : Airing) : Prop where
  channel : s.node.plan.channel? a.index = some a.channel
  enabled : a.channel.enabled = true
  supports : a.channel.supports u.rate = true
  band : s.node.plan.subBand? a.channel.frequency = some a.band
  opened : (a.band.waitingTime (Host.now s.host)).isZero = true
  free : (s.node.plan.aggregatedWait (Host.now s.host)
    s.node.settings.aggregatedDutyCycle).isZero = true
  frame : s.node.frame r u = .ok a.frame
  modulation : r.modulation u.rate = .ok a.modulation
  config : s.node.transmitConfig r a.modulation a.channel = .ok a.config
  plan : s.node.plan.register (Host.now s.host) (Host.airtime a.config a.frame.length s.host)
    a.channel.frequency = .ok a.plan

/-- The transmission that such a frame is. -/
def Airing.transmission (host : σ) (a : Airing) : Transmission :=
  ⟨Host.now host, Host.airtime a.config a.frame.length host, a.config, a.frame⟩

/-- What is done when a frame goes on air. -/
def Airing.actions (u : HeldUplink) (a : Airing) : List Action :=
  [.radio (.send a.config a.frame) true, .event (onAirEvent u a.index a.frame.length)]

variable {r}

/-- A channel was drawn, and the frame went on air on it. -/
theorem Transmitted.aired {u : HeldUplink} {i : Nat} {s s₁ s₂ : Session EndDevice σ}
    (h : Transmitted r u i s₁ (.ok ()) s₂)
    (hselect : Selected (Host.now s.host) u.rate s (.ok (some i)) s₁)
    (hfree : (s.node.plan.aggregatedWait (Host.now s.host)
      s.node.settings.aggregatedDutyCycle).isZero = true) :
    ∃ a : Airing, Aired r s u a ∧ s₂.node = s.node.onAir u a.channel a.plan
      ∧ s₂.trace = s.trace ++ a.actions u := by
  obtain ⟨c, b, hc, hon, hrate, hb, hopen⟩ := hselect.usable
  obtain ⟨g, rfl⟩ := hselect.session
  cases h with
  | onAir hc' hf hm hconfig hq hplan =>
    rename_i c' frame m config plan
    -- The channel that was put on air is the one that was selected.
    have heq : some c' = some c := hc'.symm.trans hc
    cases heq
    refine ⟨⟨i, c, b, m, config, frame, plan⟩, ⟨hc, hon, hrate, hb, hopen, hfree, hf, hm, hconfig,
      hplan⟩, rfl, ?_⟩
    change (s.trace ++ [Action.radio (.send config frame)
      ((s.withRandom g).accepts (.send config frame))]) ++ [_] = _
    rw [hq, List.append_assoc]
    rfl

theorem Aired.config_eq {s : Session EndDevice σ} {u : HeldUplink} {a : Airing}
    (h : Aired r s u a) :
    ∃ b, s.node.plan.subBand? a.channel.frequency = some b ∧ a.config =
      { power := min (s.node.power r) b.maxPower
        frequency := a.channel.frequency
        codingRate := r.codingRate
        modulation := a.modulation
        preambleSymbols := r.preambleSymbols
        implicitHeader := false
        checksum := true
        lowDataRateOptimization := a.modulation.needsLowDataRateOptimization } := by
  rcases transmitConfig_cases r (d := s.node) (m := a.modulation) (c := a.channel) with
    ⟨b, hb, hok⟩ | ⟨f, _, herror⟩
  · have hconfig := h.config.symm.trans hok
    exact ⟨b, hb, Except.ok.inj hconfig⟩
  · have hconfig := h.config.symm.trans herror
    cases hconfig

/-- A frame goes on air on the frequency of its channel. -/
theorem Aired.frequency {s : Session EndDevice σ} {u : HeldUplink} {a : Airing}
    (h : Aired r s u a) : a.config.frequency = a.channel.frequency := by
  obtain ⟨b, _, hconfig⟩ := h.config_eq
  rw [hconfig]

/-! ## The effect of a call -/

variable (r)

/-- How all but the exchange of a device can change in a call that puts no frame on air. -/
inductive Relinked (t : Turn σ) (d : EndDevice) : EndDevice → Prop where
  | kept : Relinked t d d
  | heard {bytes : List UInt8} {reception : Reception} {frame : DataFrame} (status : Status)
      (hop : t.op = .receive bytes reception) (hframe : d.downlink? bytes = some frame) :
      Relinked t d (d.heeded r status frame).1
  | queued (hop : t.op = .requestLinkCheck) (hroom : d.queue.length < queueCapacity) :
      Relinked t d { d with queue := d.queue ++ [.linkCheckReq] }
  | edited {plan : Plan} (hop : t.op = .editPlan plan) : Relinked t d { d with plan }

/-- The call brings a downlink that acknowledges. -/
def Acknowledges (t : Turn σ) (d : EndDevice) : Prop :=
  ∃ bytes reception frame, t.op = .receive bytes reception ∧ d.downlink? bytes = some frame
    ∧ frame.header.control.ack = true

/-- The effect of a call on the uplink of a device. -/
inductive Effect (t : Turn σ) (d : EndDevice) :
    Except Failure Unit → Session EndDevice σ → Prop where
  /-- There is none, or it is left alone. -/
  | kept {res : Except Failure Unit} {s' : Session EndDevice σ} {x : EndDevice}
      (hlink : Relinked r t d x) (link : s'.node.link = x.link) (held : s'.node.held = d.held)
      (signals : s'.signals = [])
      (retry : s'.node.alarms.retransmit.isSome = true →
        d.alarms.retransmit.isSome = true ∨ ∃ u, d.held = some u ∧ 0 < u.attemptsLeft) :
      Effect t d res s'
  /-- It is through, or nobody will try again. -/
  | released {res : Except Failure Unit} {s' : Session EndDevice σ} {x : EndDevice}
      {u : HeldUplink} {ack : Bool} (hheld : d.held = some u) (hlink : Relinked r t d x)
      (link : s'.node.link = x.link) (held : s'.node.held = none)
      (retry : s'.node.alarms.retransmit = none)
      (signals : s'.signals = (outcome u ack).map .event)
      (last : u.confirmed = true → ack = false → u.attemptsLeft = 0)
      (hack : ack = true → Acknowledges t d) :
      Effect t d res s'
  /-- It is given up, since it may never be sent again. -/
  | gaveUp {s' : Session EndDevice σ} {id : EventId} {u : HeldUplink}
      (hop : t.op = .alarm id .retransmit) (hid : d.alarms.retransmit = some id)
      (hheld : d.held = some u) (link : s'.node.link = d.link) (held : s'.node.held = none)
      (retry : s'.node.alarms.retransmit = none)
      (trace : s'.trace =
        [.event .dutyCycleBlocked, .event (.maxTransmissionsReached u.transmissions)]) :
      Effect t d (.ok ()) s'
  /-- Sending it again has failed. -/
  | lost {e : Failure} {s' : Session EndDevice σ} {id : EventId} {u : HeldUplink}
      (hop : t.op = .alarm id .retransmit) (hid : d.alarms.retransmit = some id)
      (hheld : d.held = some u) (link : s'.node.link = d.link) (held : s'.node.held = none)
      (retry : s'.node.alarms.retransmit = none) (signals : s'.signals = []) :
      Effect t d (.error e) s'
  /-- It is on air once more. -/
  | repeated {s' : Session EndDevice σ} {id : EventId} {u : HeldUplink} {a : Airing}
      (hop : t.op = .alarm id .retransmit) (hid : d.alarms.retransmit = some id)
      (hheld : d.held = some u) (hair : Aired r (t.session d) u a)
      (node : s'.node =
        { d with alarms := d.alarms.set .retransmit none }.onAir u a.channel a.plan)
      (trace : s'.trace = a.actions u) :
      Effect t d (.ok ()) s'
  /-- Another one is on air. -/
  | launched {s' : Session EndDevice σ} {payload : List UInt8} {port : UInt8} {confirmed : Bool}
      {a : Airing} (hop : t.op = .send payload port confirmed)
      (hclear : Cleared r d (Host.now t.host) payload port)
      (hair : Aired r (t.session d) (d.newUplink r payload port confirmed) a)
      (node : s'.node = ((EndDevice.supersede d.held
        (d.onAir (d.newUplink r payload port confirmed) a.channel a.plan)).countUplink r).1)
      (signals : s'.signals = a.actions (d.newUplink r payload port confirmed) ++
        (abandoned d.held).map .event) :
      Effect t d (.ok ()) s'

variable {r}

theorem Quiet.effect {t : Turn σ} {d : EndDevice} {res : Except Failure Unit}
    {s' : Session EndDevice σ} (h : Quiet (t.session d) s') : Effect r t d res s' := by
  refine .kept .kept h.link h.held h.signals ?_
  rw [h.retry]
  exact Or.inl

/-- Where a session begins with a device, the end of an exchange is the effect of the call. -/
theorem Settled.effect {t : Turn σ} {d x : EndDevice} {ack : Bool} {res : Except Failure Unit}
    {s s' : Session EndDevice σ} (h : Settled ack s s') (hlink : Relinked r t d x)
    (link : s.node.link = x.link) (held : s.node.held = d.held)
    (retry : s.node.alarms.retransmit = d.alarms.retransmit) (signals : s.signals = [])
    (hack : ack = true → Acknowledges t d) : Effect r t d res s' := by
  cases h with
  | kept signals' link' held' retry' =>
    refine .kept hlink (link'.trans link) (held'.trans held) (signals'.trans signals) ?_
    intro hsome
    rcases retry' with heq | hagain
    · rw [heq, retry] at hsome
      exact Or.inl hsome
    · rw [held] at hagain
      exact Or.inr hagain
  | released hheld signals' link' held' retry' last =>
    rw [held] at hheld
    rw [signals, List.nil_append] at signals'
    exact .released hheld hlink (link'.trans link) held' retry' signals' last hack

theorem filter_actions (u : HeldUplink) (a : Airing) :
    (a.actions u).filter Action.isSignal = a.actions u := by
  unfold Airing.actions onAirEvent
  split <;> rfl

/-- A call that has sent a new uplink has put its frame on air. -/
theorem Sent.launched {t : Turn σ} {d : EndDevice} {payload : List UInt8} {port : UInt8}
    {confirmed : Bool} {s' : Session EndDevice σ}
    (h : Sent r payload port confirmed (t.session d) (.ok ()) s') :
    ∃ a, Cleared r d (Host.now t.host) payload port ∧
      Aired r (t.session d) (d.newUplink r payload port confirmed) a ∧
      s'.node = (((d.onAir (d.newUplink r payload port confirmed) a.channel a.plan).supersede
        d.held).countUplink r).1 ∧
      s'.signals = a.actions (d.newUplink r payload port confirmed) ++
        (abandoned d.held).map .event := by
  cases h with
  | sent hclear hselect hsend =>
    rename_i i s₁ s₂
    obtain ⟨a, hair, hnode, htrace⟩ := hsend.aired hselect hclear.free
    refine ⟨a, hclear, hair, ?_, ?_⟩
    · change ((s₂.node.supersede d.held).countUplink r).1 = _
      rw [hnode]
      rfl
    · rw [signals_launched]
      unfold Session.signals
      rw [htrace]
      -- Nothing was in the trace before the frame.
      change List.filter Action.isSignal ([] ++ a.actions _) ++ _ = _
      rw [List.nil_append, filter_actions]
      rfl

theorem effect_send {t : Turn σ} {d : EndDevice} {payload : List UInt8} {port : UInt8}
    {confirmed : Bool} {res : Except Failure Unit} {s' : Session EndDevice σ}
    (hop : t.op = .send payload port confirmed)
    (h : Sent r payload port confirmed (t.session d) res s') : Effect r t d res s' := by
  cases res with
  | error e => exact h.quiet.effect
  | ok _ =>
    obtain ⟨a, hclear, hair, hnode, hsignals⟩ := h.launched
    exact .launched hop hclear hair hnode hsignals

theorem effect_receive {t : Turn σ} {d : EndDevice} {bytes : List UInt8} {reception : Reception}
    {res : Except Failure Unit} {s' : Session EndDevice σ} (hop : t.op = .receive bytes reception)
    (h : Received r bytes reception (t.session d) res s') : Effect r t d res s' := by
  cases h with
  | foreign _ h => exact h.settled.effect .kept rfl rfl rfl rfl (fun hack => by cases hack)
  | heard hframe h =>
    rename_i frame
    let status : Status := ⟨reception, Host.battery t.host, Host.externalPower t.host⟩
    have htake := heeded_eq r status d frame
    obtain ⟨plan, settings, queue, heq⟩ := htake
    refine h.settled.effect (.heard status hop hframe) rfl ?_ ?_ ?_
      (fun hack => ⟨bytes, reception, frame, hop, hframe, hack⟩)
    · change (d.heeded r status frame).1.held = d.held
      rw [heq]
    · change (d.heeded r status frame).1.alarms.retransmit = d.alarms.retransmit
      rw [heq]
    · exact Session.signals_did_of (heeded_quiet r status d frame)

theorem effect_retransmit {t : Turn σ} {d : EndDevice} {id : EventId} {res : Except Failure Unit}
    {s' : Session EndDevice σ} (hop : t.op = .alarm id .retransmit)
    (hid : d.alarms.retransmit = some id)
    (h : Retried r (disarmed .retransmit (t.session d)) res s') : Effect r t d res s' := by
  -- In all cases that keep the uplink, the alarm was waited for when the call began.
  have hsome : d.alarms.retransmit.isSome = true := by rw [hid]; rfl
  cases h with
  | nothing _ => exact .kept .kept rfl rfl rfl (fun _ => Or.inl hsome)
  | late _ => exact .kept .kept rfl rfl rfl (fun _ => Or.inl hsome)
  | fault _ _ => exact .kept .kept rfl rfl rfl (fun _ => Or.inl hsome)
  | unselected hretry _ hselect =>
    have hquiet := hselect.quiet
    exact .kept .kept hquiet.link hquiet.held hquiet.signals (fun _ => Or.inl hsome)
  | blocked hretry _ hselect =>
    obtain ⟨g, rfl⟩ := hselect.session
    exact .gaveUp hop hid hretry.held rfl rfl rfl rfl
  | failed hretry _ hselect hsend =>
    have hquiet := hselect.quiet.trans hsend.quiet
    exact .lost hop hid hretry.held hquiet.link rfl hquiet.retry hquiet.signals
  | repeated hretry hwait hselect hsend =>
    obtain ⟨a, hair, hnode, htrace⟩ := hsend.aired hselect (earliestDelay_free hretry.wait hwait)
    exact .repeated hop hid hretry.held ⟨hair.channel, hair.enabled, hair.supports, hair.band,
      hair.opened, hair.free, hair.frame, hair.modulation, hair.config, hair.plan⟩ hnode htrace
  | never hretry _ _ => exact .gaveUp hop hid hretry.held rfl rfl rfl rfl
  | postponed _ _ _ => exact .kept .kept rfl rfl rfl (fun _ => Or.inl hsome)
  | full _ _ _ => exact .kept .kept rfl rfl rfl (fun _ => Or.inl hsome)

theorem effect_alarm {t : Turn σ} {d : EndDevice} {id : EventId} {a : Alarm}
    {res : Except Failure Unit} {s' : Session EndDevice σ} (hop : t.op = .alarm id a)
    (h : Rang r id (t.session d) a res s') : Effect r t d res s' := by
  cases h with
  | stale _ => exact (Quiet.refl _).effect
  | openRx1 _ h => exact ((quiet_disarmed Alarm.noConfusion _).trans h.quiet).effect
  | openRx2 _ h => exact ((quiet_disarmed Alarm.noConfusion _).trans h.quiet).effect
  | closeRx1 _ h =>
    have hsettled := (quiet_disarmed Alarm.noConfusion _).trans_settled h.settled
    exact hsettled.effect .kept rfl rfl rfl rfl (fun hack => by cases hack)
  | closeRx2 _ h =>
    have hsettled := (quiet_disarmed Alarm.noConfusion _).trans_settled h.settled
    exact hsettled.effect .kept rfl rfl rfl rfl (fun hack => by cases hack)
  | retransmit hid h => exact effect_retransmit hop hid h

end EndDevice

/--
**Every call has one of six effects on the uplink of a device.**

It leaves the uplink alone; releases it, when an exchange ends; gives it up or loses it, when the
next attempt is due; repeats it; or puts a new one in its place.
-/
theorem Turn.effect {σ : Type} [Host σ] (r : Region) (t : Turn σ) (d : EndDevice) :
    EndDevice.Effect r t d (t.result r d) (t.made r d).2 := by
  have hcalled := t.called r d
  generalize t.result r d = res at hcalled ⊢
  generalize (t.made r d).2 = s' at hcalled ⊢
  generalize hop : t.op = op at hcalled
  cases hcalled with
  | send h => exact EndDevice.effect_send hop h
  | txFinished h => exact h.quiet.effect
  | receive h => exact EndDevice.effect_receive hop h
  | failedReception h =>
    exact h.settled.effect .kept rfl rfl rfl rfl (fun hack => by cases hack)
  | alarm h => exact EndDevice.effect_alarm hop h
  | requestLinkCheck h =>
    cases h with
    | full _ => exact (EndDevice.Quiet.refl _).effect
    | queued hroom => exact .kept (.queued hop hroom) rfl rfl rfl Or.inl
  | editPlan => exact .kept (.edited hop) rfl rfl rfl Or.inl

/-! ## The frames of a call -/

namespace EndDevice

variable {σ : Type}

/-- Nothing that is heard or queued touches the address or the counter. -/
theorem Relinked.identity {r : Region} {t : Turn σ} {d x : EndDevice} (h : Relinked r t d x) :
    x.address = d.address ∧ x.counter = d.counter := by
  cases h with
  | kept => exact ⟨rfl, rfl⟩
  | heard status _ _ =>
    obtain ⟨plan, settings, queue, heq⟩ := heeded_eq r status d _
    rw [heq]
    exact ⟨rfl, rfl⟩
  | queued _ _ => exact ⟨rfl, rfl⟩
  | edited _ => exact ⟨rfl, rfl⟩

/-- Nor does it touch what is remembered of the last frame. -/
theorem Relinked.lastUplink {r : Region} {t : Turn σ} {d x : EndDevice} (h : Relinked r t d x) :
    x.lastUplink = d.lastUplink := by
  cases h with
  | heard status _ _ =>
    obtain ⟨plan, settings, queue, heq⟩ := heeded_eq r status d _
    rw [heq]
  | _ => rfl

theorem Relinked.sameClocks {r : Region} {t : Turn σ} {d x : EndDevice} (h : Relinked r t d x)
    (hkeep : t.op.isEdit = false) : Plan.SameClocks d.plan x.plan := by
  cases h with
  | kept => exact Plan.SameClocks.refl d.plan
  | heard status _ _ => exact heeded_sameClocks r status d _
  | queued _ _ => exact Plan.SameClocks.refl d.plan
  | edited hop =>
    rw [hop] at hkeep
    cases hkeep

variable [Host σ] (r : Region)

/--
An uplink whose frame goes on air is the one that was held, or the new one that was asked for.
-/
def Source (t : Turn σ) (d : EndDevice) (u : HeldUplink) : Prop :=
  d.held = some u ∨ ∃ payload port confirmed, u = d.newUplink r payload port confirmed
    ∧ Cleared r d (Host.now t.host) payload port

theorem transmissions_of_events (host : σ) (es : List Event) :
    (es.map Action.event).filterMap (Action.transmission? host) = [] := by
  rw [List.filterMap_map]
  exact List.filterMap_eq_nil_iff.mpr (fun _ _ => rfl)

theorem transmissions_of_actions (host : σ) (u : HeldUplink) (a : Airing) :
    (a.actions u).filterMap (Action.transmission? host) = [a.transmission host] := by
  unfold Airing.actions onAirEvent
  split <;> rfl

end EndDevice

/-- **A call puts one frame on air at most**, and only that moves the clocks of the plan. -/
theorem Turn.transmissions_cases {σ : Type} [Host σ] (r : Region) (t : Turn σ) (d : EndDevice) :
    (t.transmissions r d = [] ∧
      (t.op.isEdit = false → Plan.SameClocks d.plan (t.after r d).plan) ∧
      ((t.after r d).held = d.held ∨ (t.after r d).held = none)) ∨
    ∃ u a, t.transmissions r d = [a.transmission t.host] ∧
      EndDevice.Aired r (t.session d) u a ∧ Plan.SameClocks a.plan (t.after r d).plan ∧
      (t.after r d).held = some u.next ∧ EndDevice.Source r t d u := by
  have heffect := t.effect r d
  have hplan : ∀ {x : EndDevice}, (t.after r d).link = x.link → (t.after r d).plan = x.plan :=
    fun h => (congrArg EndDevice.plan h :)
  rw [Turn.transmissions_eq]
  unfold Turn.signals
  unfold Turn.after at hplan ⊢
  generalize t.result r d = res at heffect
  generalize (t.made r d).2 = s' at heffect hplan ⊢
  cases heffect with
  | kept hlink link held signals _ =>
    rw [signals]
    refine Or.inl ⟨rfl, fun hkeep => ?_, Or.inl held⟩
    rw [hplan link]
    exact hlink.sameClocks hkeep
  | released _ hlink link held _ signals _ _ =>
    rw [signals, EndDevice.transmissions_of_events]
    refine Or.inl ⟨rfl, fun hkeep => ?_, Or.inr held⟩
    rw [hplan link]
    exact hlink.sameClocks hkeep
  | gaveUp _ _ _ link held _ trace =>
    unfold Session.signals
    rw [trace, hplan link]
    exact Or.inl ⟨rfl, fun _ => Plan.SameClocks.refl d.plan, Or.inr held⟩
  | lost _ _ _ link held _ signals =>
    rw [signals, hplan link]
    exact Or.inl ⟨rfl, fun _ => Plan.SameClocks.refl d.plan, Or.inr held⟩
  | repeated hop hid hheld hair node trace =>
    rename_i id u a
    unfold Session.signals
    rw [trace, EndDevice.filter_actions, EndDevice.transmissions_of_actions, node]
    exact Or.inr ⟨u, a, rfl, hair, Plan.SameClocks.refl a.plan, rfl, Or.inl hheld⟩
  | launched hop hclear hair node signals =>
    rename_i payload port confirmed a
    -- The uplink is counted after its frame went on air, and counting moves no clock.
    have hcounted := EndDevice.countUplink_cases r (EndDevice.supersede d.held
      (d.onAir (d.newUplink r payload port confirmed) a.channel a.plan))
    rw [signals, List.filterMap_append, EndDevice.transmissions_of_actions,
      EndDevice.transmissions_of_events, List.append_nil, node]
    refine Or.inr ⟨_, a, rfl, hair, hcounted.sameClocks, ?_, Or.inr ⟨_, _, _, rfl, hclear⟩⟩
    rw [hcounted.held]
    rfl

/--
**A frame on air takes commands and the acknowledgement along**, and its channel and data rate are
remembered. A call that puts none on air leaves the link as it is, or as what was heard, queued or
edited has made it.
-/
theorem Turn.link_cases {σ : Type} [Host σ] (r : Region) (t : Turn σ) (d : EndDevice) :
    (t.transmissions r d = [] ∧
      ∃ x, EndDevice.Relinked r t d x ∧ (t.after r d).link = x.link) ∨
    ∃ u a, t.transmissions r d = [a.transmission t.host] ∧
      EndDevice.Aired r (t.session d) u a ∧
      (t.after r d).queue = EndDevice.dropSent d.nextOptions.length d.queue ∧
      (t.after r d).ackDue = false ∧ (t.after r d).lastUplink = some (a.channel, u.rate) := by
  have heffect := t.effect r d
  rw [Turn.transmissions_eq]
  unfold Turn.signals Turn.after
  generalize t.result r d = res at heffect
  generalize (t.made r d).2 = s' at heffect ⊢
  -- Four of the six effects put nothing on air; the other two put just one frame there.
  cases heffect with
  | kept hlink link _ signals _ =>
    rw [signals]
    exact Or.inl ⟨rfl, _, hlink, link⟩
  | released _ hlink link _ _ signals _ _ =>
    rw [signals, EndDevice.transmissions_of_events]
    exact Or.inl ⟨rfl, _, hlink, link⟩
  | gaveUp _ _ _ link _ _ trace =>
    unfold Session.signals
    rw [trace]
    exact Or.inl ⟨rfl, d, .kept, link⟩
  | lost _ _ _ link _ _ signals =>
    rw [signals]
    exact Or.inl ⟨rfl, d, .kept, link⟩
  | repeated _ _ _ hair node trace =>
    unfold Session.signals
    rw [trace, EndDevice.filter_actions, EndDevice.transmissions_of_actions, node]
    exact Or.inr ⟨_, _, rfl, hair, rfl, rfl, rfl⟩
  | launched hop hclear hair node signals =>
    rename_i payload port confirmed a
    have hcounted := EndDevice.countUplink_cases r (EndDevice.supersede d.held
      (d.onAir (d.newUplink r payload port confirmed) a.channel a.plan))
    rw [signals, List.filterMap_append, EndDevice.transmissions_of_actions,
      EndDevice.transmissions_of_events, List.append_nil, node, hcounted.queue, hcounted.ackDue,
      hcounted.lastUplink]
    exact Or.inr ⟨_, a, rfl, hair, rfl, rfl, rfl⟩

/-- A call that has sent a new uplink has put its frame, and nothing else, on air. -/
theorem Turn.launched {σ : Type} [Host σ] {r : Region} {t : Turn σ} {d : EndDevice}
    {payload : List UInt8} {port : UInt8} {confirmed : Bool}
    (hop : t.op = .send payload port confirmed) (hok : t.result r d = .ok ()) :
    ∃ a, EndDevice.Aired r (t.session d) (d.newUplink r payload port confirmed) a ∧
      t.after r d = ((EndDevice.supersede d.held (d.onAir (d.newUplink r payload port confirmed)
        a.channel a.plan)).countUplink r).1 ∧
      t.signals r d = a.actions (d.newUplink r payload port confirmed) ++
        (EndDevice.abandoned d.held).map .event := by
  unfold Turn.result at hok
  unfold Turn.after Turn.signals
  rcases hrun : t.made r d with ⟨res, s'⟩
  rw [hrun] at hok
  dsimp only at hok ⊢
  subst hok
  unfold Turn.made at hrun
  rw [hop] at hrun
  obtain ⟨a, _, hair, hnode, hsignals⟩ := (EndDevice.send_cases r hrun).launched
  exact ⟨a, hair, hnode, hsignals⟩

/-! ## What holds of the link -/

/--
What holds of the link of a device holds after a call, if it survives each of the things that a
call can do to the link: hearing a downlink and carrying out its commands, queueing a command,
changing the plan, sending a frame, and counting it.
-/
theorem Turn.link_induction {σ : Type} [Host σ] {r : Region} {t : Turn σ} {d : EndDevice}
    {P : EndDevice → Prop} (hd : P d) (hlink : ∀ x y : EndDevice, y.link = x.link → P x → P y)
    (hnote : ∀ frame, P (d.noteDownlink frame))
    (hhandle : ∀ x plan settings, P x → Replanned r x.plan plan → Resettled r x settings →
      P { x with plan, settings })
    (hqueue : ∀ x a, P x → a.direction = .up → x.queue.length < EndDevice.queueCapacity →
      P { x with queue := x.queue ++ [a] })
    (hedit : ∀ plan, t.op = .editPlan plan → P { d with plan })
    (honAir : ∀ u a, EndDevice.Aired r (t.session d) u a → EndDevice.Source r t d u →
      P (d.onAir u a.channel a.plan))
    (hcounter : ∀ x n, P x → P { x with counter := n })
    (hcounted : ∀ x y, EndDevice.Counted r x y → P x → P y) : P (t.after r d) := by
  -- A downlink, a request and an edited plan come before anything that happens to the uplink.
  have hrelinked : ∀ x, EndDevice.Relinked r t d x → P x := by
    intro x hx
    cases hx with
    | kept => exact hd
    | heard status _ _ => exact EndDevice.heeded_induction r hhandle hqueue (hnote _)
    | queued _ hroom => exact hqueue d .linkCheckReq hd rfl hroom
    | edited hop => exact hedit _ hop
  have heffect := t.effect r d
  unfold Turn.after
  generalize t.result r d = res at heffect
  generalize (t.made r d).2 = s' at heffect ⊢
  cases heffect with
  | kept hx link _ _ _ => exact hlink _ _ link (hrelinked _ hx)
  | released _ hx link _ _ _ _ _ => exact hlink _ _ link (hrelinked _ hx)
  | gaveUp _ _ _ link _ _ _ => exact hlink d _ link hd
  | lost _ _ _ link _ _ _ => exact hlink d _ link hd
  | repeated hop hid hheld hair node trace =>
    rename_i id u a
    rw [node]
    exact hlink (d.onAir u a.channel a.plan) _ rfl (honAir u a hair (Or.inl hheld))
  | launched hop hclear hair node signals =>
    rename_i payload port confirmed a
    have hcounted' := EndDevice.countUplink_cases r (EndDevice.supersede d.held
      (d.onAir (d.newUplink r payload port confirmed) a.channel a.plan))
    have hP := honAir _ a hair (Or.inr ⟨payload, port, confirmed, rfl, hclear⟩)
    rw [node]
    refine hcounted _ _ hcounted' ?_
    have hnext := hcounter _ (d.counter + 1) hP
    -- That the old uplink is gone is not seen in the link.
    refine hlink _ _ ?_ hnext
    rfl

end LoraLink
