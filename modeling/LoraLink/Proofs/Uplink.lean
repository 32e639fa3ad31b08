import LoraLink.Proofs.Call
import LoraLink.Proofs.Plan

/-!
# How uplinks can end

Each part of an uplink ends in one of a few ways. Each way is a constructor that says under which
circumstances it comes about, and what it leaves of the session; the theorem below it says that
there are no others.

Nothing can go wrong any more once the radio has accepted the frame. The plan was asked for its
power limit before, so it has a sub-band to account the transmission to.
-/

namespace LoraLink

namespace EndDevice

variable {σ : Type}

/-! ## Asking for a link check -/

/-- How a request to check the link can end. -/
inductive Queued (s : Session EndDevice σ) :
    Except Failure Unit → Session EndDevice σ → Prop where
  | full (h : queueCapacity ≤ s.node.queue.length) :
      Queued s (.error (.refused .optionsFull)) s
  | queued (h : s.node.queue.length < queueCapacity) :
      Queued s (.ok ()) (s.withNode { s.node with queue := s.node.queue ++ [.linkCheckReq] })

theorem requestLinkCheck_cases {s s' : Session EndDevice σ} {res : Except Failure Unit}
    (h : (requestLinkCheck : Call EndDevice σ Unit).run s = (res, s')) : Queued s res s' := by
  unfold requestLinkCheck at h
  rw [Call.run_bind_ok (Call.run_node s)] at h
  unfold enqueue? at h
  by_cases hlen : s.node.queue.length < queueCapacity
  · rw [if_pos hlen] at h
    cases h
    exact .queued hlen
  · rw [if_neg hlen] at h
    cases h
    exact .full (Nat.le_of_not_lt hlen)

/-! ## Drawing a channel -/

/-- How drawing a channel can end. -/
inductive Selected (now : Instant) (rate : DataRate) (s : Session EndDevice σ) :
    Except Failure (Option Nat) → Session EndDevice σ → Prop where
  /-- The source of random numbers has failed. -/
  | unordered (g : Random) : Selected now rate s (.error (.random .exhausted)) (s.withRandom g)
  /-- A candidate lies outside all sub-bands. -/
  | fault (g : Random) {order : List Nat} {f : PlanFault}
      (hperm : order.Perm (s.node.plan.candidates rate))
      (hf : s.node.plan.firstOpen now order = .error f) :
      Selected now rate s (.error (.fault f)) (s.withRandom g)
  | asked (g : Random) {order : List Nat} {choice : Option Nat}
      (hperm : order.Perm (s.node.plan.candidates rate))
      (hf : s.node.plan.firstOpen now order = .ok choice) :
      Selected now rate s (.ok choice) (s.withRandom g)

theorem selectChannel_cases {now : Instant} {rate : DataRate} {s s' : Session EndDevice σ}
    {res : Except Failure (Option Nat)} (h : (selectChannel now rate).run s = (res, s')) :
    Selected now rate s res s' := by
  unfold selectChannel at h
  rw [Call.run_bind_ok (Call.run_node s)] at h
  -- The order in which the channels are asked is drawn, unless the source runs dry.
  rcases Call.run_shuffle (s.node.plan.length_candidates_lt rate) s with
    ⟨order, g, hperm, hrun⟩ | ⟨g, hrun⟩
  · rw [Call.run_bind_ok hrun] at h
    cases hf : s.node.plan.firstOpen now order with
    | ok choice =>
      rw [hf, Call.run_ofPlan_ok] at h
      cases h
      exact .asked g hperm hf
    | error f =>
      rw [hf, Call.run_ofPlan_error] at h
      cases h
      exact .fault g hperm hf
  · rw [Call.run_bind_error hrun] at h
    cases h
    exact .unordered g

/-- Drawing a channel uses up random numbers and nothing else. -/
theorem Selected.session {now : Instant} {rate : DataRate} {s s' : Session EndDevice σ}
    {res : Except Failure (Option Nat)} (h : Selected now rate s res s') :
    ∃ g, s' = s.withRandom g := by
  cases h with
  | unordered g => exact ⟨g, rfl⟩
  | fault g _ _ => exact ⟨g, rfl⟩
  | asked g _ _ => exact ⟨g, rfl⟩

theorem Selected.node {now : Instant} {rate : DataRate} {s s' : Session EndDevice σ}
    {res : Except Failure (Option Nat)} (h : Selected now rate s res s') : s'.node = s.node := by
  obtain ⟨g, rfl⟩ := h.session
  rfl

/-- A channel that was drawn may be used for an uplink, and at once. -/
theorem Selected.usable {now : Instant} {rate : DataRate} {s s' : Session EndDevice σ} {i : Nat}
    (h : Selected now rate s (.ok (some i)) s') :
    ∃ c b, s.node.plan.channel? i = some c ∧ c.enabled = true ∧ c.supports rate = true
      ∧ s.node.plan.subBand? c.frequency = some b ∧ (b.waitingTime now).isZero = true := by
  cases h with
  | asked g hperm hf =>
    obtain ⟨hi, c, b, hc, hb, hwait⟩ := Plan.firstOpen_eq_some hf
    obtain ⟨c', hc', hon, hrate⟩ := Plan.mem_candidates.mp (hperm.mem_iff.mp hi)
    rw [hc] at hc'
    cases hc'
    exact ⟨c, b, hc, hon, hrate, hb, hwait⟩

/--
Drawing a channel fails for want of random numbers, or because of a channel that should not be.
-/
theorem Selected.failure {now : Instant} {rate : DataRate} {s s' : Session EndDevice σ}
    {e : Failure} (h : Selected now rate s (.error e) s') :
    e = .random .exhausted ∨ ∃ f i c, e = .fault f ∧ s.node.plan.channel? i = some c
      ∧ s.node.plan.subBand? c.frequency = none := by
  cases h with
  | unordered g => exact Or.inl rfl
  | fault g _ hf =>
    obtain ⟨i, c, hc, hb⟩ := Plan.firstOpen_eq_error hf
    exact Or.inr ⟨_, i, c, rfl, hc, hb⟩

/-! ## What a new uplink replaces -/

variable (r : Region)

/-- The device after a new uplink: nobody waits any more for the next attempt of an older one. -/
def supersede (previous : Option HeldUplink) (d : EndDevice) : EndDevice :=
  { d with
    counter := d.counter + 1
    alarms := if previous.isSome then d.alarms.set .retransmit none else d.alarms }

/-- What is reported of an uplink that was still held when a new one went on air. -/
def abandoned (previous : Option HeldUplink) : List Event :=
  previous.toList.map fun u => .retransmissionAbandoned u.transmissions

/-- The session after a call that put a new uplink on air, from when the frame was on air. -/
def launched (previous : Option HeldUplink) (s : Session EndDevice σ) : Session EndDevice σ :=
  ((s.did ((abandoned previous).map .event)).withNode
    ((s.node.supersede previous).countUplink r).1).did
      (((s.node.supersede previous).countUplink r).2.map .event)

theorem launched_none (s : Session EndDevice σ) :
    launched r none s = (s.withNode ((s.node.supersede none).countUplink r).1).did
      (((s.node.supersede none).countUplink r).2.map .event) := by
  unfold launched abandoned Session.did Session.withNode
  rw [Option.toList_none, List.map_nil, List.map_nil, List.append_nil]

/-! ## Putting a frame on air -/

variable [Host σ]

theorem transmitConfig_cases {d : EndDevice} {m : Modulation} {c : Channel} :
    (∃ b, d.plan.subBand? c.frequency = some b ∧ d.transmitConfig r m c = .ok
      { power := min (d.power r) b.maxPower
        frequency := c.frequency
        codingRate := r.codingRate
        modulation := m
        preambleSymbols := r.preambleSymbols
        implicitHeader := false
        checksum := true
        lowDataRateOptimization := m.needsLowDataRateOptimization }) ∨
      ∃ f, d.plan.subBand? c.frequency = none ∧ d.transmitConfig r m c = .error f := by
  unfold transmitConfig
  cases hp : d.plan.maxPower c.frequency with
  | ok limit =>
    obtain ⟨b, hb, rfl⟩ := Plan.maxPower_eq_ok hp
    exact Or.inl ⟨b, hb, rfl⟩
  | error f => exact Or.inr ⟨f, Plan.maxPower_eq_error hp, rfl⟩

/-- How the attempt to put an uplink on air can end. -/
inductive Transmitted (u : HeldUplink) (index : Nat) (s : Session EndDevice σ) :
    Except Failure Unit → Session EndDevice σ → Prop where
  | noChannel (hc : s.node.plan.channel? index = none) :
      Transmitted u index s (.error (.plan .invalidChannelIndex)) s
  | unwritten {e : EncodeError} (hf : s.node.frame r u = .error e) :
      Transmitted u index s (.error (.encoding e)) s
  | unmodulated {e : RegionError} (hm : r.modulation u.rate = .error e) :
      Transmitted u index s (.error (.region e)) s
  | fault {c : Channel} {f : PlanFault} (hc : s.node.plan.channel? index = some c)
      (hb : s.node.plan.subBand? c.frequency = none) :
      Transmitted u index s (.error (.fault f)) s
  | refused {config : TransmitConfig} {frame : List UInt8}
      (hq : s.accepts (.send config frame) = false) :
      Transmitted u index s (.error (.radio (.send config frame))) (s.asked (.send config frame))
  | onAir {c : Channel} {frame : List UInt8} {m : Modulation} {config : TransmitConfig}
      {plan : Plan} (hc : s.node.plan.channel? index = some c)
      (hf : s.node.frame r u = .ok frame) (hm : r.modulation u.rate = .ok m)
      (hconfig : s.node.transmitConfig r m c = .ok config)
      (hq : s.accepts (.send config frame) = true)
      (hplan : s.node.plan.register (Host.now s.host)
        (Host.airtime config frame.length s.host) c.frequency = .ok plan) :
      Transmitted u index s (.ok ())
        (((s.asked (.send config frame)).withNode (s.node.onAir u c plan)).did
          [.event (onAirEvent u index frame.length)])

theorem transmit_cases {u : HeldUplink} {index : Nat} {s s' : Session EndDevice σ}
    {res : Except Failure Unit} (h : (transmit r u index).run s = (res, s')) :
    Transmitted r u index s res s' := by
  unfold transmit at h
  rw [Call.run_bind_ok (Call.run_now s), Call.run_bind_ok (Call.run_node s)] at h
  cases hc : s.node.plan.channel? index with
  | none =>
    rw [hc] at h
    cases h
    exact .noChannel hc
  | some c =>
    rw [hc] at h
    dsimp only at h
    cases hf : s.node.frame r u with
    | error e =>
      rw [hf] at h
      cases h
      exact .unwritten hf
    | ok frame =>
      rw [hf] at h
      dsimp only at h
      rw [Call.run_bind_ok (Call.run_pure frame s)] at h
      rcases Call.ofRegion_bind_cases h with ⟨m, hm, h⟩ | ⟨e, hm, rfl, rfl⟩
      · rcases Call.ofPlan_bind_cases h with ⟨config, hconfig, h⟩ | ⟨f, hconfig, rfl, rfl⟩
        · rw [Call.run_bind_ok (Call.run_airtime config frame.length s)] at h
          rcases Call.radio_bind_cases h with ⟨hq, h⟩ | ⟨hq, rfl, rfl⟩
          · rcases transmitConfig_cases r (d := s.node) (m := m) (c := c) with
              ⟨b, hb, _⟩ | ⟨f, hb, herror⟩
            · -- The sub-band that gave the power limit takes the transmission, too.
              obtain ⟨plan, hplan⟩ := Plan.register_isOk hb (Host.now s.host)
                (Host.airtime config frame.length s.host)
              rw [hplan] at h
              cases h
              exact .onAir hc hf hm hconfig hq hplan
            · rw [herror] at hconfig
              cases hconfig
          · exact .refused hq
        · rcases transmitConfig_cases r (d := s.node) (m := m) (c := c) with
            ⟨b, hb, hok⟩ | ⟨_, hb, _⟩
          · rw [hok] at hconfig
            cases hconfig
          · exact .fault hc hb
      · exact .unmodulated hm

/-- A frame that does not go on air changes nothing about the device. -/
theorem Transmitted.node {u : HeldUplink} {i : Nat} {e : Failure} {s s' : Session EndDevice σ}
    (h : Transmitted r u i s (.error e) s') : s'.node = s.node := by
  cases h <;> rfl

/-! ## A new uplink -/

/-- The session in which another uplink is held, or none. -/
def holding (held : Option HeldUplink) (s : Session EndDevice σ) : Session EndDevice σ :=
  s.withNode { s.node with held }

/-- Neither the frame of an uplink nor anything else it takes depends on which uplink is held. -/
theorem Transmitted.of_holding {u : HeldUplink} {i : Nat} {held : Option HeldUplink}
    {s s' : Session EndDevice σ} {res : Except Failure Unit}
    (h : Transmitted r u i (holding held s) res s') :
    Transmitted r u i s res (match res with
      | .ok _ => s'
      | .error _ => holding s.node.held s') := by
  cases h with
  | noChannel hc => exact .noChannel hc
  | unwritten hf => exact .unwritten hf
  | unmodulated hm => exact .unmodulated hm
  | fault hc hb => exact .fault hc hb
  | refused hq => exact .refused hq
  | onAir hc hf hm hconfig hq hplan => exact .onAir hc hf hm hconfig hq hplan

/-- The uplink that was held is held again after a failure, so nothing has changed then. -/
theorem launch_cases {u : HeldUplink} {i : Nat} {s s' : Session EndDevice σ}
    {res : Except Failure Unit} (h : (launch r u i).run s = (res, s')) :
    Transmitted r u i s res s' := by
  unfold launch hold at h
  have hnew : s.withNode { s.node with held := some u } = holding (some u) s := rfl
  rw [Call.run_bind_ok (Call.run_node s), Call.run_bind_ok (Call.run_modifyNode _ s),
    Call.run_tryCatch, hnew] at h
  -- A failure puts the uplink held before back in its place.
  rcases hsend : (transmit r u i).run (holding (some u) s) with ⟨e | _, s₁⟩
  · rw [hsend] at h
    cases h
    exact (transmit_cases r hsend).of_holding
  · rw [hsend] at h
    cases h
    exact (transmit_cases r hsend).of_holding

/-- What a device has made sure of before it puts a new uplink on air. -/
structure Cleared (d : EndDevice) (now : Instant) (payload : List UInt8) (port : UInt8) : Prop where
  closed : d.rxWindowsPending = false
  placed : port = 0 → payload = []
  allowed : ∃ limit, r.maxPayload (d.dataRate r) = .ok limit ∧ payload.length ≤ limit
  free : (d.plan.aggregatedWait now d.settings.aggregatedDutyCycle).isZero = true
  held : payload.length ≤ maxPayload

/-- How a call to send a new uplink can end. -/
inductive Sent (payload : List UInt8) (port : UInt8) (confirmed : Bool) (s : Session EndDevice σ) :
    Except Failure Unit → Session EndDevice σ → Prop where
  | pending (h : s.node.rxWindowsPending = true) :
      Sent payload port confirmed s (.error (.refused .rxWindowsPending))
        (s.did [.event .rxWindowsPending])
  | misplaced (hport : port = 0) (h : payload ≠ []) :
      Sent payload port confirmed s (.error (.refused .invalidPayloadType)) s
  | unlimited {e : RegionError} (h : r.maxPayload (s.node.dataRate r) = .error e) :
      Sent payload port confirmed s (.error (.region e)) s
  | tooLong {limit : Nat} (hlimit : r.maxPayload (s.node.dataRate r) = .ok limit)
      (h : limit < payload.length) :
      Sent payload port confirmed s (.error (.refused .payloadTooLarge))
        (s.did [.event (.payloadTooLarge payload.length limit)])
  | tooSoon {wait : Duration} (h : wait.isZero = false)
      (hwait : wait =
        s.node.plan.aggregatedWait (Host.now s.host) s.node.settings.aggregatedDutyCycle) :
      Sent payload port confirmed s (.error (.refused .aggregatedDutyCycle))
        (s.did [.event (.aggregatedDutyCycleBlocked wait)])
  | unselected {e : Failure} {s₁ : Session EndDevice σ}
      (h : Selected (Host.now s.host) (s.node.dataRate r) s (.error e) s₁) :
      Sent payload port confirmed s (.error e) s₁
  /-- The sub-bands of all candidates are closed. -/
  | blocked {s₁ : Session EndDevice σ}
      (h : Selected (Host.now s.host) (s.node.dataRate r) s (.ok none) s₁) :
      Sent payload port confirmed s (.error (.refused .noValidChannelFound))
        (s₁.did [.event .dutyCycleBlocked])
  /-- The region allows more than a device can hold. -/
  | oversized {limit i : Nat} {s₁ : Session EndDevice σ}
      (hlimit : r.maxPayload (s.node.dataRate r) = .ok limit) (hallowed : payload.length ≤ limit)
      (h : Selected (Host.now s.host) (s.node.dataRate r) s (.ok (some i)) s₁)
      (hlen : maxPayload < payload.length) :
      Sent payload port confirmed s (.error (.refused .payloadTooLarge)) s₁
  | failed {i : Nat} {e : Failure} {s₁ s₂ : Session EndDevice σ}
      (hclear : Cleared r s.node (Host.now s.host) payload port)
      (h : Selected (Host.now s.host) (s.node.dataRate r) s (.ok (some i)) s₁)
      (hsend : Transmitted r (s.node.newUplink r payload port confirmed) i s₁ (.error e) s₂) :
      Sent payload port confirmed s (.error e) s₂
  | sent {i : Nat} {s₁ s₂ : Session EndDevice σ}
      (hclear : Cleared r s.node (Host.now s.host) payload port)
      (h : Selected (Host.now s.host) (s.node.dataRate r) s (.ok (some i)) s₁)
      (hsend : Transmitted r (s.node.newUplink r payload port confirmed) i s₁ (.ok ()) s₂) :
      Sent payload port confirmed s (.ok ()) (launched r s.node.held s₂)

theorem send_cases {payload : List UInt8} {port : UInt8} {confirmed : Bool}
    {s s' : Session EndDevice σ} {res : Except Failure Unit}
    (h : (send r payload port confirmed).run s = (res, s')) :
    Sent r payload port confirmed s res s' := by
  unfold send at h
  rw [Call.run_bind_ok (Call.run_now s), Call.run_bind_ok (Call.run_node s)] at h
  dsimp only at h
  -- The checks are gone through in their order; each that fails ends the call at once.
  by_cases hover : s.node.rxWindowsPending = true
  · rw [if_pos hover] at h
    cases h
    exact .pending hover
  rw [if_neg hover] at h
  by_cases hport : port = 0 ∧ payload ≠ []
  · rw [if_pos hport] at h
    cases h
    exact .misplaced hport.1 hport.2
  rw [if_neg hport] at h
  rcases Call.ofRegion_bind_cases h with ⟨limit, hlimit, h⟩ | ⟨e, hlimit, rfl, rfl⟩
  case inr => exact .unlimited hlimit
  by_cases hlen : limit < payload.length
  · rw [if_pos hlen] at h
    cases h
    exact .tooLong hlimit hlen
  rw [if_neg hlen] at h
  by_cases hwait : (s.node.plan.aggregatedWait (Host.now s.host)
      s.node.settings.aggregatedDutyCycle).isZero = true
  case neg =>
    rw [if_neg hwait] at h
    cases h
    exact .tooSoon (Bool.eq_false_iff.mpr hwait) rfl
  rw [if_pos hwait] at h
  rcases Call.bind_cases h with ⟨choice, s₁, hselect, h⟩ | ⟨e, hselect, rfl⟩
  case inr => exact .unselected (selectChannel_cases hselect)
  have hselected := selectChannel_cases hselect
  cases choice with
  | none =>
    cases h
    exact .blocked hselected
  | some i =>
    dsimp only at h
    by_cases hsize : maxPayload < payload.length
    · rw [if_pos hsize] at h
      cases h
      exact .oversized hlimit (Nat.le_of_not_lt hlen) hselected hsize
    rw [if_neg hsize] at h
    -- With all checks behind it the device tries to put the frame on air.
    have hclear : Cleared r s.node (Host.now s.host) payload port :=
      { closed := Bool.eq_false_iff.mpr hover
        placed := fun h0 => Decidable.byContradiction fun hne => hport ⟨h0, hne⟩
        allowed := ⟨limit, hlimit, Nat.le_of_not_lt hlen⟩
        free := hwait
        held := Nat.le_of_not_lt hsize }
    rcases Call.bind_cases h with ⟨_, s₂, hsend, h⟩ | ⟨e, hsend, rfl⟩
    · have hsent := Sent.sent hclear hselected (launch_cases r hsend)
      cases hheld : s.node.held with
      | none =>
        rw [hheld] at h hsent
        rw [launched_none] at hsent
        cases h
        exact hsent
      | some previous =>
        rw [hheld] at h hsent
        cases h
        exact hsent
    · exact .failed hclear hselected (launch_cases r hsend)

/-- A new uplink is refused for pending windows only if there are any. -/
theorem Sent.pending_of_refused {payload : List UInt8} {port : UInt8} {confirmed : Bool}
    {s s' : Session EndDevice σ}
    (h : Sent r payload port confirmed s (.error (.refused .rxWindowsPending)) s') :
    s.node.rxWindowsPending = true := by
  cases h with
  | pending hpending => exact hpending
  | unselected hselect =>
    rcases hselect.failure with hrandom | ⟨f, i, c, hfault, _⟩
    · cases hrandom
    · cases hfault
  | failed _ _ hsend => cases hsend

end EndDevice

end LoraLink
