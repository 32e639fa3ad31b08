import LoraLink.Host
import LoraLink.Proofs.Shuffle

/-!
# Running calls

A call is a program over a session that may fail. Its run is followed step by step: what the first
step gives decides how the rest is run, and a failure is the end.

Each thing a node may do within a call gets one lemma that says what comes of it and how it leaves
the session. Only what is done with the host can go either way, so only those lemmas have a case
for failure.
-/

namespace LoraLink

/-! ## Results by their kind

What a call fails with cannot be compared for equality. Whether it fails can be evaluated.
-/

section Kind

variable {ε : Type} {res : Except ε Unit}

theorem eq_ok_of_toBool (h : res.toBool = true) : res = .ok () := by
  cases res with
  | ok _ => rfl
  | error e => cases h

theorem exists_error_of_toBool (h : res.toBool = false) : ∃ e, res = .error e := by
  cases res with
  | ok _ => cases h
  | error e => exact ⟨e, rfl⟩

end Kind

/-! ## Sessions -/

namespace Session

variable {ν σ : Type}

/-- The session with another state of its node. -/
def withNode (s : Session ν σ) (node : ν) : Session ν σ := { s with node }

/-- The session with another source of random numbers. -/
def withRandom (s : Session ν σ) (random : Random) : Session ν σ := { s with random }

/-- The session after some more actions. -/
def did (s : Session ν σ) (actions : List Action) : Session ν σ :=
  { s with trace := s.trace ++ actions }

variable [Host σ]

/-- Does the radio accept a request at this point? -/
def accepts (s : Session ν σ) (q : RadioRequest) : Bool := (Host.request q s.host).1

/-- The session after a request to the radio, accepted or not. -/
def asked (s : Session ν σ) (q : RadioRequest) : Session ν σ :=
  { s with host := (Host.request q s.host).2, trace := s.trace ++ [.radio q (s.accepts q)] }

/-- The identifier the host would give an alarm at this point. -/
def alarmId? (s : Session ν σ) (delay : Duration) (a : Alarm) : Option EventId :=
  (Host.schedule delay a s.host).1

/-- The session after the host was asked to set an alarm, whether it did or not. -/
def scheduled (s : Session ν σ) (delay : Duration) (a : Alarm) : Session ν σ :=
  { s with host := (Host.schedule delay a s.host).2 }

end Session

namespace Call

variable {ν σ α β : Type}

/-! ## Steps and failures -/

theorem run_bind (m : Call ν σ α) (f : α → Call ν σ β) (s : Session ν σ) :
    (m >>= f).run s =
      match m.run s with
      | (.ok a, s') => (f a).run s'
      | (.error e, s') => (.error e, s') := by
  unfold Call.run
  rw [ExceptT.run_bind, StateT.run_bind]
  rcases (ExceptT.run m).run s with ⟨_ | _, s'⟩ <;> rfl

/-- After a step that succeeds, the rest is run from where the step left the session. -/
theorem run_bind_ok {m : Call ν σ α} {f : α → Call ν σ β} {s s' : Session ν σ} {a : α}
    (h : m.run s = (.ok a, s')) : (m >>= f).run s = (f a).run s' := by
  rw [run_bind, h]

/-- A step that fails is the last. -/
theorem run_bind_error {m : Call ν σ α} {f : α → Call ν σ β} {s s' : Session ν σ} {e : Failure}
    (h : m.run s = (.error e, s')) : (m >>= f).run s = (.error e, s') := by
  rw [run_bind, h]

/-- Of two steps in a row, either the first fails, or the second decides. -/
theorem bind_cases {m : Call ν σ α} {f : α → Call ν σ β} {s s' : Session ν σ}
    {res : Except Failure β} (h : (m >>= f).run s = (res, s')) :
    (∃ a s₁, m.run s = (.ok a, s₁) ∧ (f a).run s₁ = (res, s')) ∨
      ∃ e, m.run s = (.error e, s') ∧ res = .error e := by
  rcases hm : m.run s with ⟨e | a, s₁⟩
  · rw [run_bind_error hm] at h
    cases h
    exact Or.inr ⟨e, rfl, rfl⟩
  · rw [run_bind_ok hm] at h
    exact Or.inl ⟨a, s₁, rfl, h⟩

theorem run_tryCatch (m : Call ν σ α) (handle : Failure → Call ν σ α) (s : Session ν σ) :
    (tryCatch m handle).run s =
      match m.run s with
      | (.ok a, s') => (.ok a, s')
      | (.error e, s') => (handle e).run s' := by
  unfold Call.run
  rw [ExceptT.run_tryCatch, StateT.run_bind]
  rcases (ExceptT.run m).run s with ⟨_ | _, s'⟩ <;> rfl

@[simp] theorem run_pure (a : α) (s : Session ν σ) : (pure a : Call ν σ α).run s = (.ok a, s) := rfl

@[simp] theorem run_throw (e : Failure) (s : Session ν σ) :
    (throw e : Call ν σ α).run s = (.error e, s) := rfl

@[simp] theorem run_fail (e : Failure) (s : Session ν σ) :
    (fail e : Call ν σ α).run s = (.error e, s) := rfl

@[simp] theorem run_refuse (q : Refusal) (s : Session ν σ) :
    (refuse q : Call ν σ α).run s = (.error (.refused q), s) := rfl

/-! ## The node and the trace -/

@[simp] theorem run_get (s : Session ν σ) : (get : Call ν σ (Session ν σ)).run s = (.ok s, s) := rfl

@[simp] theorem run_node (s : Session ν σ) : (node : Call ν σ ν).run s = (.ok s.node, s) := rfl

@[simp] theorem run_modifyNode (f : ν → ν) (s : Session ν σ) :
    (modifyNode f).run s = (.ok (), s.withNode (f s.node)) := rfl

@[simp] theorem run_record (actions : List Action) (s : Session ν σ) :
    (record actions).run s = (.ok (), s.did actions) := rfl

@[simp] theorem run_report (e : Event) (s : Session ν σ) :
    (report e).run s = (.ok (), s.did [.event e]) := rfl

/-! ## Partial answers of plans and regions -/

@[simp] theorem run_ofPlan_ok (a : α) (s : Session ν σ) : (ofPlan (.ok a)).run s = (.ok a, s) := rfl

@[simp] theorem run_ofPlan_error (f : PlanFault) (s : Session ν σ) :
    (ofPlan (.error f) : Call ν σ α).run s = (.error (.fault f), s) := rfl

@[simp] theorem run_ofRegion_ok (a : α) (s : Session ν σ) :
    (ofRegion (.ok a)).run s = (.ok a, s) := rfl

@[simp] theorem run_ofRegion_error (e : RegionError) (s : Session ν σ) :
    (ofRegion (.error e) : Call ν σ α).run s = (.error (.region e), s) := rfl

theorem ofPlan_bind_cases {x : Except PlanFault α} {f : α → Call ν σ β} {s s' : Session ν σ}
    {res : Except Failure β} (h : (ofPlan x >>= f).run s = (res, s')) :
    (∃ a, x = .ok a ∧ (f a).run s = (res, s')) ∨
      ∃ e, x = .error e ∧ res = .error (.fault e) ∧ s = s' := by
  cases x with
  | ok a => exact Or.inl ⟨a, rfl, h⟩
  | error e =>
    cases h
    exact Or.inr ⟨e, rfl, rfl, rfl⟩

theorem ofRegion_bind_cases {x : Except RegionError α} {f : α → Call ν σ β} {s s' : Session ν σ}
    {res : Except Failure β} (h : (ofRegion x >>= f).run s = (res, s')) :
    (∃ a, x = .ok a ∧ (f a).run s = (res, s')) ∨
      ∃ e, x = .error e ∧ res = .error (.region e) ∧ s = s' := by
  cases x with
  | ok a => exact Or.inl ⟨a, rfl, h⟩
  | error e =>
    cases h
    exact Or.inr ⟨e, rfl, rfl, rfl⟩

/-! ## Random order -/

/-- Bringing a list into random order either fails with its source or gives a permutation. -/
theorem run_shuffle {γ : Type} {xs : List γ} (hlen : xs.length < 4294967296) (s : Session ν σ) :
    (∃ ys random, ys.Perm xs ∧ (shuffle xs).run s = (.ok ys, s.withRandom random)) ∨
      ∃ random, (shuffle xs).run s = (.error (.random .exhausted), s.withRandom random) := by
  have hperm := Random.shuffle_perm xs s.random
  unfold shuffle
  rw [run_bind_ok (run_get s)]
  rcases hr : Random.shuffle xs s.random with ⟨e | _, ys, random⟩
  · obtain rfl := Random.shuffle_error hlen hr
    exact Or.inr ⟨random, rfl⟩
  · rw [hr] at hperm
    exact Or.inl ⟨ys, random, hperm, rfl⟩

/-- It does not fail if the source of random numbers never does. -/
theorem run_shuffle_ok {γ : Type} {xs : List γ} {s : Session ν σ} (h : s.random.Endless)
    (hlen : xs.length < 4294967296) :
    ∃ ys random, (shuffle xs).run s = (.ok ys, s.withRandom random) := by
  have hok := h.shuffle hlen
  unfold shuffle
  rw [run_bind_ok (run_get s)]
  rcases hr : Random.shuffle xs s.random with ⟨_ | _, ys, random⟩
  · rw [hr] at hok
    cases hok
  · exact ⟨ys, random, rfl⟩

/-! ## The host -/

variable [Host σ]

@[simp] theorem run_now (s : Session ν σ) :
    (now : Call ν σ Instant).run s = (.ok (Host.now s.host), s) := rfl

@[simp] theorem run_radioState (s : Session ν σ) :
    (radioState : Call ν σ RadioState).run s = (.ok (Host.radioState s.host), s) := rfl

@[simp] theorem run_airtime (config : TransmitConfig) (len : Nat) (s : Session ν σ) :
    (airtime config len : Call ν σ Duration).run s = (.ok (Host.airtime config len s.host), s) :=
  rfl

theorem run_radio_ok {q : RadioRequest} {s : Session ν σ} (h : s.accepts q = true) :
    (radio q).run s = (.ok (), s.asked q) := by
  unfold radio Session.asked
  rw [run_bind_ok (run_get s), h]
  unfold Session.accepts at h
  rcases hq : Host.request q s.host with ⟨accepted, host⟩
  rw [hq] at h
  cases h
  rfl

theorem run_radio_error {q : RadioRequest} {s : Session ν σ} (h : s.accepts q = false) :
    (radio q).run s = (.error (.radio q), s.asked q) := by
  unfold radio Session.asked
  rw [run_bind_ok (run_get s), h]
  unfold Session.accepts at h
  rcases hq : Host.request q s.host with ⟨accepted, host⟩
  rw [hq] at h
  cases h
  rfl

/-- A call goes on just if the radio accepts what it is asked. -/
theorem radio_bind_cases {q : RadioRequest} {f : Unit → Call ν σ β} {s s' : Session ν σ}
    {res : Except Failure β} (h : (radio q >>= f).run s = (res, s')) :
    (s.accepts q = true ∧ (f ()).run (s.asked q) = (res, s')) ∨
      (s.accepts q = false ∧ res = .error (.radio q) ∧ s' = s.asked q) := by
  cases hq : s.accepts q with
  | true =>
    rw [run_bind_ok (run_radio_ok hq)] at h
    exact Or.inl ⟨rfl, h⟩
  | false =>
    rw [run_bind_error (run_radio_error hq)] at h
    cases h
    exact Or.inr ⟨rfl, rfl, rfl⟩

theorem run_schedule_ok {delay : Duration} {a : Alarm} {s : Session ν σ} {id : EventId}
    (h : s.alarmId? delay a = some id) :
    (schedule delay a).run s = (.ok id, s.scheduled delay a) := by
  unfold schedule Session.scheduled
  rw [run_bind_ok (run_get s)]
  unfold Session.alarmId? at h
  rcases hq : Host.schedule delay a s.host with ⟨id?, host⟩
  rw [hq] at h
  cases h
  rfl

theorem run_schedule_error {delay : Duration} {a : Alarm} {s : Session ν σ}
    (h : s.alarmId? delay a = none) :
    (schedule delay a).run s = (.error .timelineFull, s.scheduled delay a) := by
  unfold schedule Session.scheduled
  rw [run_bind_ok (run_get s)]
  unfold Session.alarmId? at h
  rcases hq : Host.schedule delay a s.host with ⟨id?, host⟩
  rw [hq] at h
  cases h
  rfl

end Call

/-! ## Signals -/

/--
Does an action say something of the course of an uplink: a frame of it on air, or how it ended?
-/
def Action.isSignal : Action → Bool
  | .radio (.send _ _) accepted => accepted
  | .event (.sent _ _ _ _) => true
  | .event (.retransmitted _ _ _) => true
  | .event (.acknowledged _) => true
  | .event (.maxTransmissionsReached _) => true
  | .event (.retransmissionAbandoned _) => true
  | _ => false

namespace Session

variable {ν σ : Type}

/-- The signals so far. -/
def signals (s : Session ν σ) : List Action := s.trace.filter Action.isSignal

theorem signals_did (s : Session ν σ) (actions : List Action) :
    (s.did actions).signals = s.signals ++ actions.filter Action.isSignal :=
  List.filter_append _ _

theorem signals_did_of {s : Session ν σ} {actions : List Action}
    (h : ∀ a ∈ actions, a.isSignal = false) : (s.did actions).signals = s.signals := by
  have hnone : actions.filter Action.isSignal = [] :=
    List.filter_eq_nil_iff.mpr fun a ha => by rw [h a ha]; exact Bool.false_ne_true
  rw [signals_did, hnone, List.append_nil]

variable [Host σ]

theorem signals_asked (s : Session ν σ) (q : RadioRequest) :
    (s.asked q).signals = s.signals ++ [Action.radio q (s.accepts q)].filter Action.isSignal :=
  List.filter_append _ _

theorem signals_asked_of {s : Session ν σ} {q : RadioRequest}
    (h : (Action.radio q (s.accepts q)).isSignal = false) : (s.asked q).signals = s.signals := by
  rw [signals_asked, List.filter_cons_of_neg (by rw [h]; exact Bool.false_ne_true), List.filter_nil,
    List.append_nil]

end Session

end LoraLink
