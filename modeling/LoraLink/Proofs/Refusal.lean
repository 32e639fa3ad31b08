import LoraLink.Proofs.Repeats

/-!
# A send that fails changes nothing

A call to send a new uplink can fail at eight points: before anything is tried, while a channel is
drawn, while the frame is put together, and last when the radio refuses it. By then the new uplink
has taken the place of the one that was held. That one is put back, and nothing else was touched,
for whatever changes the device comes after the radio has accepted the frame; and from there on
nothing can go wrong.

So what a failed call leaves behind can be told from its error: the event that says why, and the
request that the radio has refused. The device is what it was before, and a run goes on as if the
call had not been made.
-/

namespace LoraLink

namespace Failure

/-- What was asked of the radio in vain. -/
def requests : Failure → List Action
  | .radio q => [.radio q false]
  | _ => []

/-- The host after that. -/
def hostAfter {σ : Type} [Host σ] (host : σ) : Failure → σ
  | .radio q => (Host.request q host).2
  | _ => host

end Failure

/-- The region allows no more than a device can hold. -/
def Region.Holdable (r : Region) : Prop :=
  ∀ rate limit, r.maxPayload rate = .ok limit → limit ≤ EndDevice.maxPayload

theorem eu868_holdable : Region.eu868.Holdable := by
  intro rate limit hlimit
  have hall : ∀ n ∈ Region.eu868.maxPayloads, n ≤ EndDevice.maxPayload := by decide
  unfold Region.maxPayload at hlimit
  cases hrow : Region.eu868.maxPayloads[rate.val]? with
  | none =>
    rw [hrow] at hlimit
    cases hlimit
  | some n =>
    rw [hrow] at hlimit
    cases hlimit
    exact hall _ (List.mem_of_getElem? hrow)

/-- Does the call ask for a new uplink in vain? -/
def Turn.isRefused {σ : Type} [Host σ] (r : Region) (t : Turn σ) (d : EndDevice) : Bool :=
  t.op.isSend && !(t.result r d).toBool

namespace EndDevice

variable (r : Region)

/-- What is reported when a payload of some length is refused. -/
def refusalReport (d : EndDevice) (now : Instant) (len : Nat) : Failure → List Event
  | .refused .rxWindowsPending => [.rxWindowsPending]
  | .refused .payloadTooLarge =>
    match r.maxPayload (d.dataRate r) with
    | .ok limit => if limit < len then [.payloadTooLarge len limit] else []
    | .error _ => []
  | .refused .aggregatedDutyCycle =>
    [.aggregatedDutyCycleBlocked (d.plan.aggregatedWait now d.settings.aggregatedDutyCycle)]
  | .refused .noValidChannelFound => [.dutyCycleBlocked]
  | _ => []

variable {r}

/-- A payload that is too long for the region is reported as such. -/
theorem refusalReport_tooLong {d : EndDevice} {now : Instant} {len limit : Nat}
    (hlimit : r.maxPayload (d.dataRate r) = .ok limit) (hlen : limit < len) :
    d.refusalReport r now len (.refused .payloadTooLarge) = [.payloadTooLarge len limit] := by
  unfold refusalReport
  dsimp only
  rw [hlimit]
  exact if_pos hlen

/-- One that the region allows is not, even if a device cannot hold it. -/
theorem refusalReport_allowed {d : EndDevice} {now : Instant} {len limit : Nat}
    (hlimit : r.maxPayload (d.dataRate r) = .ok limit) (hlen : len ≤ limit) :
    d.refusalReport r now len (.refused .payloadTooLarge) = [] := by
  unfold refusalReport
  dsimp only
  rw [hlimit]
  exact if_neg (Nat.not_lt.mpr hlen)

variable {σ : Type} [Host σ]

/-! ## What a failure leaves behind -/

/-- Nothing has changed in between but what a failure tells. -/
structure Unchanged (e : Failure) (reports : List Event) (s s' : Session EndDevice σ) : Prop where
  node : s'.node = s.node
  trace : s'.trace = s.trace ++ (reports.map .event ++ e.requests)
  host : s'.host = e.hostAfter s.host

/-- A failure that asks nothing of the radio leaves no trace of its own. -/
theorem unchanged_untold {e : Failure} (he : e.requests = []) (s : Session EndDevice σ) :
    Unchanged e [] s s := by
  have hhost : e.hostAfter s.host = s.host := by
    cases e with
    | radio q => cases he
    | _ => rfl
  refine ⟨rfl, ?_, hhost.symm⟩
  rw [he]
  exact (List.append_nil _).symm

theorem unchanged_reported (q : Refusal) (event : Event) (s : Session EndDevice σ) :
    Unchanged (.refused q) [event] s (s.did [.event event]) where
  node := rfl
  trace := rfl
  host := rfl

/-- Random numbers that were used up before make no difference. -/
theorem Unchanged.of_withRandom {e : Failure} {reports : List Event} {s s' : Session EndDevice σ}
    {g : Random} (h : Unchanged e reports (s.withRandom g) s') : Unchanged e reports s s' where
  node := h.node
  trace := h.trace
  host := h.host

/-- A failure to draw a channel is not reported. -/
theorem Selected.unchanged {now : Instant} {rate : DataRate} {s s' : Session EndDevice σ}
    {e : Failure} (h : Selected now rate s (.error e) s') (d : EndDevice) (len : Nat) :
    Unchanged e (d.refusalReport r now len e) s s' := by
  cases h with
  | unordered g => exact (unchanged_untold rfl (s.withRandom g)).of_withRandom
  | fault g _ _ => exact (unchanged_untold rfl (s.withRandom g)).of_withRandom

/-- Nor is a failure to put a frame on air. The only trace it can leave is the radio's refusal. -/
theorem Transmitted.unchanged {u : HeldUplink} {i : Nat} {s s' : Session EndDevice σ} {e : Failure}
    (h : Transmitted r u i s (.error e) s') (d : EndDevice) (now : Instant) (len : Nat) :
    Unchanged e (d.refusalReport r now len e) s s' := by
  cases h with
  | noChannel _ => exact unchanged_untold rfl s
  | unwritten _ => exact unchanged_untold rfl s
  | unmodulated _ => exact unchanged_untold rfl s
  | fault _ _ => exact unchanged_untold rfl s
  -- Of the ways to fail only this one is seen by the radio.
  | refused hq =>
    rename_i config frame
    have htrace : (s.asked (.send config frame)).trace =
        s.trace ++ [.radio (.send config frame) false] := by
      unfold Session.asked
      rw [hq]
    exact ⟨rfl, htrace, rfl⟩

/-- **A call to send a new uplink that fails leaves nothing behind but what its failure tells.** -/
theorem Sent.unchanged {payload : List UInt8} {port : UInt8} {confirmed : Bool}
    {s s' : Session EndDevice σ} {e : Failure}
    (h : Sent r payload port confirmed s (.error e) s') :
    Unchanged e (s.node.refusalReport r (Host.now s.host) payload.length e) s s' := by
  cases h with
  | pending _ => exact unchanged_reported _ _ s
  | misplaced _ _ => exact unchanged_untold rfl s
  | unlimited _ => exact unchanged_untold rfl s
  | tooLong hlimit hlen =>
    rw [refusalReport_tooLong hlimit hlen]
    exact unchanged_reported _ _ s
  | tooSoon _ hwait =>
    subst hwait
    exact unchanged_reported _ _ s
  | unselected hselect => exact hselect.unchanged s.node payload.length
  -- From here on the channels have been tried in a random order, so random numbers are used up.
  | blocked hselect =>
    obtain ⟨g, rfl⟩ := hselect.session
    exact (unchanged_reported _ _ (s.withRandom g)).of_withRandom
  | oversized hlimit hallowed hselect _ =>
    obtain ⟨g, rfl⟩ := hselect.session
    rw [refusalReport_allowed hlimit hallowed]
    exact (unchanged_untold rfl (s.withRandom g)).of_withRandom
  | failed _ hselect hsend =>
    obtain ⟨g, rfl⟩ := hselect.session
    exact (hsend.unchanged s.node (Host.now s.host) payload.length).of_withRandom

/-- The radio is asked for nothing but to send. -/
theorem Sent.request {payload : List UInt8} {port : UInt8} {confirmed : Bool}
    {s s' : Session EndDevice σ} {q : RadioRequest}
    (h : Sent r payload port confirmed s (.error (.radio q)) s') :
    ∃ config frame, q = .send config frame := by
  cases h with
  | unselected hselect => cases hselect
  | failed _ _ hsend =>
    cases hsend with
    | refused _ => exact ⟨_, _, rfl⟩

/-- A payload is too long for the region, unless the region allows more than a device can hold. -/
theorem Sent.tooLong_of_holdable {payload : List UInt8} {port : UInt8} {confirmed : Bool}
    {s s' : Session EndDevice σ} (hregion : r.Holdable)
    (h : Sent r payload port confirmed s (.error (.refused .payloadTooLarge)) s') :
    ∃ limit, r.maxPayload (s.node.dataRate r) = .ok limit ∧ limit < payload.length := by
  cases h with
  | tooLong hlimit hlen => exact ⟨_, hlimit, hlen⟩
  | unselected hselect => cases hselect
  | oversized hlimit hallowed _ hsize =>
    have hheld := hregion _ _ hlimit
    omega
  | failed _ _ hsend => cases hsend

/-! ## Calls and runs -/

variable (r)

/-- What is left of a call to send a payload that has failed. -/
structure Refused (t : Turn σ) (d : EndDevice) (payload : List UInt8) (e : Failure) : Prop where
  device : t.after r d = d
  /-- What was reported, and what the radio has refused. -/
  trace : t.trace r d =
    (d.refusalReport r (Host.now t.host) payload.length e).map .event ++ e.requests
  request : ∀ q, e = .radio q → ∃ config frame, q = .send config frame
  host : (t.made r d).2.host = e.hostAfter t.host
  silent : t.transmissions r d = []
  /-- A payload that is too long is reported, unless the region allows more than fits a device. -/
  tooLong : r.Holdable → e = .refused .payloadTooLarge →
    ∃ limit, r.maxPayload (d.dataRate r) = .ok limit ∧ limit < payload.length

variable {r}

/-- Neither a report nor a refused request is a frame on air. -/
theorem transmissions_of_refusal (host : σ) (reports : List Event) (e : Failure) :
    (reports.map Action.event ++ e.requests).filterMap (Action.transmission? host) = [] := by
  have hrequests : e.requests.filterMap (Action.transmission? host) = [] := by
    cases e with
    | radio q => cases q <;> rfl
    | _ => rfl
  rw [List.filterMap_append, transmissions_of_events, hrequests, List.append_nil]

/-- **A call to send a new uplink that fails is refused, with all that goes with it.** -/
theorem refused_step {t : Turn σ} {d : EndDevice} {payload : List UInt8} {port : UInt8}
    {confirmed : Bool} {e : Failure} (hop : t.op = .send payload port confirmed)
    (hfail : t.result r d = .error e) : Refused r t d payload e := by
  have hrun := Turn.run_call r hop d
  rw [hfail] at hrun
  have hsent := send_cases r hrun
  have hunchanged := hsent.unchanged
  have htrace : t.trace r d =
      (d.refusalReport r (Host.now t.host) payload.length e).map .event ++ e.requests :=
    hunchanged.trace
  refine
    { device := hunchanged.node
      trace := htrace
      request := ?_
      host := hunchanged.host
      silent := ?_
      tooLong := ?_ }
  · rintro q rfl
    exact hsent.request
  -- Neither an event nor a refused request is a frame on air.
  · unfold Turn.transmissions
    rw [htrace]
    exact transmissions_of_refusal t.host _ e
  · rintro hregion rfl
    exact hsent.tooLong_of_holdable hregion

variable (r)

/-- A run without the calls that ask for a new uplink in vain. -/
def withoutRefused (d : EndDevice) : List (Turn σ) → List (Turn σ)
  | [] => []
  | t :: rest =>
    if t.isRefused r d then d.withoutRefused rest else t :: (t.after r d).withoutRefused rest

variable {r}

theorem unchanged_of_isRefused {t : Turn σ} {d : EndDevice} (h : t.isRefused r d = true) :
    t.after r d = d ∧ t.transmissions r d = [] := by
  unfold Turn.isRefused at h
  obtain ⟨hsend, hfail⟩ := Bool.and_eq_true_iff.mp h
  cases hop : t.op with
  | send payload port confirmed =>
    cases hresult : t.result r d with
    | ok _ =>
      rw [hresult] at hfail
      cases hfail
    | error e =>
      have hrefused := refused_step hop hresult
      exact ⟨hrefused.device, hrefused.silent⟩
  | _ =>
    rw [hop] at hsend
    cases hsend

/-- **Without these calls a run ends in the same state, and the same frames go on air.** -/
theorem withoutRefused_run (d : EndDevice) (ts : List (Turn σ)) :
    d.afterAll r (d.withoutRefused r ts) = d.afterAll r ts ∧
      d.transmissions r (d.withoutRefused r ts) = d.transmissions r ts := by
  -- Whether a call is in vain depends on the device it finds, so the device varies along the run.
  induction ts generalizing d with
  | nil => exact ⟨rfl, rfl⟩
  | cons t rest ih =>
    by_cases hrefused : t.isRefused r d = true
    · obtain ⟨hafter, hsilent⟩ := unchanged_of_isRefused hrefused
      rw [withoutRefused, if_pos hrefused, afterAll, transmissions, hafter, hsilent,
        List.nil_append]
      exact ih d
    · obtain ⟨hafter, htransmissions⟩ := ih (t.after r d)
      rw [withoutRefused, if_neg hrefused, afterAll, transmissions, afterAll, transmissions,
        hafter, htransmissions]
      exact ⟨rfl, rfl⟩

/--
**A call to send a new uplink that fails changes nothing.**

The device may be in any state and called in any way before, the payload, the port and the host may
be anything, and the call may fail for any reason. Then the device is what it was: its counter, its
settings, its plan with all clocks, its queue, what it owes and counts, the uplink it holds with the
attempts that are left, its alarms. No frame has gone on air, and no alarm was set. All that was
done is told by the failure: one event for a refusal that is reported, or one request to send that
the radio has refused. And whatever is called later, the run is the same without the call.
-/
theorem send_refused (r : Region) (d : EndDevice) (before : List (Turn σ)) (t : Turn σ)
    {payload : List UInt8} {port : UInt8} {confirmed : Bool} {e : Failure}
    (hop : t.op = .send payload port confirmed)
    (hfail : t.result r (d.afterAll r before) = .error e) :
    Refused r t (d.afterAll r before) payload e ∧
      ∀ later, d.afterAll r (before ++ t :: later) = d.afterAll r (before ++ later) ∧
        d.transmissions r (before ++ t :: later) = d.transmissions r (before ++ later) := by
  have hrefused := refused_step hop hfail
  refine ⟨hrefused, ?_⟩
  intro later
  constructor
  · rw [afterAll_append, afterAll_append, afterAll, hrefused.device]
  · rw [transmissions_append, transmissions_append, transmissions, hrefused.device,
      hrefused.silent, List.nil_append]

/-- A call on the bench to send an uplink that the radio will refuse. -/
def refusedSend : Turn Simulation.View :=
  { Turn.onBench 200 (.send [9] 1 false) with host.radio.refusing := [.send] }

/--
When a new uplink fails, the one that nobody has answered is still held, and so is the alarm for its
next attempt.
-/
theorem send_refused_held :
    let d := initial ⟨5⟩ {} Region.eu868.defaultPlan
    let d' := d.afterAll .eu868 unansweredRun
    d'.held.isSome = true ∧ d'.alarms.retransmit.isSome = true ∧
      ∃ config frame,
        refusedSend.result .eu868 d' = .error (.radio (.send config frame)) ∧
        refusedSend.after .eu868 d' = d' ∧
        refusedSend.trace .eu868 d' = [.radio (.send config frame) false] := by
  intro d d'
  refine ⟨by decide +kernel, by decide +kernel, ?_⟩
  -- A failure cannot be compared for equality, so its kind is what is evaluated.
  have hradio : (match refusedSend.result .eu868 d' with
      | .error (.radio _) => true
      | _ => false) = true := by decide +kernel
  split at hradio
  · rename_i q hfail
    obtain ⟨hrefused, -⟩ := send_refused .eu868 d unansweredRun refusedSend rfl hfail
    obtain ⟨config, frame, rfl⟩ := hrefused.request q rfl
    exact ⟨config, frame, hfail, hrefused.device, hrefused.trace⟩
  · cases hradio

end EndDevice

end LoraLink
