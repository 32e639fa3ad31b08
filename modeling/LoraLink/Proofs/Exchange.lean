import LoraLink.Device.Exchange
import LoraLink.Proofs.Downlink
import LoraLink.Proofs.Uplink

/-!
# How exchanges go on

What the calls that follow an uplink can come to: those that move the receive windows, those that
bring a frame, and the alarm that asks for the next attempt. As for uplinks, there is a constructor
for each way, and a theorem that there are no others.
-/

namespace LoraLink

namespace EndDevice

/-! ## The wait for the next attempt -/

/--
The wait until the next attempt is for the first usable channel, and for the duty cycle of all.
-/
theorem earliestDelay_cases (d : EndDevice) (now : Instant) (rate : DataRate) :
    ∃ cs : List Channel, (∀ c ∈ cs, ∃ i, d.plan.channel? i = some c) ∧
      ((∃ wait, d.plan.shortestWait now cs = .ok wait ∧ d.earliestDelay now rate =
        .ok (max wait (d.plan.aggregatedWait now d.settings.aggregatedDutyCycle))) ∨
      ∃ f, d.plan.shortestWait now cs = .error f ∧ d.earliestDelay now rate = .error f) := by
  refine ⟨(d.plan.definedChannels.filter fun x => x.2.enabled && x.2.supports rate).map (·.2),
    ?_, ?_⟩
  · intro c hc
    obtain ⟨⟨i, _⟩, hmem, rfl⟩ := List.mem_map.mp hc
    exact ⟨i, Plan.mem_definedChannels.mp (List.mem_filter.mp hmem).1⟩
  · have hdelay : d.earliestDelay now rate = (d.plan.shortestWait now
        ((d.plan.definedChannels.filter fun x => x.2.enabled && x.2.supports rate).map (·.2))).map
          fun wait => max wait (d.plan.aggregatedWait now d.settings.aggregatedDutyCycle) := rfl
    rw [hdelay]
    cases d.plan.shortestWait now
        ((d.plan.definedChannels.filter fun x => x.2.enabled && x.2.supports rate).map (·.2)) with
    | ok wait => exact Or.inl ⟨wait, rfl, rfl⟩
    | error f => exact Or.inr ⟨f, rfl, rfl⟩

/-- The wait for the next attempt is also the wait for the aggregated duty cycle. -/
theorem earliestDelay_free {d : EndDevice} {now : Instant} {rate : DataRate} {wait : Duration}
    (h : d.earliestDelay now rate = .ok wait) (hwait : wait.isZero = true) :
    (d.plan.aggregatedWait now d.settings.aggregatedDutyCycle).isZero = true := by
  obtain ⟨_, _, ⟨w, _, hok⟩ | ⟨f, _, herror⟩⟩ := d.earliestDelay_cases now rate
  · rw [hok] at h
    cases h
    have hzero : (max w (d.plan.aggregatedWait now d.settings.aggregatedDutyCycle)).micros = 0 :=
      beq_iff_eq.mp hwait
    have hle := Duration.le_max_right w (d.plan.aggregatedWait now d.settings.aggregatedDutyCycle)
    rw [Duration.le_def] at hle
    refine beq_iff_eq.mpr ?_
    omega
  · rw [herror] at h
    cases h

variable {σ : Type}

/-! ## Sessions along the way -/

/-- The session once the last uplink has left the antenna. -/
def landed (s : Session EndDevice σ) : Session EndDevice σ :=
  s.withNode { s.node with transmitting := false }

/-- The session once an alarm is not waited for any more. -/
def disarmed (a : Alarm) (s : Session EndDevice σ) : Session EndDevice σ :=
  s.withNode { s.node with alarms := s.node.alarms.set a none }

/-- The session when closing a window waits for the end of a reception. -/
def deferred (w : Window) (s : Session EndDevice σ) : Session EndDevice σ :=
  s.withNode { s.node with deferredClose := some w }

/-- The session when that end has come. -/
def resumed (s : Session EndDevice σ) : Session EndDevice σ :=
  s.withNode { s.node with deferredClose := none }

/-- The session when no window is waited for any more. -/
def windowless (s : Session EndDevice σ) : Session EndDevice σ :=
  s.withNode { s.node with alarms := s.node.alarms.cancelWindows, deferredClose := none }

/-- The session when the uplink that was held is through, or has no attempts left. -/
def released (u : HeldUplink) (ack : Bool) (s : Session EndDevice σ) : Session EndDevice σ :=
  (s.withNode { s.node with held := none, alarms := s.node.alarms.set .retransmit none }).did
    ((outcome u ack).map .event)

/-- The session when the uplink that was held is dropped without a word. -/
def dropped (s : Session EndDevice σ) : Session EndDevice σ :=
  s.withNode { s.node with held := none }

/-- The session when the uplink that was held is given up. -/
def givenUp (u : HeldUplink) (s : Session EndDevice σ) : Session EndDevice σ :=
  (dropped s).did [.event .dutyCycleBlocked, .event (.maxTransmissionsReached u.transmissions)]

variable [Host σ] (r : Region)

/-- The session after an alarm was set. -/
def armed (delay : Duration) (a : Alarm) (id : EventId) (s : Session EndDevice σ) :
    Session EndDevice σ :=
  (s.scheduled delay a).withNode { s.node with alarms := s.node.alarms.set a (some id) }

/-- The session once a downlink was taken in. -/
def heard (reception : Reception) (frame : DataFrame) (s : Session EndDevice σ) :
    Session EndDevice σ :=
  let status : Status := ⟨reception, Host.battery s.host, Host.externalPower s.host⟩
  (s.withNode (s.node.heeded r status frame).1).did (s.node.heeded r status frame).2

/-! ## Alarms -/

theorem setAlarm_cases {delay : Duration} {a : Alarm} {s s' : Session EndDevice σ}
    {res : Except Failure Unit} (h : (setAlarm delay a).run s = (res, s')) :
    (∃ id, s.alarmId? delay a = some id ∧ res = .ok () ∧ s' = armed delay a id s) ∨
      (s.alarmId? delay a = none ∧ res = .error .timelineFull ∧ s' = s.scheduled delay a) := by
  unfold setAlarm at h
  cases hid : s.alarmId? delay a with
  | some id =>
    rw [Call.run_bind_ok (Call.run_schedule_ok hid)] at h
    cases h
    exact Or.inl ⟨id, rfl, rfl, rfl⟩
  | none =>
    rw [Call.run_bind_error (Call.run_schedule_error hid)] at h
    cases h
    exact Or.inr ⟨rfl, rfl, rfl⟩

theorem setAlarm_bind_cases {α : Type} {delay : Duration} {a : Alarm} {s s' : Session EndDevice σ}
    {f : Unit → Call EndDevice σ α} {res : Except Failure α}
    (h : (setAlarm delay a >>= f).run s = (res, s')) :
    (∃ id, s.alarmId? delay a = some id ∧ (f ()).run (armed delay a id s) = (res, s')) ∨
      (s.alarmId? delay a = none ∧ res = .error .timelineFull ∧ s' = s.scheduled delay a) := by
  rcases Call.bind_cases h with ⟨_, s₁, hset, h⟩ | ⟨e, hset, rfl⟩
  · rcases setAlarm_cases hset with ⟨id, hid, _, rfl⟩ | ⟨_, herror, _⟩
    · exact Or.inl ⟨id, hid, h⟩
    · cases herror
  · rcases setAlarm_cases hset with ⟨id, hid, hok, _⟩ | ⟨hid, herror, rfl⟩
    · cases hok
    · cases herror
      exact Or.inr ⟨hid, rfl, rfl⟩

/-! ## The windows -/

/-- How tuning the radio to a window can end. -/
inductive Tuned (w : Window) (s : Session EndDevice σ) :
    Except Failure Modulation → Session EndDevice σ → Prop where
  | noRate {e : RegionError} (h : s.node.windowRate r w = .error e) :
      Tuned w s (.error (.region e)) s
  | unmodulated {rate : DataRate} {e : RegionError} (hrate : s.node.windowRate r w = .ok rate)
      (h : r.modulation rate = .error e) : Tuned w s (.error (.region e)) s
  | noFrequency {q : RadioRequest} (hq : q = .setFrequency (s.node.windowFrequency r w))
      (h : s.accepts q = false) : Tuned w s (.error (.radio q)) (s.asked q)
  | noSpreading {q q' : RadioRequest} {m : Modulation}
      (hq : q = .setFrequency (s.node.windowFrequency r w))
      (hq' : q' = .setSpreadingFactor m.spreadingFactor) (h : s.accepts q = true)
      (h' : (s.asked q).accepts q' = false) :
      Tuned w s (.error (.radio q')) ((s.asked q).asked q')
  | tuned {q q' : RadioRequest} {rate : DataRate} {m : Modulation}
      (hrate : s.node.windowRate r w = .ok rate) (hm : r.modulation rate = .ok m)
      (hq : q = .setFrequency (s.node.windowFrequency r w))
      (hq' : q' = .setSpreadingFactor m.spreadingFactor) (h : s.accepts q = true)
      (h' : (s.asked q).accepts q' = true) : Tuned w s (.ok m) ((s.asked q).asked q')

theorem tune_cases {w : Window} {s s' : Session EndDevice σ} {res : Except Failure Modulation}
    (h : (tune r w).run s = (res, s')) : Tuned r w s res s' := by
  unfold tune at h
  rw [Call.run_bind_ok (Call.run_node s)] at h
  rcases Call.ofRegion_bind_cases h with ⟨rate, hrate, h⟩ | ⟨e, hrate, rfl, rfl⟩
  case inr => exact .noRate hrate
  rcases Call.ofRegion_bind_cases h with ⟨m, hm, h⟩ | ⟨e, hm, rfl, rfl⟩
  case inr => exact .unmodulated hrate hm
  rcases Call.radio_bind_cases h with ⟨hq, h⟩ | ⟨hq, rfl, rfl⟩
  case inr => exact .noFrequency rfl hq
  rcases Call.radio_bind_cases h with ⟨hq', h⟩ | ⟨hq', rfl, rfl⟩
  · cases h
    exact .tuned hrate hm rfl rfl hq hq'
  · exact .noSpreading rfl rfl hq hq'

/-- Tuning leaves the device as it is. -/
theorem Tuned.node {w : Window} {s s' : Session EndDevice σ} {res : Except Failure Modulation}
    (h : Tuned r w s res s') : s'.node = s.node := by
  cases h <;> rfl

/-- How the call at the end of a transmission can end. -/
inductive Landed (s : Session EndDevice σ) :
    Except Failure Unit → Session EndDevice σ → Prop where
  | idle (h : s.node.transmitting = false) : Landed s (.ok ()) s
  | untuned {e : Failure} {s₁ : Session EndDevice σ} (hon : s.node.transmitting = true)
      (h : Tuned r .first (landed s) (.error e) s₁) : Landed s (.error e) s₁
  | awake {m : Modulation} {s₁ : Session EndDevice σ} (hon : s.node.transmitting = true)
      (htune : Tuned r .first (landed s) (.ok m) s₁) (h : s₁.accepts .sleep = false) :
      Landed s (.error (.radio .sleep)) (s₁.asked .sleep)
  | full {m : Modulation} {s₁ s₂ : Session EndDevice σ} (hon : s.node.transmitting = true)
      (htune : Tuned r .first (landed s) (.ok m) s₁) (hsleep : s₁.accepts .sleep = true)
      (h₂ : s₂ = s₁.asked .sleep)
      (h : s₂.alarmId? (s₂.node.windowDelay r .first) .openRx1 = none) :
      Landed s (.error .timelineFull) (s₂.scheduled (s₂.node.windowDelay r .first) .openRx1)
  | halfFull {m : Modulation} {i : EventId} {s₁ s₂ s₃ : Session EndDevice σ}
      (hon : s.node.transmitting = true) (htune : Tuned r .first (landed s) (.ok m) s₁)
      (hsleep : s₁.accepts .sleep = true) (h₂ : s₂ = s₁.asked .sleep)
      (hi : s₂.alarmId? (s₂.node.windowDelay r .first) .openRx1 = some i)
      (h₃ : s₃ = armed (s₂.node.windowDelay r .first) .openRx1 i s₂)
      (h : s₃.alarmId? (s₃.node.windowDelay r .second) .openRx2 = none) :
      Landed s (.error .timelineFull) (s₃.scheduled (s₃.node.windowDelay r .second) .openRx2)
  | scheduled {m : Modulation} {i j : EventId} {s₁ s₂ s₃ : Session EndDevice σ}
      (hon : s.node.transmitting = true) (htune : Tuned r .first (landed s) (.ok m) s₁)
      (hsleep : s₁.accepts .sleep = true) (h₂ : s₂ = s₁.asked .sleep)
      (hi : s₂.alarmId? (s₂.node.windowDelay r .first) .openRx1 = some i)
      (h₃ : s₃ = armed (s₂.node.windowDelay r .first) .openRx1 i s₂)
      (hj : s₃.alarmId? (s₃.node.windowDelay r .second) .openRx2 = some j) :
      Landed s (.ok ()) (armed (s₃.node.windowDelay r .second) .openRx2 j s₃)

theorem txFinished_cases {s s' : Session EndDevice σ} {res : Except Failure Unit}
    (h : (txFinished r).run s = (res, s')) : Landed r s res s' := by
  unfold txFinished at h
  rw [Call.run_bind_ok (Call.run_node s)] at h
  cases hon : s.node.transmitting with
  | false =>
    rw [hon] at h
    cases h
    exact .idle hon
  | true =>
    rw [hon, if_neg (by decide), Call.run_bind_ok (Call.run_modifyNode _ s)] at h
    -- Each step either goes on or ends the call, in the order in which they are taken.
    rcases Call.bind_cases h with ⟨m, s₁, htune, h⟩ | ⟨e, htune, rfl⟩
    case inr => exact .untuned hon (tune_cases r htune)
    have htuned := tune_cases r htune
    rcases Call.radio_bind_cases h with ⟨hsleep, h⟩ | ⟨hsleep, rfl, rfl⟩
    case inr => exact .awake hon htuned hsleep
    rw [Call.run_bind_ok (Call.run_node (s₁.asked .sleep))] at h
    rcases setAlarm_bind_cases h with ⟨i, hi, h⟩ | ⟨hi, rfl, rfl⟩
    case inr => exact .full hon htuned hsleep rfl hi
    rw [Call.run_bind_ok (Call.run_node _)] at h
    rcases setAlarm_cases h with ⟨j, hj, rfl, rfl⟩ | ⟨hj, rfl, rfl⟩
    · exact .scheduled hon htuned hsleep rfl hi rfl hj
    · exact .halfFull hon htuned hsleep rfl hi rfl hj

/-- The alarm that opens a window. -/
def openAlarm : Window → Alarm
  | .first => .openRx1
  | .second => .openRx2

/-- The alarm that closes a window. -/
def closeAlarm : Window → Alarm
  | .first => .closeRx1
  | .second => .closeRx2

theorem openAlarm_ne_retransmit (w : Window) : openAlarm w ≠ .retransmit := by
  cases w <;> exact Alarm.noConfusion

theorem closeAlarm_ne_retransmit (w : Window) : closeAlarm w ≠ .retransmit := by
  cases w <;> exact Alarm.noConfusion

theorem openAlarm_ne_closeAlarm (w v : Window) : openAlarm w ≠ closeAlarm v := by
  cases w <;> cases v <;> exact Alarm.noConfusion

theorem openAlarm_inj {w v : Window} : openAlarm w = openAlarm v ↔ w = v := by
  cases w <;> cases v <;> decide

theorem closeAlarm_inj {w v : Window} : closeAlarm w = closeAlarm v ↔ w = v := by
  cases w <;> cases v <;> decide

/-- How long the device listens in a window. -/
def windowLength (m : Modulation) (s : Session EndDevice σ) : Duration :=
  m.symbolTime.scale s.node.settings.rxWindowSymbols.toNat

/-- How the attempt to open a window can end. -/
inductive Opened (w : Window) (s : Session EndDevice σ) :
    Except Failure Unit → Session EndDevice σ → Prop where
  | skipped (h : Host.radioState s.host = .rx) : Opened w s (.ok ()) s
  | untuned {e : Failure} {s₁ : Session EndDevice σ} (h : Tuned r w s (.error e) s₁) :
      Opened w s (.error e) s₁
  | asleep {m : Modulation} {s₁ : Session EndDevice σ} (htune : Tuned r w s (.ok m) s₁)
      (h : s₁.accepts .standby = false) : Opened w s (.error (.radio .standby)) (s₁.asked .standby)
  | full {m : Modulation} {s₁ s₂ : Session EndDevice σ} (htune : Tuned r w s (.ok m) s₁)
      (hstandby : s₁.accepts .standby = true) (h₂ : s₂ = s₁.asked .standby)
      (h : s₂.alarmId? (windowLength m s₂) (closeAlarm w) = none) :
      Opened w s (.error .timelineFull) (s₂.scheduled (windowLength m s₂) (closeAlarm w))
  | opened {m : Modulation} {id : EventId} {s₁ s₂ : Session EndDevice σ}
      (hfree : Host.radioState s.host ≠ .rx) (htune : Tuned r w s (.ok m) s₁)
      (hstandby : s₁.accepts .standby = true) (h₂ : s₂ = s₁.asked .standby)
      (hid : s₂.alarmId? (windowLength m s₂) (closeAlarm w) = some id) :
      Opened w s (.ok ()) (armed (windowLength m s₂) (closeAlarm w) id s₂)

theorem openWindow_cases {w : Window} {s s' : Session EndDevice σ} {res : Except Failure Unit}
    (h : (openWindow r w).run s = (res, s')) : Opened r w s res s' := by
  unfold openWindow at h
  rw [Call.run_bind_ok (Call.run_radioState s)] at h
  by_cases hrx : Host.radioState s.host = .rx
  · rw [if_pos hrx] at h
    cases h
    exact .skipped hrx
  rw [if_neg hrx] at h
  rcases Call.bind_cases h with ⟨m, s₁, htune, h⟩ | ⟨e, htune, rfl⟩
  case inr => exact .untuned (tune_cases r htune)
  have htuned := tune_cases r htune
  rcases Call.radio_bind_cases h with ⟨hstandby, h⟩ | ⟨hstandby, rfl, rfl⟩
  case inr => exact .asleep htuned hstandby
  rw [Call.run_bind_ok (Call.run_node (s₁.asked .standby))] at h
  -- Both windows set the alarm for their own close.
  have hset : (setAlarm (windowLength m (s₁.asked .standby)) (closeAlarm w)).run
      (s₁.asked .standby) = (res, s') := by
    cases w <;> exact h
  rcases setAlarm_cases hset with ⟨id, hid, rfl, rfl⟩ | ⟨hid, rfl, rfl⟩
  · exact .opened hrx htuned hstandby rfl hid
  · exact .full htuned hstandby rfl hid

/-! ## The end of an exchange -/

/-- Is the uplink to be sent again after an exchange that ended like this? -/
def tryAgain (u : HeldUplink) (received ack : Bool) : Bool :=
  (!received || (u.confirmed && !ack)) && 0 < u.attemptsLeft

/-- How the end of an exchange can end. -/
inductive Concluded (received ack : Bool) (s : Session EndDevice σ) :
    Except Failure Unit → Session EndDevice σ → Prop where
  | nothing (h : s.node.held = none) : Concluded received ack s (.ok ()) s
  | again {u : HeldUplink} {id : EventId} (hheld : s.node.held = some u)
      (h : tryAgain u received ack = true)
      (hid : s.alarmId? s.node.settings.retransmitTimeout .retransmit = some id) :
      Concluded received ack s (.ok ())
        (armed s.node.settings.retransmitTimeout .retransmit id s)
  | full {u : HeldUplink} (hheld : s.node.held = some u) (h : tryAgain u received ack = true)
      (hid : s.alarmId? s.node.settings.retransmitTimeout .retransmit = none) :
      Concluded received ack s (.error .timelineFull)
        (s.scheduled s.node.settings.retransmitTimeout .retransmit)
  | released {u : HeldUplink} (hheld : s.node.held = some u)
      (h : tryAgain u received ack = false) :
      Concluded received ack s (.ok ()) (released u ack s)

theorem conclude_cases {received ack : Bool} {s s' : Session EndDevice σ}
    {res : Except Failure Unit} (h : (conclude received ack).run s = (res, s')) :
    Concluded received ack s res s' := by
  unfold conclude at h
  rw [Call.run_bind_ok (Call.run_node s)] at h
  cases hheld : s.node.held with
  | none =>
    rw [hheld] at h
    cases h
    exact .nothing hheld
  | some u =>
    rw [hheld] at h
    dsimp only at h
    by_cases hagain : ((!received || u.confirmed && !ack) && decide (0 < u.attemptsLeft)) = true
    · rw [if_pos hagain] at h
      rcases setAlarm_cases h with ⟨id, hid, rfl, rfl⟩ | ⟨hid, rfl, rfl⟩
      · exact .again hheld hagain hid
      · exact .full hheld hagain hid
    · rw [if_neg hagain] at h
      cases h
      exact .released hheld (Bool.eq_false_iff.mpr hagain)

/-- How the call can end that puts the radio to sleep after a window. -/
inductive Parked (s : Session EndDevice σ) :
    Except Failure Unit → Session EndDevice σ → Prop where
  | awake (h : s.accepts .sleep = false) : Parked s (.error (.radio .sleep)) (s.asked .sleep)
  /-- Another window is still to come. -/
  | waiting (hsleep : s.accepts .sleep = true) (h : s.node.rxWindowsPending = true) :
      Parked s (.ok ()) (s.asked .sleep)
  | closed {res : Except Failure Unit} {s' : Session EndDevice σ} (hsleep : s.accepts .sleep = true)
      (hover : s.node.rxWindowsPending = false)
      (h : Concluded false false (s.asked .sleep) res s') : Parked s res s'

theorem park_cases {s s' : Session EndDevice σ} {res : Except Failure Unit}
    (h : (do Call.radio .sleep; concludeIfOver : Call EndDevice σ Unit).run s = (res, s')) :
    Parked s res s' := by
  rcases Call.radio_bind_cases h with ⟨hsleep, h⟩ | ⟨hsleep, rfl, rfl⟩
  case inr => exact .awake hsleep
  unfold concludeIfOver at h
  rw [Call.run_bind_ok (Call.run_node (s.asked .sleep))] at h
  cases hover : s.node.rxWindowsPending with
  | true =>
    rw [show (s.asked .sleep).node.rxWindowsPending = true from hover] at h
    cases h
    exact .waiting hsleep hover
  | false =>
    rw [show (s.asked .sleep).node.rxWindowsPending = false from hover, if_pos (by decide)] at h
    exact .closed hsleep hover (conclude_cases h)

/-- How closing a window can end. -/
inductive Closed (w : Window) (s : Session EndDevice σ) :
    Except Failure Unit → Session EndDevice σ → Prop where
  | deferred (h : Host.radioState s.host = .rx) : Closed w s (.ok ()) (deferred w s)
  | parked {res : Except Failure Unit} {s' : Session EndDevice σ}
      (hfree : Host.radioState s.host ≠ .rx) (h : Parked s res s') : Closed w s res s'

theorem closeWindow_cases {w : Window} {s s' : Session EndDevice σ} {res : Except Failure Unit}
    (h : (closeWindow w).run s = (res, s')) : Closed w s res s' := by
  unfold closeWindow at h
  rw [Call.run_bind_ok (Call.run_radioState s)] at h
  by_cases hrx : Host.radioState s.host = .rx
  · -- The reception goes on; its end closes the window.
    rw [if_pos hrx] at h
    cases h
    exact .deferred hrx
  · rw [if_neg hrx] at h
    exact .parked hrx (park_cases h)

/-- How the call at the end of a reception in vain can end. -/
inductive Missed (s : Session EndDevice σ) :
    Except Failure Unit → Session EndDevice σ → Prop where
  | nothing (h : s.node.deferredClose = none) : Missed s (.ok ()) s
  | parked {w : Window} {res : Except Failure Unit} {s' : Session EndDevice σ}
      (hw : s.node.deferredClose = some w) (h : Parked (resumed s) res s') : Missed s res s'

theorem failedReception_cases {s s' : Session EndDevice σ} {res : Except Failure Unit}
    (h : (failedReception : Call EndDevice σ Unit).run s = (res, s')) : Missed s res s' := by
  unfold failedReception at h
  rw [Call.run_bind_ok (Call.run_node s)] at h
  cases hw : s.node.deferredClose with
  | none =>
    rw [hw] at h
    cases h
    exact .nothing hw
  | some w =>
    rw [hw, Option.isNone_some, if_neg Bool.false_ne_true,
      Call.run_bind_ok (Call.run_modifyNode _ s)] at h
    exact .parked hw (park_cases h)

/-- How the end of an exchange that a downlink ends can end. -/
inductive Answered (ack : Bool) (s : Session EndDevice σ) :
    Except Failure Unit → Session EndDevice σ → Prop where
  | awake (h : (windowless s).accepts .sleep = false) :
      Answered ack s (.error (.radio .sleep)) ((windowless s).asked .sleep)
  | concluded {res : Except Failure Unit} {s' : Session EndDevice σ}
      (hsleep : (windowless s).accepts .sleep = true)
      (h : Concluded true ack ((windowless s).asked .sleep) res s') : Answered ack s res s'

theorem endExchange_cases {ack : Bool} {s s' : Session EndDevice σ} {res : Except Failure Unit}
    (h : (endExchange ack).run s = (res, s')) : Answered ack s res s' := by
  unfold endExchange at h
  rw [Call.run_bind_ok (Call.run_modifyNode _ s)] at h
  rcases Call.radio_bind_cases h with ⟨hsleep, h⟩ | ⟨hsleep, rfl, rfl⟩
  · exact .concluded hsleep (conclude_cases h)
  · exact .awake hsleep

/-- How the call that brings a frame can end. -/
inductive Received (bytes : List UInt8) (reception : Reception) (s : Session EndDevice σ) :
    Except Failure Unit → Session EndDevice σ → Prop where
  /-- The frame is not a downlink for this device. -/
  | foreign {res : Except Failure Unit} {s' : Session EndDevice σ}
      (hframe : s.node.downlink? bytes = none) (h : Missed s res s') :
      Received bytes reception s res s'
  | heard {frame : DataFrame} {res : Except Failure Unit} {s' : Session EndDevice σ}
      (hframe : s.node.downlink? bytes = some frame)
      (h : Answered frame.header.control.ack (heard r reception frame s) res s') :
      Received bytes reception s res s'

/-- A downlink for the device meets with no fault, so it ends the exchange. -/
theorem run_receive {bytes : List UInt8} {reception : Reception} {frame : DataFrame}
    {s : Session EndDevice σ} (h : s.node.downlink? bytes = some frame) :
    (receive r bytes reception).run s =
      (endExchange frame.header.control.ack).run (heard r reception frame s) := by
  unfold receive
  rw [Call.run_bind_ok (Call.run_get s), h]
  dsimp only
  rw [takeDownlink_eq_ok, Call.run_bind_ok (Call.run_ofPlan_ok _ s)]
  rfl

theorem receive_cases {bytes : List UInt8} {reception : Reception} {s s' : Session EndDevice σ}
    {res : Except Failure Unit} (h : (receive r bytes reception).run s = (res, s')) :
    Received r bytes reception s res s' := by
  cases hframe : s.node.downlink? bytes with
  | none =>
    unfold receive at h
    rw [Call.run_bind_ok (Call.run_get s), hframe] at h
    exact .foreign hframe (failedReception_cases h)
  | some frame =>
    rw [run_receive r hframe] at h
    exact .heard hframe (endExchange_cases h)

/-! ## The next attempt -/

/-- The device has to see when it may send the uplink it holds again. -/
structure Retrying (u : HeldUplink) (wait : Duration) (s : Session EndDevice σ) : Prop where
  held : s.node.held = some u
  closed : s.node.rxWindowsPending = false
  wait : s.node.earliestDelay (Host.now s.host) u.rate = .ok wait

/-- How the next attempt can end. -/
inductive Retried (s : Session EndDevice σ) :
    Except Failure Unit → Session EndDevice σ → Prop where
  | nothing (h : s.node.held = none) : Retried s (.ok ()) s
  /-- Another exchange is under way. -/
  | late (h : s.node.rxWindowsPending = true) : Retried s (.ok ()) s
  | fault {u : HeldUplink} {f : PlanFault} (hheld : s.node.held = some u)
      (h : s.node.earliestDelay (Host.now s.host) u.rate = .error f) :
      Retried s (.error (.fault f)) s
  | unselected {u : HeldUplink} {wait : Duration} {e : Failure} {s₁ : Session EndDevice σ}
      (hretry : Retrying u wait s) (hwait : wait.isZero = true)
      (h : Selected (Host.now s.host) u.rate s (.error e) s₁) : Retried s (.error e) s₁
  | blocked {u : HeldUplink} {wait : Duration} {s₁ : Session EndDevice σ}
      (hretry : Retrying u wait s) (hwait : wait.isZero = true)
      (h : Selected (Host.now s.host) u.rate s (.ok none) s₁) : Retried s (.ok ()) (givenUp u s₁)
  | failed {u : HeldUplink} {wait : Duration} {i : Nat} {e : Failure} {s₁ s₂ : Session EndDevice σ}
      (hretry : Retrying u wait s) (hwait : wait.isZero = true)
      (hselect : Selected (Host.now s.host) u.rate s (.ok (some i)) s₁)
      (h : Transmitted r u i s₁ (.error e) s₂) : Retried s (.error e) (dropped s₂)
  | repeated {u : HeldUplink} {wait : Duration} {i : Nat} {s₁ s₂ : Session EndDevice σ}
      (hretry : Retrying u wait s) (hwait : wait.isZero = true)
      (hselect : Selected (Host.now s.host) u.rate s (.ok (some i)) s₁)
      (h : Transmitted r u i s₁ (.ok ()) s₂) : Retried s (.ok ()) s₂
  | never {u : HeldUplink} {wait : Duration} (hretry : Retrying u wait s)
      (hwait : wait.isZero = false) (h : wait.isNever = true) : Retried s (.ok ()) (givenUp u s)
  | postponed {u : HeldUplink} {wait : Duration} {id : EventId} (hretry : Retrying u wait s)
      (hwait : wait.isZero = false) (hid : s.alarmId? wait .retransmit = some id) :
      Retried s (.ok ()) (armed wait .retransmit id s)
  | full {u : HeldUplink} {wait : Duration} (hretry : Retrying u wait s)
      (hwait : wait.isZero = false) (hid : s.alarmId? wait .retransmit = none) :
      Retried s (.error .timelineFull) (s.scheduled wait .retransmit)

theorem retransmit_cases {s s' : Session EndDevice σ} {res : Except Failure Unit}
    (h : (retransmit r).run s = (res, s')) : Retried r s res s' := by
  unfold retransmit at h
  rw [Call.run_bind_ok (Call.run_node s)] at h
  cases hheld : s.node.held with
  | none =>
    rw [hheld] at h
    cases h
    exact .nothing hheld
  | some u =>
    rw [hheld] at h
    dsimp only at h
    by_cases hover : s.node.rxWindowsPending = true
    · rw [if_pos hover] at h
      cases h
      exact .late hover
    rw [if_neg hover, Call.run_bind_ok (Call.run_now s)] at h
    rcases Call.ofPlan_bind_cases h with ⟨wait, hdelay, h⟩ | ⟨f, hdelay, rfl, rfl⟩
    case inr => exact .fault hheld hdelay
    have hretry : Retrying u wait s := ⟨hheld, Bool.eq_false_iff.mpr hover, hdelay⟩
    -- Nothing to wait for means an attempt; else the alarm is set again, unless there is no use.
    by_cases hwait : wait.isZero = true
    · rw [if_pos hwait] at h
      rcases Call.bind_cases h with ⟨choice, s₁, hselect, h⟩ | ⟨e, hselect, rfl⟩
      case inr => exact .unselected hretry hwait (selectChannel_cases hselect)
      have hselected := selectChannel_cases hselect
      cases choice with
      | none =>
        cases h
        exact .blocked hretry hwait hselected
      | some i =>
        dsimp only at h
        -- An attempt that fails drops the uplink, and the failure is passed on.
        rw [Call.run_tryCatch] at h
        rcases hsend : (transmit r u i).run s₁ with ⟨e | _, s₂⟩
        · rw [hsend] at h
          cases h
          exact .failed hretry hwait hselected (transmit_cases r hsend)
        · rw [hsend] at h
          cases h
          exact .repeated hretry hwait hselected (transmit_cases r hsend)
    · have hzero := Bool.eq_false_iff.mpr hwait
      rw [if_neg hwait] at h
      by_cases hnever : wait.isNever = true
      · rw [if_pos hnever] at h
        cases h
        exact .never hretry hzero hnever
      · rw [if_neg hnever] at h
        rcases setAlarm_cases h with ⟨id, hid, rfl, rfl⟩ | ⟨hid, rfl, rfl⟩
        · exact .postponed hretry hzero hid
        · exact .full hretry hzero hid

/-! ## Alarms that go off -/

/-- How the call for an alarm can end. -/
inductive Rang (id : EventId) (s : Session EndDevice σ) :
    Alarm → Except Failure Unit → Session EndDevice σ → Prop where
  | stale {a : Alarm} (h : s.node.alarms.get a ≠ some id) : Rang id s a (.ok ()) s
  | openRx1 {res : Except Failure Unit} {s' : Session EndDevice σ}
      (hid : s.node.alarms.openRx1 = some id)
      (h : Opened r .first (disarmed .openRx1 s) res s') : Rang id s .openRx1 res s'
  | closeRx1 {res : Except Failure Unit} {s' : Session EndDevice σ}
      (hid : s.node.alarms.closeRx1 = some id)
      (h : Closed .first (disarmed .closeRx1 s) res s') : Rang id s .closeRx1 res s'
  | openRx2 {res : Except Failure Unit} {s' : Session EndDevice σ}
      (hid : s.node.alarms.openRx2 = some id)
      (h : Opened r .second (disarmed .openRx2 s) res s') : Rang id s .openRx2 res s'
  | closeRx2 {res : Except Failure Unit} {s' : Session EndDevice σ}
      (hid : s.node.alarms.closeRx2 = some id)
      (h : Closed .second (disarmed .closeRx2 s) res s') : Rang id s .closeRx2 res s'
  | retransmit {res : Except Failure Unit} {s' : Session EndDevice σ}
      (hid : s.node.alarms.retransmit = some id)
      (h : Retried r (disarmed .retransmit s) res s') : Rang id s .retransmit res s'

theorem alarm_cases {id : EventId} {a : Alarm} {s s' : Session EndDevice σ}
    {res : Except Failure Unit} (h : (alarm r id a).run s = (res, s')) : Rang r id s a res s' := by
  unfold alarm at h
  rw [Call.run_bind_ok (Call.run_node s)] at h
  by_cases hid : s.node.alarms.get a = some id
  · rw [if_neg (fun hne => hne hid), Call.run_bind_ok (Call.run_modifyNode _ s)] at h
    cases a with
    | openRx1 => exact .openRx1 hid (openWindow_cases r h)
    | closeRx1 => exact .closeRx1 hid (closeWindow_cases h)
    | openRx2 => exact .openRx2 hid (openWindow_cases r h)
    | closeRx2 => exact .closeRx2 hid (closeWindow_cases h)
    | retransmit => exact .retransmit hid (retransmit_cases r h)
  · rw [if_pos hid] at h
    cases h
    exact .stale hid

end EndDevice

end LoraLink
