import LoraLink.Proofs.Duplex
import LoraLink.Proofs.Queue

/-!
# How long the device listens

A window is open from when the radio was told to listen until the alarm that closes it goes off.
The call for that alarm puts the radio to sleep, and so do the end of the exchange, when a downlink
has come, and the end of a reception that a window has waited for.

The second window opens a second after the first, however long the first one is. So both may be
open at once. Then the alarm that closes the one puts the radio to sleep while the other is still
open: closing a window does not look at the other one. But for that, each window is listened in for
its whole length.
-/

namespace LoraLink

/-- Is the radio told to sleep, whether it obeys or not? -/
def Action.isSleep : Action → Bool
  | .radio .sleep _ => true
  | _ => false

namespace Session

variable {ν σ : Type}

/-- Was the radio told to sleep so far? -/
def slept (s : Session ν σ) : Bool := s.trace.any Action.isSleep

theorem slept_events (s : Session ν σ) (es : List Event) :
    (s.did (es.map .event)).slept = s.slept := by
  have hnone : (es.map Action.event).any Action.isSleep = false := by
    refine List.any_eq_false.mpr fun a ha => ?_
    obtain ⟨e, _, rfl⟩ := List.mem_map.mp ha
    exact Bool.false_ne_true
  change (s.trace ++ es.map Action.event).any Action.isSleep = s.slept
  rw [List.any_append, hnone]
  exact Bool.or_false _

variable [Host σ]

theorem slept_asked_sleep (s : Session ν σ) : (s.asked .sleep).slept = true := by
  change (s.trace ++ [Action.radio .sleep (s.accepts .sleep)]).any Action.isSleep = true
  rw [List.any_append]
  exact Bool.or_true _

theorem slept_asked {s : Session ν σ} {q : RadioRequest} (hq : q ≠ .sleep) :
    (s.asked q).slept = s.slept := by
  change (s.trace ++ [Action.radio q (s.accepts q)]).any Action.isSleep = s.slept
  rw [List.any_append]
  cases q with
  | sleep => exact absurd rfl hq
  | _ => exact Bool.or_false _

end Session

namespace EndDevice

/-! ## Windows come and go -/

/-- No window is scheduled or opened in between, none waits for a reception, and no uplink goes on
air. -/
structure Receding (d d' : EndDevice) : Prop where
  slots : ∀ a id, a ≠ .retransmit → d'.alarms.get a = some id → d.alarms.get a = some id
  deferred : ∀ w, d'.deferredClose = some w → d.deferredClose = some w
  transmitting : d'.transmitting = true → d.transmitting = true

theorem Receding.refl (d : EndDevice) : Receding d d :=
  ⟨fun _ _ _ h => h, fun _ h => h, fun h => h⟩

theorem Receding.trans {d d' d'' : EndDevice} (h : Receding d d') (h' : Receding d' d'') :
    Receding d d'' where
  slots := fun a id ha hid => h.slots a id ha (h'.slots a id ha hid)
  deferred := fun w hw => h.deferred w (h'.deferred w hw)
  transmitting := fun hon => h.transmitting (h'.transmitting hon)

theorem Receding.of_eq {d d' : EndDevice} (h : d' = d) : Receding d d' := by
  rw [h]
  exact Receding.refl d

/-- The exchange is the same. -/
theorem receding_of_same {d d' : EndDevice} (halarms : d'.alarms = d.alarms)
    (hdeferred : d'.deferredClose = d.deferredClose) (hon : d'.transmitting = d.transmitting) :
    Receding d d' := by
  refine ⟨?_, ?_, ?_⟩
  · intro a id _ hid
    rwa [halarms] at hid
  · intro w hw
    rwa [hdeferred] at hw
  · intro h
    rwa [hon] at h

theorem receding_set (d : EndDevice) (a : Alarm) (id : Option EventId)
    (h : a = .retransmit ∨ id = none) :
    Receding d { d with alarms := d.alarms.set a id } := by
  refine ⟨?_, fun _ hw => hw, fun hon => hon⟩
  intro b j hb hj
  rw [AlarmSlots.get_set] at hj
  split at hj
  · rename_i hba
    -- The slot that is set is that of the repeat, which is no window, or it is emptied.
    rcases h with hretry | hnone
    · exact absurd (hba.trans hretry) hb
    · rw [hnone] at hj
      cases hj
  · exact hj

theorem receding_windowless (d : EndDevice) :
    Receding d { d with alarms := d.alarms.cancelWindows, deferredClose := none } := by
  refine ⟨?_, ?_, fun hon => hon⟩
  · intro a id ha hid
    cases a with
    | retransmit => exact absurd rfl ha
    | _ => cases hid
  · intro w hw
    cases hw

variable {σ : Type}

theorem receding_launched (r : Region) (previous : Option HeldUplink) (s : Session EndDevice σ) :
    Receding s.node (launched r previous s).node := by
  obtain ⟨halarms, hon, hdeferred, _⟩ :=
    (countUplink_cases r (s.node.supersede previous)).exchange
  have hsuperseded : Receding s.node (s.node.supersede previous) := by
    cases previous with
    | none => exact receding_of_same rfl rfl rfl
    | some u =>
      exact (receding_set s.node .retransmit none (Or.inl rfl)).trans
        (receding_of_same rfl rfl rfl)
  exact hsuperseded.trans (receding_of_same halarms hdeferred hon)

variable [Host σ] {r : Region}

/-- The end of an exchange sets at most the alarm for the next attempt. -/
theorem Concluded.receding {received ack : Bool} {s s' : Session EndDevice σ}
    {res : Except Failure Unit} (h : Concluded received ack s res s') :
    Receding s.node s'.node := by
  cases h with
  | nothing _ => exact Receding.refl _
  | again _ _ _ => exact receding_set _ .retransmit _ (Or.inl rfl)
  | full _ _ _ => exact Receding.refl _
  | released _ _ =>
    exact (receding_set s.node .retransmit none (Or.inl rfl)).trans
      (receding_of_same rfl rfl rfl)

theorem Parked.receding {s s' : Session EndDevice σ} {res : Except Failure Unit}
    (h : Parked s res s') : Receding s.node s'.node := by
  cases h with
  | awake _ => exact Receding.refl _
  | waiting _ _ => exact Receding.refl _
  | closed _ _ h => exact h.receding

theorem Missed.receding {s s' : Session EndDevice σ} {res : Except Failure Unit}
    (h : Missed s res s') : Receding s.node s'.node := by
  cases h with
  | nothing _ => exact Receding.refl _
  | parked _ h =>
    have hresumed : Receding s.node (resumed s).node :=
      ⟨fun _ _ _ hid => hid, fun _ hw => (by cases hw), fun hon => hon⟩
    exact hresumed.trans h.receding

theorem Answered.receding {ack : Bool} {s s' : Session EndDevice σ} {res : Except Failure Unit}
    (h : Answered ack s res s') : Receding s.node s'.node := by
  cases h with
  | awake _ => exact receding_windowless s.node
  | concluded _ h => exact (receding_windowless s.node).trans h.receding

theorem receding_heard (reception : Reception) (frame : DataFrame) (s : Session EndDevice σ) :
    Receding s.node (heard r reception frame s).node := by
  obtain ⟨plan, settings, queue, heq⟩ := heeded_eq r
    ⟨reception, Host.battery s.host, Host.externalPower s.host⟩ s.node frame
  refine receding_of_same ?_ ?_ ?_
  · exact (congrArg EndDevice.alarms heq :)
  · exact (congrArg EndDevice.deferredClose heq :)
  · exact (congrArg EndDevice.transmitting heq :)

theorem Received.receding {bytes : List UInt8} {reception : Reception} {s s' : Session EndDevice σ}
    {res : Except Failure Unit} (h : Received r bytes reception s res s') :
    Receding s.node s'.node := by
  cases h with
  | foreign _ h => exact h.receding
  | heard _ h => exact (receding_heard reception _ s).trans h.receding

/-! ## What a call does to the windows -/

theorem Receding.slot_none {d d' : EndDevice} (h : Receding d d') {a : Alarm}
    (ha : a ≠ .retransmit) (hnone : d.alarms.get a = none) : d'.alarms.get a = none := by
  refine Option.eq_none_iff_forall_ne_some.mpr fun id hid => ?_
  have hbefore := h.slots a id ha hid
  rw [hnone] at hbefore
  cases hbefore

theorem NoWindows.receding {d d' : EndDevice} (h : NoWindows d) (h' : Receding d d') :
    NoWindows d' := by
  refine ⟨fun a ha => h'.slot_none ha (h.slots a ha), ?_⟩
  refine Option.eq_none_iff_forall_ne_some.mpr fun w hw => ?_
  have hbefore := h'.deferred w hw
  rw [h.deferred] at hbefore
  cases hbefore

/-- What holds of the windows after every run. -/
structure Staged (d : EndDevice) : Prop where
  /-- While an uplink is on air, there are no windows. -/
  apart : d.transmitting = true → NoWindows d
  /-- A window that is still to open is not open. -/
  once : ∀ w i, d.alarms.get (openAlarm w) = some i → d.alarms.get (closeAlarm w) = none

theorem staged_init (address : DeviceAddress) (settings : Settings) (plan : Plan) :
    Staged (initial address settings plan) where
  apart := fun hon => (by cases hon)
  once := by
    intro w i hi
    cases w <;> cases hi

/-- What a call can do to the windows. -/
inductive Moved (op : Op) (d d' : EndDevice) : Prop where
  | receded (h : Receding d d')
  /-- An uplink goes on air. -/
  | launched (h : NoWindows d')
  /-- It has left the antenna. -/
  | scheduled (hon : d.transmitting = true) (off : d'.transmitting = false)
      (closes : ∀ w, d'.alarms.get (closeAlarm w) = d.alarms.get (closeAlarm w))
  | opened {w : Window} {i id : EventId} (hop : op = .alarm i (openAlarm w))
      (hi : d.alarms.get (openAlarm w) = some i)
      (slots : d'.alarms = (d.alarms.set (openAlarm w) none).set (closeAlarm w) (some id))
      (transmitting : d'.transmitting = d.transmitting)
  /-- A window should close while a frame is being received. -/
  | deferred {w : Window} {i : EventId} (hop : op = .alarm i (closeAlarm w))
      (hi : d.alarms.get (closeAlarm w) = some i)
      (slots : d'.alarms = d.alarms.set (closeAlarm w) none)
      (transmitting : d'.transmitting = d.transmitting)

/-- An uplink goes on air only when there are no windows. -/
theorem Transmitted.noWindows {u : HeldUplink} {i : Nat} {s s' : Session EndDevice σ}
    (h : Transmitted r u i s (.ok ()) s') (hover : s.node.rxWindowsPending = false) :
    NoWindows s'.node := by
  have hnone := noWindows_of_over hover
  cases h with
  | onAir _ _ _ _ _ _ => exact ⟨hnone.slots, hnone.deferred⟩

theorem Sent.windows {payload : List UInt8} {port : UInt8} {confirmed : Bool}
    {s s' : Session EndDevice σ} {res : Except Failure Unit}
    (h : Sent r payload port confirmed s res s') : Receding s.node s'.node ∨ NoWindows s'.node := by
  cases h with
  | unselected hselect => exact Or.inl (Receding.of_eq hselect.node)
  | blocked hselect => exact Or.inl (Receding.of_eq hselect.node)
  | oversized _ _ hselect _ => exact Or.inl (Receding.of_eq hselect.node)
  | failed _ hselect hsend => exact Or.inl (Receding.of_eq (hsend.node.trans hselect.node))
  | sent hclear hselect hsend =>
    rw [← hselect.node] at hclear
    exact Or.inr ((hsend.noWindows hclear.closed).receding (receding_launched r _ _))
  | _ => exact Or.inl (Receding.refl _)

theorem Retried.windows {s s' : Session EndDevice σ} {res : Except Failure Unit}
    (h : Retried r s res s') : Receding s.node s'.node ∨ NoWindows s'.node := by
  have hdropped : ∀ x : EndDevice, Receding x { x with held := none } :=
    fun x => receding_of_same rfl rfl rfl
  cases h with
  | unselected _ _ hselect => exact Or.inl (Receding.of_eq hselect.node)
  | blocked _ _ hselect => exact Or.inl ((Receding.of_eq hselect.node).trans (hdropped _))
  | failed _ _ hselect hsend =>
    exact Or.inl ((Receding.of_eq (hsend.node.trans hselect.node)).trans (hdropped _))
  -- Only an attempt that succeeds starts a new exchange, and it found no window pending.
  | repeated hretry _ hselect hsend =>
    have hclosed := hretry.closed
    rw [← hselect.node] at hclosed
    exact Or.inr (hsend.noWindows hclosed)
  | never _ _ _ => exact Or.inl (hdropped _)
  | postponed _ _ _ => exact Or.inl (receding_set _ .retransmit _ (Or.inl rfl))
  | _ => exact Or.inl (Receding.refl _)

/-- The end of a transmission schedules windows, and opens none. -/
theorem Landed.moved {op : Op} {s s' : Session EndDevice σ} {res : Except Failure Unit}
    (h : Landed r s res s') : Moved op s.node s'.node := by
  -- The device may stop at any point after the flag is cleared, with both windows, one or none set.
  have htuned : ∀ {res : Except Failure Modulation} {s₁ : Session EndDevice σ} {d' : EndDevice},
      s.node.transmitting = true → Tuned r .first (landed s) res s₁ →
      d'.transmitting = s₁.node.transmitting →
      (∀ w, d'.alarms.get (closeAlarm w) = s₁.node.alarms.get (closeAlarm w)) →
        Moved op s.node d' := by
    intro res s₁ d' hon htune hoff hcloses
    rw [htune.node] at hoff hcloses
    exact .scheduled hon hoff hcloses
  cases h with
  | idle _ => exact .receded (Receding.refl _)
  | untuned hon htune => exact htuned hon htune rfl fun _ => rfl
  | awake hon htune _ => exact htuned hon htune rfl fun _ => rfl
  | full hon htune _ h₂ _ =>
    subst h₂
    exact htuned hon htune rfl fun _ => rfl
  | halfFull hon htune _ h₂ _ h₃ _ =>
    subst h₂ h₃
    exact htuned hon htune rfl fun w => (by cases w <;> rfl)
  | scheduled hon htune _ h₂ _ h₃ _ =>
    subst h₂ h₃
    exact htuned hon htune rfl fun w => (by cases w <;> rfl)

theorem Opened.moved {i : EventId} {w : Window} {s s' : Session EndDevice σ}
    {res : Except Failure Unit} (hi : s.node.alarms.get (openAlarm w) = some i)
    (h : Opened r w (disarmed (openAlarm w) s) res s') :
    Moved (.alarm i (openAlarm w)) s.node s'.node := by
  have hdisarmed := receding_set s.node (openAlarm w) none (Or.inr rfl)
  cases h with
  | skipped _ => exact .receded hdisarmed
  | untuned htune => exact .receded (hdisarmed.trans (Receding.of_eq htune.node))
  | asleep htune _ => exact .receded (hdisarmed.trans (Receding.of_eq htune.node))
  | full htune _ h₂ _ =>
    subst h₂
    exact .receded (hdisarmed.trans (Receding.of_eq htune.node))
  | opened hfree htune hstandby h₂ hid =>
    subst h₂
    rename_i m id s₁
    -- The slot of the opening alarm was cleared first, then that of the closing one filled.
    have hslots : s₁.node.alarms.set (closeAlarm w) (some id) =
        (s.node.alarms.set (openAlarm w) none).set (closeAlarm w) (some id) := by
      rw [htune.node]
      rfl
    have hon : s₁.node.transmitting = s.node.transmitting := by
      rw [htune.node]
      rfl
    exact .opened rfl hi hslots hon

theorem Closed.moved {i : EventId} {w : Window} {s s' : Session EndDevice σ}
    {res : Except Failure Unit} (hi : s.node.alarms.get (closeAlarm w) = some i)
    (h : Closed w (disarmed (closeAlarm w) s) res s') :
    Moved (.alarm i (closeAlarm w)) s.node s'.node := by
  cases h with
  | deferred _ => exact .deferred rfl hi rfl rfl
  | parked _ h =>
    exact .receded ((receding_set s.node (closeAlarm w) none (Or.inr rfl)).trans h.receding)

theorem Rang.moved {i : EventId} {a : Alarm} {s s' : Session EndDevice σ}
    {res : Except Failure Unit} (h : Rang r i s a res s') :
    Moved (.alarm i a) s.node s'.node := by
  cases h with
  | stale _ => exact .receded (Receding.refl _)
  | openRx1 hi h => exact Opened.moved (w := .first) hi h
  | closeRx1 hi h => exact Closed.moved (w := .first) hi h
  | openRx2 hi h => exact Opened.moved (w := .second) hi h
  | closeRx2 hi h => exact Closed.moved (w := .second) hi h
  | retransmit _ h =>
    rcases h.windows with hrecede | hnone
    · exact .receded ((receding_set s.node .retransmit none (Or.inl rfl)).trans hrecede)
    · exact .launched hnone

theorem moved (r : Region) (t : Turn σ) (d : EndDevice) : Moved t.op d (t.after r d) := by
  have hcalled := t.called r d
  change Moved t.op (t.session d).node (t.made r d).2.node
  generalize t.op = op at hcalled ⊢
  generalize t.result r d = res at hcalled
  generalize (t.made r d).2 = s' at hcalled ⊢
  -- Each call has a lemma about its windows; they are gathered here.
  cases hcalled with
  | send h =>
    rcases h.windows with hrecede | hnone
    · exact .receded hrecede
    · exact .launched hnone
  | txFinished h => exact h.moved
  | receive h => exact .receded h.receding
  | failedReception h => exact .receded h.receding
  | alarm h => exact h.moved
  | requestLinkCheck h =>
    cases h with
    | full _ => exact .receded (Receding.refl _)
    | queued _ => exact .receded (receding_of_same rfl rfl rfl)
  | editPlan => exact .receded (receding_of_same rfl rfl rfl)

theorem staged_step {d : EndDevice} (h : Staged d) (t : Turn σ) : Staged (t.after r d) := by
  cases moved r t d with
  | receded hrecede =>
    refine ⟨fun hon => (h.apart (hrecede.transmitting hon)).receding hrecede, ?_⟩
    intro w i hi
    have hbefore := hrecede.slots _ i (openAlarm_ne_retransmit w) hi
    exact hrecede.slot_none (closeAlarm_ne_retransmit w) (h.once w i hbefore)
  | launched hnone =>
    exact ⟨fun _ => hnone, fun w i _ => hnone.slots _ (closeAlarm_ne_retransmit w)⟩
  | scheduled hon off closes =>
    refine ⟨fun hon' => ?_, fun w i _ => ?_⟩
    · rw [off] at hon'
      cases hon'
    · rw [closes w]
      exact (h.apart hon).slots _ (closeAlarm_ne_retransmit w)
  | opened hop hi slots transmitting =>
    rename_i w i id
    -- A window opens only when nothing is on air, for else its slot would be empty.
    refine ⟨fun hon => ?_, fun v j hj => ?_⟩
    · rw [transmitting] at hon
      rw [(h.apart hon).slots _ (openAlarm_ne_retransmit w)] at hi
      cases hi
    · rw [slots, AlarmSlots.get_set, if_neg (openAlarm_ne_closeAlarm v w), AlarmSlots.get_set] at hj
      rw [slots, AlarmSlots.get_set, AlarmSlots.get_set,
        if_neg (openAlarm_ne_closeAlarm w v).symm]
      -- The window that opens has just lost its opening alarm, and the other keeps what it has.
      by_cases hvw : v = w
      · rw [if_pos (openAlarm_inj.mpr hvw)] at hj
        cases hj
      · rw [if_neg (mt openAlarm_inj.mp hvw)] at hj
        rw [if_neg (mt closeAlarm_inj.mp hvw)]
        exact h.once v j hj
  | deferred hop hi slots transmitting =>
    rename_i w i
    refine ⟨fun hon => ?_, fun v j hj => ?_⟩
    · rw [transmitting] at hon
      rw [(h.apart hon).slots _ (closeAlarm_ne_retransmit w)] at hi
      cases hi
    · rw [slots, AlarmSlots.get_set, if_neg (openAlarm_ne_closeAlarm v w)] at hj
      rw [slots, AlarmSlots.get_set]
      split
      · rfl
      · exact h.once v j hj

theorem staged_run {d : EndDevice} (h : Staged d) (ts : List (Turn σ)) :
    Staged (d.afterAll r ts) := by
  induction ts generalizing d with
  | nil => exact h
  | cons t rest ih => exact ih (staged_step h t)

/-- A window that is open was open before, or is the one that the call opened. -/
theorem Moved.opens {op : Op} {d d' : EndDevice} (h : Moved op d d') {w : Window} {id : EventId}
    (hid : d'.alarms.get (closeAlarm w) = some id) :
    d.alarms.get (closeAlarm w) = some id ∨
      ∃ i, op = .alarm i (openAlarm w) ∧ d.alarms.get (openAlarm w) = some i := by
  cases h with
  | receded h => exact Or.inl (h.slots _ id (closeAlarm_ne_retransmit w) hid)
  | launched hnone =>
    rw [hnone.slots _ (closeAlarm_ne_retransmit w)] at hid
    cases hid
  | scheduled _ _ closes =>
    rw [closes w] at hid
    exact Or.inl hid
  | opened hop hi slots transmitting =>
    rename_i v i id'
    rw [slots, AlarmSlots.get_set, AlarmSlots.get_set,
      if_neg (openAlarm_ne_closeAlarm v w).symm] at hid
    split at hid
    · rename_i hwv
      rw [← closeAlarm_inj.mp hwv] at hop hi
      exact Or.inr ⟨i, hop, hi⟩
    · exact Or.inl hid
  | deferred _ _ slots _ =>
    rw [slots, AlarmSlots.get_set] at hid
    split at hid
    · cases hid
    · exact Or.inl hid

end EndDevice

/-! ## Listening -/

/-- The other window. -/
def Window.other : Window → Window
  | .first => .second
  | .second => .first

/-- Does the call end a reception? -/
def Op.isReception : Op → Bool
  | .receive _ _ => true
  | .failedReception => true
  | _ => false

/-- A frame that is taken in comes with a reception. -/
theorem Turn.isReception_of_downlink? {σ : Type} {t : Turn σ} {d : EndDevice} {frame : DataFrame}
    (h : t.downlink? d = some frame) : t.op.isReception = true := by
  unfold Turn.downlink? at h
  cases hop : t.op with
  | receive bytes reception => rfl
  | _ =>
    rw [hop] at h
    cases h

variable {σ : Type} [Host σ] (r : Region)

/-- Is the radio told to sleep in the call? -/
def Turn.sleeps (t : Turn σ) (d : EndDevice) : Bool := (t.trace r d).any Action.isSleep

namespace EndDevice

/-- Is the radio told to sleep in a run? -/
def sleeps (d : EndDevice) : List (Turn σ) → Bool
  | [] => false
  | t :: rest => t.sleeps r d || (t.after r d).sleeps rest

/-- Why the radio is told to sleep in a call while a window is open. -/
inductive Cause (w : Window) (t : Turn σ) (d : EndDevice) : Prop where
  /-- The window is over. -/
  | due {id : EventId} (hop : t.op = .alarm id (closeAlarm w))
      (hid : d.alarms.get (closeAlarm w) = some id) (hfree : Host.radioState t.host ≠ .rx)
  /-- The other window is over, and was open as well. -/
  | crossed {id : EventId} (hop : t.op = .alarm id (closeAlarm w.other))
      (hid : d.alarms.get (closeAlarm w.other) = some id) (hfree : Host.radioState t.host ≠ .rx)
  /-- A downlink for this device has come. -/
  | heard {frame : DataFrame} (h : t.downlink? d = some frame)
  /-- A window has waited for the end of a reception, which has come. -/
  | resumed (hdeferred : d.deferredClose.isSome = true) (hop : t.op.isReception = true)

variable {r}

/-- Nothing but the end of a reception or of a window puts the radio to sleep. -/
theorem Cause.op {w : Window} {t : Turn σ} {d : EndDevice} (h : Cause w t d) :
    t.op.isReception = true ∨ ∃ v i, t.op = .alarm i (closeAlarm v) ∧
      d.alarms.get (closeAlarm v) = some i ∧ Host.radioState t.host ≠ .rx := by
  cases h with
  | due hop hid hfree => exact Or.inr ⟨w, _, hop, hid, hfree⟩
  | crossed hop hid hfree => exact Or.inr ⟨w.other, _, hop, hid, hfree⟩
  | heard h => exact Or.inl (Turn.isReception_of_downlink? h)
  | resumed _ hop => exact Or.inl hop

theorem eq_or_eq_other (w v : Window) : v = w ∨ v = w.other := by
  cases w <;> cases v <;> decide

theorem Cause.of_closed {w v : Window} {t : Turn σ} {d : EndDevice} {i : EventId}
    (hop : t.op = .alarm i (closeAlarm v)) (hi : d.alarms.get (closeAlarm v) = some i)
    (hfree : Host.radioState t.host ≠ .rx) : Cause w t d := by
  rcases eq_or_eq_other w v with rfl | rfl
  · exact .due hop hi hfree
  · exact .crossed hop hi hfree

/-! ### What the parts of a call do -/

theorem Tuned.slept {w : Window} {s s' : Session EndDevice σ} {res : Except Failure Modulation}
    (h : Tuned r w s res s') : s'.slept = s.slept := by
  cases h with
  | noRate _ => rfl
  | unmodulated _ _ => rfl
  | noFrequency hq _ => exact Session.slept_asked (by rw [hq]; exact RadioRequest.noConfusion)
  | noSpreading hq hq' _ _ =>
    rw [Session.slept_asked (by rw [hq']; exact RadioRequest.noConfusion),
      Session.slept_asked (by rw [hq]; exact RadioRequest.noConfusion)]
  | tuned _ _ hq hq' _ _ =>
    rw [Session.slept_asked (by rw [hq']; exact RadioRequest.noConfusion),
      Session.slept_asked (by rw [hq]; exact RadioRequest.noConfusion)]

theorem Opened.slept {w : Window} {s s' : Session EndDevice σ} {res : Except Failure Unit}
    (h : Opened r w s res s') : s'.slept = s.slept := by
  have hstandby : ∀ s₁ : Session EndDevice σ, (s₁.asked .standby).slept = s₁.slept :=
    fun _ => Session.slept_asked RadioRequest.noConfusion
  cases h with
  | skipped _ => rfl
  | untuned htune => exact htune.slept
  | asleep htune _ => exact (hstandby _).trans htune.slept
  | full htune _ h₂ _ =>
    subst h₂
    exact (hstandby _).trans htune.slept
  | opened _ htune _ h₂ _ =>
    subst h₂
    exact (hstandby _).trans htune.slept

theorem Concluded.slept {received ack : Bool} {s s' : Session EndDevice σ}
    {res : Except Failure Unit} (h : Concluded received ack s res s') : s'.slept = s.slept := by
  cases h with
  | released _ _ => exact Session.slept_events _ _
  | _ => rfl

theorem Parked.slept {s s' : Session EndDevice σ} {res : Except Failure Unit}
    (h : Parked s res s') : s'.slept = true := by
  cases h with
  | awake _ => exact Session.slept_asked_sleep s
  | waiting _ _ => exact Session.slept_asked_sleep s
  | closed _ _ h => exact h.slept.trans (Session.slept_asked_sleep s)

theorem Answered.slept {ack : Bool} {s s' : Session EndDevice σ} {res : Except Failure Unit}
    (h : Answered ack s res s') : s'.slept = true := by
  cases h with
  | awake _ => exact Session.slept_asked_sleep _
  | concluded _ h => exact h.slept.trans (Session.slept_asked_sleep _)

/-! ### A call while a window is open -/

variable (r) in
/-- What comes of a call while a window is open. -/
inductive Listened (w : Window) (id : EventId) (t : Turn σ) (d : EndDevice) : Prop where
  | awake (sleeps : t.sleeps r d = false) (cause : ¬Cause w t d)
      (slot : t.op ≠ .alarm id (closeAlarm w) →
        (t.after r d).alarms.get (closeAlarm w) = some id)
  | asleep (sleeps : t.sleeps r d = true) (cause : Cause w t d)

/-- A call that changes neither the windows nor the radio. -/
theorem Listened.of_same {w : Window} {id : EventId} {t : Turn σ} {d : EndDevice}
    {s : Session EndDevice σ} (hmade : (t.made r d).2 = s) (hslept : s.slept = false)
    (hslot : s.node.alarms.get (closeAlarm w) = some id) (hop : t.op.isReception = false)
    (hclose : ∀ v i, t.op = .alarm i (closeAlarm v) → d.alarms.get (closeAlarm v) ≠ some i) :
    Listened r w id t d := by
  refine .awake ?_ ?_ fun _ => ?_
  · change (t.made r d).2.slept = false
    rw [hmade, hslept]
  -- Nothing but a reception or the end of some window puts the radio to sleep.
  · intro hcause
    rcases hcause.op with hreception | ⟨v, i, hv, hi, _⟩
    · rw [hop] at hreception
      cases hreception
    · exact hclose v i hv hi
  · change (t.made r d).2.node.alarms.get (closeAlarm w) = some id
    rw [hmade, hslot]

/-- A reception that ended in vain closes the window that has waited for it, and nothing else. -/
theorem Missed.listened {w : Window} {id : EventId} {t : Turn σ} {d : EndDevice}
    {res : Except Failure Unit} (h : Missed (t.session d) res (t.made r d).2)
    (hop : t.op.isReception = true) (hdeaf : t.downlink? d = none)
    (hopen : d.alarms.get (closeAlarm w) = some id) : Listened r w id t d := by
  generalize hmade : (t.made r d).2 = s' at h
  cases h with
  -- With no close put off, a reception that brings nothing leaves the radio alone.
  | nothing hnone =>
    change d.deferredClose = none at hnone
    refine .awake ?_ ?_ fun _ => ?_
    · change (t.made r d).2.slept = false
      rw [hmade]
      rfl
    · intro hcause
      cases hcause with
      | due hclose _ _ =>
        rw [hclose] at hop
        cases hop
      | crossed hclose _ _ =>
        rw [hclose] at hop
        cases hop
      | heard h =>
        rw [hdeaf] at h
        cases h
      | resumed hdeferred _ =>
        rw [hnone] at hdeferred
        cases hdeferred
    · change (t.made r d).2.node.alarms.get (closeAlarm w) = some id
      rw [hmade]
      exact hopen
  -- The close that was put off during the reception is made up for.
  | parked hw h =>
    refine .asleep ?_ (.resumed ?_ hop)
    · change (t.made r d).2.slept = true
      rw [hmade]
      exact h.slept
    · change d.deferredClose = some _ at hw
      rw [hw]
      rfl

theorem Received.listened {w : Window} {id : EventId} {t : Turn σ} {d : EndDevice}
    {bytes : List UInt8} {reception : Reception} {res : Except Failure Unit}
    (h : Received r bytes reception (t.session d) res (t.made r d).2)
    (hop : t.op = .receive bytes reception) (hopen : d.alarms.get (closeAlarm w) = some id) :
    Listened r w id t d := by
  have hdownlink : t.downlink? d = d.downlink? bytes := by
    rw [Turn.downlink?, hop]
  cases h with
  | foreign hframe h => exact h.listened (by rw [hop]; rfl) (hdownlink.trans hframe) hopen
  | heard hframe h => exact .asleep h.slept (.heard (hdownlink.trans hframe))

/-- While a window is open, no uplink is sent. -/
theorem made_send_pending {t : Turn σ} {d : EndDevice} {payload : List UInt8} {port : UInt8}
    {confirmed : Bool} (hop : t.op = .send payload port confirmed)
    (hpending : d.rxWindowsPending = true) :
    (t.made r d).2 = (t.session d).did [.event .rxWindowsPending] := by
  unfold Turn.made
  rw [hop]
  change ((send r payload port confirmed).run (t.session d)).2 = _
  unfold send
  rw [Call.run_bind_ok (Call.run_now _), Call.run_bind_ok (Call.run_node _)]
  dsimp only
  rw [if_pos (show (t.session d).node.rxWindowsPending = true from hpending)]
  rfl

/-- Nor is the one that is held. -/
theorem Retried.eq_of_pending {s s' : Session EndDevice σ} {res : Except Failure Unit}
    (h : Retried r s res s') (hpending : s.node.rxWindowsPending = true) : s' = s := by
  -- A repeat is not even considered while a window is pending.
  have hlate : ∀ {u wait}, ¬Retrying u wait s := by
    intro u wait hretry
    rw [hretry.closed] at hpending
    cases hpending
  cases h with
  | nothing _ => rfl
  | late _ => rfl
  | fault _ _ => rfl
  | unselected hretry _ _ => exact absurd hretry hlate
  | blocked hretry _ _ => exact absurd hretry hlate
  | failed hretry _ _ _ => exact absurd hretry hlate
  | repeated hretry _ _ _ => exact absurd hretry hlate
  | never hretry _ _ => exact absurd hretry hlate
  | postponed hretry _ _ => exact absurd hretry hlate
  | full hretry _ _ => exact absurd hretry hlate

/-- Nor is any on air. -/
theorem Landed.eq_of_off {s s' : Session EndDevice σ} {res : Except Failure Unit}
    (h : Landed r s res s') (hoff : s.node.transmitting = false) : s' = s := by
  cases h with
  | idle _ => rfl
  | untuned hon | awake hon | full hon | halfFull hon | scheduled hon =>
    rw [hoff] at hon
    cases hon

/-- To open a window sets the alarm that closes it, and leaves the others alone. -/
theorem Opened.slot {v : Window} {a : Alarm} {s s' : Session EndDevice σ}
    {res : Except Failure Unit} (h : Opened r v s res s') (ha : a ≠ closeAlarm v) :
    s'.node.alarms.get a = s.node.alarms.get a := by
  cases h with
  | skipped _ => rfl
  | untuned htune => rw [htune.node]
  | asleep htune _ => exact congrArg (fun d => d.alarms.get a) htune.node
  | full htune _ h₂ _ =>
    subst h₂
    exact congrArg (fun d => d.alarms.get a) htune.node
  | opened hfree htune hstandby h₂ hid =>
    subst h₂
    rename_i m id s₁
    change (s₁.node.alarms.set (closeAlarm v) (some id)).get a = _
    rw [AlarmSlots.get_set, if_neg ha, htune.node]

theorem Opened.listened {w v : Window} {id i : EventId} {t : Turn σ} {d : EndDevice}
    {res : Except Failure Unit} (hop : t.op = .alarm i (openAlarm v))
    (hi : d.alarms.get (openAlarm v) = some i)
    (h : Opened r v (disarmed (openAlarm v) (t.session d)) res (t.made r d).2)
    (hstaged : Staged d) (hopen : d.alarms.get (closeAlarm w) = some id) :
    Listened r w id t d := by
  -- A window that is open is not waiting to be opened, so it is the other one.
  have hother : w ≠ v := by
    rintro rfl
    rw [hstaged.once w i hi] at hopen
    cases hopen
  refine .of_same rfl h.slept ?_ ?_ ?_
  · rw [h.slot (mt closeAlarm_inj.mp hother)]
    change (d.alarms.set (openAlarm v) none).get (closeAlarm w) = some id
    rw [AlarmSlots.get_set, if_neg (openAlarm_ne_closeAlarm v w).symm, hopen]
  · rw [hop]
    rfl
  · intro u j hu
    rw [hop] at hu
    exact absurd (Op.alarm.inj hu).2 (openAlarm_ne_closeAlarm v u)

theorem Closed.listened {w v : Window} {id i : EventId} {t : Turn σ} {d : EndDevice}
    {res : Except Failure Unit} (hop : t.op = .alarm i (closeAlarm v))
    (hi : d.alarms.get (closeAlarm v) = some i)
    (h : Closed v (disarmed (closeAlarm v) (t.session d)) res (t.made r d).2)
    (hopen : d.alarms.get (closeAlarm w) = some id) : Listened r w id t d := by
  generalize hmade : (t.made r d).2 = s' at h
  cases h with
  | deferred hrx =>
    change Host.radioState t.host = .rx at hrx
    refine .awake ?_ ?_ fun hown => ?_
    · change (t.made r d).2.slept = false
      rw [hmade]
      rfl
    · intro hcause
      rcases hcause.op with hreception | ⟨_, _, _, _, hfree⟩
      · rw [hop] at hreception
        cases hreception
      · exact hfree hrx
    · change (t.made r d).2.node.alarms.get (closeAlarm w) = some id
      -- Both windows having their own slots, the alarm of this one closes this one alone.
      have hother : w ≠ v := by
        rintro rfl
        rw [hopen] at hi
        cases hi
        exact hown hop
      rw [hmade]
      change (d.alarms.set (closeAlarm v) none).get (closeAlarm w) = some id
      rw [AlarmSlots.get_set, if_neg (mt closeAlarm_inj.mp hother), hopen]
  -- The radio sleeps although the window open here may be the other one.
  | parked hfree h =>
    refine .asleep ?_ (.of_closed hop hi hfree)
    change (t.made r d).2.slept = true
    rw [hmade]
    exact h.slept

theorem Rang.listened {w : Window} {id i : EventId} {a : Alarm} {t : Turn σ} {d : EndDevice}
    {res : Except Failure Unit} (hop : t.op = .alarm i a)
    (h : Rang r i (t.session d) a res (t.made r d).2) (hstaged : Staged d)
    (hopen : d.alarms.get (closeAlarm w) = some id) : Listened r w id t d := by
  generalize hmade : (t.made r d).2 = s' at h
  cases h with
  | stale hstale =>
    refine .of_same hmade rfl hopen (by rw [hop]; rfl) ?_
    intro v j hv
    rw [hop] at hv
    cases hv
    exact hstale
  | openRx1 hi h => exact Opened.listened (v := .first) hop hi (by rwa [hmade]) hstaged hopen
  | closeRx1 hi h => exact Closed.listened (v := .first) hop hi (by rwa [hmade]) hopen
  | openRx2 hi h => exact Opened.listened (v := .second) hop hi (by rwa [hmade]) hstaged hopen
  | closeRx2 hi h => exact Closed.listened (v := .second) hop hi (by rwa [hmade]) hopen
  -- The alarm for the repeat comes to nothing while the window is open.
  | retransmit _ h =>
    have hslot : (disarmed .retransmit (t.session d)).node.alarms.get (closeAlarm w) = some id := by
      change (d.alarms.set .retransmit none).get (closeAlarm w) = some id
      rw [AlarmSlots.get_set, if_neg (closeAlarm_ne_retransmit w), hopen]
    have hsame := h.eq_of_pending
      (rxWindowsPending_of_alarm (closeAlarm_ne_retransmit w) hslot)
    refine .of_same (hmade.trans hsame) rfl hslot (by rw [hop]; rfl) ?_
    intro v j hv
    rw [hop] at hv
    exact absurd (Op.alarm.inj hv).2.symm (closeAlarm_ne_retransmit v)

/-- **While a window is open, the radio is told to sleep for one of four reasons, and as long as it
is not, the window stays open until its own alarm.** -/
theorem listened (r : Region) {d : EndDevice} (hstaged : Staged d) {w : Window} {id : EventId}
    (hopen : d.alarms.get (closeAlarm w) = some id) (t : Turn σ) : Listened r w id t d := by
  have hpending : d.rxWindowsPending = true :=
    rxWindowsPending_of_alarm (closeAlarm_ne_retransmit w) hopen
  -- Most calls change neither the slots nor the sleep of the radio while a window is pending.
  have hother : ∀ {s : Session EndDevice σ}, (∀ i a, t.op ≠ .alarm i a) →
      t.op.isReception = false → (t.made r d).2 = s → s.slept = false →
      s.node.alarms = d.alarms → Listened r w id t d := by
    intro s halarm hreception hmade hslept halarms
    refine .of_same hmade hslept ?_ hreception fun v i hv => absurd hv (halarm i _)
    rw [halarms]
    exact hopen
  cases hop : t.op with
  | send payload port confirmed =>
    exact hother (by rw [hop]; exact fun _ _ => Op.noConfusion) (by rw [hop]; rfl)
      (made_send_pending hop hpending) rfl rfl
  | txFinished =>
    -- While a frame is on air no window is open, so it is not the end of a transmission.
    have hoff : d.transmitting = false := by
      refine Bool.eq_false_iff.mpr fun hon => ?_
      rw [(hstaged.apart hon).slots _ (closeAlarm_ne_retransmit w)] at hopen
      cases hopen
    exact hother (by rw [hop]; exact fun _ _ => Op.noConfusion) (by rw [hop]; rfl)
      ((txFinished_cases r (Turn.run_call r hop d)).eq_of_off hoff) rfl rfl
  | receive bytes reception =>
    exact (receive_cases r (Turn.run_call r hop d)).listened hop hopen
  | failedReception =>
    refine (failedReception_cases (Turn.run_call r hop d)).listened (by rw [hop]; rfl) ?_ hopen
    rw [Turn.downlink?, hop]
  | alarm i a =>
    exact (alarm_cases r (Turn.run_call r hop d)).listened hop hstaged hopen
  | requestLinkCheck =>
    have halarm : ∀ i a, t.op ≠ .alarm i a := by rw [hop]; exact fun _ _ => Op.noConfusion
    have hqueued := requestLinkCheck_cases (Turn.run_call r hop d)
    generalize t.result r d = res at hqueued
    generalize hmade : (t.made r d).2 = s' at hqueued
    cases hqueued with
    | full _ => exact hother halarm (by rw [hop]; rfl) hmade rfl rfl
    | queued _ => exact hother halarm (by rw [hop]; rfl) hmade rfl rfl
  | editPlan plan =>
    have hmade : (t.made r d).2 = (t.session d).withNode { d with plan } := by
      unfold Turn.made
      rw [hop]
      rfl
    exact hother (by rw [hop]; exact fun _ _ => Op.noConfusion) (by rw [hop]; rfl) hmade rfl rfl

theorem sleeps_iff (r : Region) {d : EndDevice} (hstaged : Staged d) {w : Window} {id : EventId}
    (hopen : d.alarms.get (closeAlarm w) = some id) (t : Turn σ) :
    t.sleeps r d = true ↔ Cause w t d := by
  cases listened r hstaged hopen t with
  | awake sleeps cause _ =>
    rw [sleeps]
    exact ⟨fun h => (by cases h), fun h => absurd h cause⟩
  | asleep sleeps cause => exact ⟨fun _ => cause, fun _ => sleeps⟩

/-- A window stays open until the radio is told to sleep, or its own alarm goes off. -/
theorem slot_run {d : EndDevice} (hstaged : Staged d) {w : Window} {id : EventId}
    (hopen : d.alarms.get (closeAlarm w) = some id) {ts : List (Turn σ)}
    (hown : ∀ t ∈ ts, t.op ≠ .alarm id (closeAlarm w)) (hawake : d.sleeps r ts = false) :
    (d.afterAll r ts).alarms.get (closeAlarm w) = some id := by
  -- By induction on the run: each call that does not end in sleep leaves the slot as it is.
  induction ts generalizing d with
  | nil => exact hopen
  | cons t rest ih =>
    obtain ⟨hfirst, hrest⟩ := Bool.or_eq_false_iff.mp hawake
    cases listened r hstaged hopen t with
    | awake _ _ slot =>
      have hkept := slot (hown t List.mem_cons_self)
      exact ih (staged_step hstaged t) hkept (fun u hu => hown u (List.mem_cons_of_mem t hu)) hrest
    | asleep sleeps _ =>
      rw [sleeps] at hfirst
      cases hfirst

/-! ### Both windows at once -/

/-- Are both windows open? -/
def BothOpen (d : EndDevice) : Prop := ∀ w, (d.alarms.get (closeAlarm w)).isSome = true

/-- Does the call open a window while the other one is open? -/
def Overlaps (t : Turn σ) (d : EndDevice) : Prop :=
  ∃ w i, t.op = .alarm i (openAlarm w) ∧ d.alarms.get (openAlarm w) = some i ∧
    (d.alarms.get (closeAlarm w.other)).isSome = true

theorem overlaps_of_bothOpen {t : Turn σ} {d : EndDevice} (hnot : ¬BothOpen d)
    (hboth : BothOpen (t.after r d)) : Overlaps t d := by
  have hopens : ∀ w, (d.alarms.get (closeAlarm w)).isSome = true ∨
      ∃ i, t.op = .alarm i (openAlarm w) ∧ d.alarms.get (openAlarm w) = some i := by
    intro w
    obtain ⟨id, hid⟩ := Option.isSome_iff_exists.mp (hboth w)
    rcases (moved r t d).opens hid with hbefore | hnew
    · exact Or.inl (Option.isSome_iff_exists.mpr ⟨id, hbefore⟩)
    · exact Or.inr hnew
  -- One of the two was not open before, and this call opened it.
  obtain ⟨w, hw⟩ := Classical.not_forall.mp hnot
  obtain ⟨i, hop, hi⟩ := (hopens w).resolve_left hw
  refine ⟨w, i, hop, hi, ?_⟩
  rcases hopens w.other with hother | ⟨j, hop', _⟩
  · exact hother
  -- One call does not open both, since an alarm is for one window.
  · rw [hop] at hop'
    have hsame := openAlarm_inj.mp (Op.alarm.inj hop').2
    cases w <;> cases hsame

/-- Both windows are open only if one of them was opened while the other was. -/
theorem overlaps_run {d : EndDevice} {ts : List (Turn σ)} (hnot : ¬BothOpen d)
    (hboth : BothOpen (d.afterAll r ts)) :
    ∃ pre t post, ts = pre ++ t :: post ∧ Overlaps t (d.afterAll r pre) := by
  induction ts generalizing d with
  | nil => exact absurd hboth hnot
  | cons t rest ih =>
    by_cases hfirst : BothOpen (t.after r d)
    · exact ⟨[], t, rest, rfl, overlaps_of_bothOpen hnot hfirst⟩
    · obtain ⟨pre, u, post, rfl, hoverlaps⟩ := ih hfirst hboth
      exact ⟨t :: pre, u, post, rfl, hoverlaps⟩

/--
**Each window is listened in for its whole length, except where both are open at once.**

After any run, with whatever lengths, delays and data rates, a window is open. As long as its own
alarm does not go off and the radio is not told to sleep, it stays open. The radio is told to sleep
just by one of these: that alarm, a downlink for this device, the end of a reception that a window
has waited for, or the alarm that closes the other window. The last comes about only if one window
was opened while the other was open.
-/
theorem window_listens (r : Region) {address : DeviceAddress} {settings : Settings} {plan : Plan}
    {before mid : List (Turn σ)} {d d' : EndDevice} {w : Window} {id : EventId}
    (hd : d = (initial address settings plan).afterAll r before) (hd' : d' = d.afterAll r mid)
    (hopen : d.alarms.get (closeAlarm w) = some id)
    (hown : ∀ t ∈ mid, t.op ≠ .alarm id (closeAlarm w)) (hawake : d.sleeps r mid = false) :
    d'.alarms.get (closeAlarm w) = some id ∧
      (∀ t : Turn σ, t.sleeps r d' = true ↔ Cause w t d') ∧
      (BothOpen d' → ∃ pre t post, before ++ mid = pre ++ t :: post ∧
        Overlaps t ((initial address settings plan).afterAll r pre)) := by
  -- A window has one alarm at a time, from the first call on.
  have hstaged : Staged d := by
    rw [hd]
    exact staged_run (staged_init address settings plan) before
  have hopen' : d'.alarms.get (closeAlarm w) = some id := by
    rw [hd']
    exact slot_run hstaged hopen hown hawake
  have hstaged' : Staged d' := by
    rw [hd']
    exact staged_run hstaged mid
  refine ⟨hopen', fun t => sleeps_iff r hstaged' hopen' t, fun hboth => ?_⟩
  rw [hd', hd, ← afterAll_append] at hboth
  exact overlaps_run (fun hinit => by cases hinit .first) hboth

/-- The first window stays open while the second is opened, and is cut short by its end. -/
theorem window_listens_overlapping :
    ∃ (mid : List (Turn Simulation.View)) (d d' : EndDevice) (t : Turn Simulation.View),
      mid = [.onBench 4 (.alarm ⟨1⟩ .openRx2)] ∧ t = .onBench 5 (.alarm ⟨0⟩ .closeRx2) ∧
      d = (initial ⟨5⟩ {} Region.eu868.defaultPlan).afterAll .eu868 (unansweredRun.take 3) ∧
      d' = d.afterAll .eu868 mid ∧ d.alarms.closeRx1 = some ⟨0⟩ ∧ d'.alarms.closeRx1 = some ⟨0⟩ ∧
      Cause .first t d' ∧ ∃ pre u post, unansweredRun.take 3 ++ mid = pre ++ u :: post ∧
        Overlaps u ((initial ⟨5⟩ {} Region.eu868.defaultPlan).afterAll .eu868 pre) := by
  -- The run is kept behind a name, so that it is evaluated only where it has to be.
  obtain ⟨mid, hmid⟩ : ∃ mid : List (Turn Simulation.View),
      mid = [.onBench 4 (.alarm ⟨1⟩ .openRx2)] := ⟨_, rfl⟩
  obtain ⟨d, hd⟩ : ∃ d, d = (initial ⟨5⟩ {} Region.eu868.defaultPlan).afterAll .eu868
      (unansweredRun.take 3) := ⟨_, rfl⟩
  obtain ⟨d', hd'⟩ : ∃ d', d' = d.afterAll .eu868 mid := ⟨_, rfl⟩
  have hopen : d.alarms.get (closeAlarm .first) = some ⟨0⟩ := by
    rw [hd]
    decide +kernel
  have hown : ∀ t ∈ mid, t.op ≠ .alarm ⟨0⟩ (closeAlarm .first) := by
    intro t ht hop
    rw [hmid] at ht
    rw [List.mem_singleton.mp ht] at hop
    cases hop
  have hawake : d.sleeps .eu868 mid = false := by
    rw [hmid, hd]
    decide +kernel
  obtain ⟨hslot, hcause, hboth⟩ := window_listens .eu868 hd hd' hopen hown hawake
  have hsecond : d'.alarms.get (closeAlarm .second) = some ⟨0⟩ := by
    rw [hd', hmid, hd]
    decide +kernel
  have hsleeps : (Turn.onBench 5 (.alarm ⟨0⟩ .closeRx2)).sleeps .eu868 d' = true := by
    rw [hd', hmid, hd]
    decide +kernel
  refine ⟨mid, d, d', _, hmid, rfl, hd, hd', hopen, hslot, (hcause _).mp hsleeps, hboth ?_⟩
  intro w
  cases w with
  | first => rw [hslot]; rfl
  | second => rw [hsecond]; rfl

/-- **The end of the first window may cut the second one short**, though all alarms come when they
are due and no call fails: a first window of 40 symbols at data rate 0 lasts longer than a second. -/
theorem first_window_ends_second :
    ¬∀ (settings : Settings) (w : Station) (t : Turn Solo) (id : EventId),
      Station.Reachable Solo
        ⟨initial ⟨5⟩ settings Region.eu868.defaultPlan, { capacity := 8 }⟩ w →
      w.alarmTurn? = some t → w.device.alarms.closeRx2 = some id → t.op ≠ .alarm id .closeRx2 →
      t.downlink? w.device = none → w.device.deferredClose = none →
        t.sleeps .eu868 w.device = false := by
  intro hall
  let w₀ : Station :=
    ⟨initial ⟨5⟩ { rxWindowSymbols := 40 } Region.eu868.defaultPlan, { capacity := 8 }⟩
  let w₁ := w₀.after (Station.alone w₀.timeline (.send [1, 2, 3] 1 true))
  let w₂ := w₁.after (Station.alone w₁.timeline .txFinished)
  -- A frame goes out, and the alarms go off in the order in which they are due.
  have h₁ : Station.Reachable Solo w₀ w₁ := Station.Reachable.start.called
    (fun _ _ => Op.noConfusion) (fun _ => Op.noConfusion) (by decide +kernel)
  have h₂ : Station.Reachable Solo w₀ w₂ := h₁.called (fun _ _ => Op.noConfusion)
    (fun _ => Op.noConfusion) (by decide +kernel)
  have h₃ : Station.Reachable Solo w₀ w₂.fired := h₂.fired (by decide +kernel)
  have h₄ : Station.Reachable Solo w₀ w₂.fired.fired := h₃.fired (by decide +kernel)
  have hevent : w₂.fired.fired.timeline.pop.map (·.1.event) = some .closeRx1 := by decide +kernel
  have hslot : w₂.fired.fired.device.alarms.closeRx2 = some ⟨3⟩ := by decide +kernel
  have hdeferred : w₂.fired.fired.device.deferredClose = none := by decide +kernel
  have hsleeps : (w₂.fired.fired.alarmTurn?.any
      fun t => t.sleeps .eu868 w₂.fired.fired.device) = true := by
    decide +kernel
  -- From here on only these four facts about the station are used.
  generalize w₂.fired.fired = w at h₄ hevent hslot hdeferred hsleeps
  obtain ⟨⟨e, later⟩, hpop, hclose⟩ := Option.map_eq_some_iff.mp hevent
  have hturn : w.alarmTurn? = some (Station.alone later (.alarm e.id e.event)) := by
    unfold Station.alarmTurn?
    rw [hpop]
    rfl
  rw [hturn] at hsleeps
  have hfirst : Op.alarm e.id e.event ≠ .alarm ⟨3⟩ .closeRx2 := by
    intro hop
    have hsecond := (Op.alarm.inj hop).2
    rw [hclose] at hsecond
    cases hsecond
  have hawake := hall _ w _ ⟨3⟩ h₄ hturn hslot hfirst rfl hdeferred
  rw [Option.any_some, hawake] at hsleeps
  cases hsleeps

end EndDevice

end LoraLink
