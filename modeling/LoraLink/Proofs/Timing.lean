import LoraLink.Proofs.Waiting

/-!
# Windows open on time

A device has a timeline to itself, the alarms that are taken off it are handed to the device, and no
call fails. Then a frame that has left the antenna is followed by both windows at the right instants,
and unless a frame is being received just then, the radio is tuned to what belongs to that frame.

An alarm stays on the timeline until it is due, the clock cannot pass it, and the device goes on
waiting for it unless a downlink comes. Meanwhile no other frame can go on air. So the channel and
the data rate of the frame are remembered as they were when it was sent, and the settings stay the
same.
-/

namespace LoraLink

namespace EndDevice

section

variable {σ : Type} [Host σ] {r : Region}

/-! ## The last frame on air -/

/-- A call remembers the channel and the data rate of the frame that it puts on air, if any. -/
theorem last_cases (r : Region) (t : Turn σ) (d : EndDevice) :
    (t.transmissions r d = [] ∧ (t.after r d).lastUplink = d.lastUplink) ∨
      ∃ u a, t.transmissions r d = [a.transmission t.host] ∧ Aired r (t.session d) u a ∧
        (t.after r d).lastUplink = some (a.channel, u.rate) := by
  rcases t.link_cases r d with ⟨hquiet, x, hx, hlink⟩ | ⟨u, a, hone, hair, _, _, hlast⟩
  · have hsame : (t.after r d).lastUplink = x.lastUplink := (congrArg EndDevice.lastUplink hlink :)
    exact Or.inl ⟨hquiet, hsame.trans hx.lastUplink⟩
  · exact Or.inr ⟨u, a, hone, hair, hlast⟩

/-- In a run, the last frame that went on air was sent on this channel, as it was then, at this data
rate. -/
def LastAired (r : Region) (d : EndDevice) (ts : List (Turn σ)) (c : Channel) (rate : DataRate) :
    Prop :=
  ∃ before t after u a, ts = before ++ t :: after ∧
    t.transmissions r (d.afterAll r before) = [a.transmission t.host] ∧
    Aired r (t.session (d.afterAll r before)) u a ∧ a.channel = c ∧ u.rate = rate ∧
    (t.after r (d.afterAll r before)).transmissions r after = []

/-- What is remembered is the last frame. -/
theorem lastAired_run (d : EndDevice) (ts : List (Turn σ)) :
    (d.transmissions r ts = [] ∧ (d.afterAll r ts).lastUplink = d.lastUplink) ∨
      ∃ c rate, LastAired r d ts c rate ∧ (d.afterAll r ts).lastUplink = some (c, rate) := by
  induction ts generalizing d with
  | nil => exact Or.inl ⟨rfl, rfl⟩
  | cons t rest ih =>
    -- What comes later decides, so the first call counts only if nothing follows it on air.
    rcases ih (t.after r d) with ⟨hquiet, hsame⟩ | ⟨c, rate, hlast, hsame⟩
    · rcases last_cases r t d with ⟨hnone, hfirst⟩ | ⟨u, a, hone, hair, hfirst⟩
      · refine Or.inl ⟨?_, hsame.trans hfirst⟩
        rw [transmissions, hnone, hquiet]
        rfl
      · exact Or.inr ⟨a.channel, u.rate, ⟨[], t, rest, u, a, rfl, hone, hair, rfl, rfl, hquiet⟩,
          hsame.trans hfirst⟩
    · obtain ⟨before, t', after, u, a, rfl, hlater⟩ := hlast
      exact Or.inr ⟨c, rate, ⟨t :: before, t', after, u, a, rfl, hlater⟩, hsame⟩

theorem transmitting_of_quiet_run {d : EndDevice} (hoff : d.transmitting = false)
    {ts : List (Turn σ)} (hquiet : d.transmissions r ts = []) :
    (d.afterAll r ts).transmitting = false := by
  induction ts generalizing d with
  | nil => exact hoff
  | cons t rest ih =>
    obtain ⟨hfirst, hrest⟩ := List.append_eq_nil_iff.mp hquiet
    exact ih (transmitting_of_quiet hoff hfirst) hrest

/-- Of a frame that is on air, the channel and the data rate are remembered. -/
theorem lastAired_of_transmitting {d : EndDevice} (hoff : d.transmitting = false)
    (ts : List (Turn σ)) (hon : (d.afterAll r ts).transmitting = true) :
    ∃ c rate, LastAired r d ts c rate ∧ (d.afterAll r ts).lastUplink = some (c, rate) := by
  rcases lastAired_run (r := r) d ts with ⟨hquiet, _⟩ | hlast
  · rw [transmitting_of_quiet_run hoff hquiet] at hon
    cases hon
  · exact hlast

end

end EndDevice

/-! ## Alarms that are dispatched as they come -/

variable {σ : Type} [Host σ]

/-- No call fails, unless the device refuses it. -/
def Turn.Smooth (t : Turn σ) (d : EndDevice) : Prop :=
  ∀ e, t.result .eu868 d = .error e → ∃ q, e = .refused q

theorem Turn.Smooth.room {t : Turn σ} {d : EndDevice} (h : t.Smooth d) :
    t.result .eu868 d ≠ .error .timelineFull := by
  intro hfull
  obtain ⟨q, hq⟩ := h _ hfull
  cases hq

variable [OwnTimeline σ]

namespace Station

/-- What a station may be called for. -/
inductive Admits (w : Station) (t : Turn σ) : Prop where
  /-- Some time passes, up to the next alarm at most, and the device is called, though not for an
  alarm that it waits for. -/
  | called {goal : Instant}
      (htime : w.timeline.advanceTo goal = some (OwnTimeline.timeline t.host))
      (hop : ∀ id a, t.op = .alarm id a → w.device.alarms.get a ≠ some id)
  /-- The next alarm is taken off the timeline and handed to the device. -/
  | fired {e : Timeline.Entry Alarm}
      (hpop : w.timeline.pop = some (e, OwnTimeline.timeline t.host))
      (hop : t.op = .alarm e.id e.event)

/-- The station after a run. -/
def afterAll (w : Station) : List (Turn σ) → Station
  | [] => w
  | t :: rest => (w.after t).afterAll rest

/-- In a run, alarms are handed to the device as they are taken off the timeline, and no call
fails. -/
def Driven (w : Station) : List (Turn σ) → Prop
  | [] => True
  | t :: rest => w.Admits t ∧ t.Smooth w.device ∧ (w.after t).Driven rest

theorem device_afterAll (w : Station) (ts : List (Turn σ)) :
    (w.afterAll ts).device = w.device.afterAll .eu868 ts := by
  induction ts generalizing w with
  | nil => rfl
  | cons t rest ih => exact ih (w.after t)

theorem afterAll_append (w : Station) (ts us : List (Turn σ)) :
    w.afterAll (ts ++ us) = (w.afterAll ts).afterAll us := by
  induction ts generalizing w with
  | nil => rfl
  | cons t rest ih => exact ih (w.after t)

theorem driven_append {w : Station} {ts us : List (Turn σ)} :
    w.Driven (ts ++ us) ↔ w.Driven ts ∧ (w.afterAll ts).Driven us := by
  induction ts generalizing w with
  | nil => exact ⟨fun h => ⟨trivial, h⟩, fun h => h.2⟩
  | cons t rest ih =>
    change _ ∧ _ ∧ (w.after t).Driven (rest ++ us) ↔ (_ ∧ _ ∧ (w.after t).Driven rest) ∧ _
    rw [ih, and_assoc, and_assoc]
    rfl

/-- To advance the clock or to take the next alarm leaves the timeline in order. -/
theorem Admits.kept {w : Station} {t : Turn σ} (h : w.Admits t) (hkept : w.timeline.Kept) :
    (OwnTimeline.timeline t.host).Kept := by
  cases h with
  | called htime hop =>
    rename_i goal
    have hacted := w.timeline.acted (.advanceTo goal)
    rw [Timeline.act, htime] at hacted
    exact Timeline.kept_step hkept hacted
  | fired hpop hop =>
    have hacted := w.timeline.acted .pop
    rw [Timeline.act, hpop] at hacted
    exact Timeline.kept_step hkept hacted

/-- An alarm stays on the timeline until it is handed over. -/
theorem Admits.mem {w : Station} {t : Turn σ} (h : w.Admits t) {e : Timeline.Entry Alarm}
    (he : e ∈ w.timeline.pending) (hop : t.op ≠ .alarm e.id e.event) :
    e ∈ (OwnTimeline.timeline t.host).pending := by
  cases h with
  | called htime _ =>
    rw [Timeline.pending_of_advanceTo htime]
    exact he
  | fired hpop hfired =>
    rw [(Timeline.pop_eq_some hpop).1] at he
    rcases List.mem_cons.mp he with rfl | hrest
    · exact absurd hfired hop
    · exact hrest

/-- An alarm that is waited for is handed over when it is due. -/
theorem Admits.now_eq {w : Station} {t : Turn σ} (h : w.Admits t) (htidy : w.timeline.Tidy)
    {a : Alarm} {id : EventId} {due : Instant} (hlive : w.device.alarms.get a = some id)
    (he : ⟨due, id, a⟩ ∈ w.timeline.pending) (hop : t.op = .alarm id a) :
    (OwnTimeline.timeline t.host).now = due := by
  cases h with
  | called _ hstale => exact absurd hlive (hstale id a hop)
  | fired hpop hfired =>
    rename_i e
    have hid : id = e.id := (Op.alarm.inj (hop.symm.trans hfired)).1
    have hfirst : e ∈ w.timeline.pending := by
      rw [(Timeline.pop_eq_some hpop).1]
      exact List.mem_cons_self
    -- Numbers are given out once, so the entry that is fired is the one waited for.
    have heq : (⟨due, id, a⟩ : Timeline.Entry Alarm) = e := htidy.eq_of_id hfirst he hid
    rw [Timeline.now_of_pop hpop, ← heq]

/-! ## The windows of a frame -/

/-- The device waits for an alarm that is on the timeline and not overdue. -/
structure Awaits (w : Station) (a : Alarm) (id : EventId) (due : Instant) : Prop where
  slot : w.device.alarms.get a = some id
  pending : ⟨due, id, a⟩ ∈ w.timeline.pending
  ahead : w.timeline.now ≤ due

/--
In a run, an alarm goes off when it is due, and the device waits for it until then. What is to hold
of the call and of the rest of the run is up to `P`. A run may be over before.
-/
inductive GoesOff (a : Alarm) (id : EventId) (due : Instant)
    (P : Station → Turn σ → List (Turn σ) → Prop) : Station → List (Turn σ) → Prop where
  | waits {w : Station} (h : w.Awaits a id due) : GoesOff a id due P w []
  | later {w : Station} {t : Turn σ} {rest : List (Turn σ)} (h : w.Awaits a id due)
      (hop : t.op ≠ .alarm id a) (hrest : GoesOff a id due P (w.after t) rest) :
      GoesOff a id due P w (t :: rest)
  | fires {w : Station} {t : Turn σ} {rest : List (Turn σ)} (h : w.Awaits a id due)
      (hop : t.op = .alarm id a) (hnow : (OwnTimeline.timeline t.host).now = due)
      (hthen : P w t rest) : GoesOff a id due P w (t :: rest)

/--
A call opens a window, unless a frame is being received. The radio is tuned to a frequency and to
the spreading factor of a data rate, and listens for a number of symbols from then on.
-/
structure Opens (window : Window) (frequency : Nat) (rate : Except RegionError DataRate)
    (symbols : Nat) (w : Station) (t : Turn σ) (rest : List (Turn σ)) : Prop where
  skipped : Host.radioState t.host = .rx → t.trace .eu868 w.device = []
  opened : Host.radioState t.host ≠ .rx → ∃ dataRate m id due,
    rate = .ok dataRate ∧ Region.eu868.modulation dataRate = .ok m ∧
    t.trace .eu868 w.device = [.radio (.setFrequency frequency) true,
      .radio (.setSpreadingFactor m.spreadingFactor) true, .radio .standby true] ∧
    due.micros = (OwnTimeline.timeline t.host).now.micros + symbols * m.symbolMicros ∧
    GoesOff (EndDevice.closeAlarm window) id due (fun _ _ _ => True) (w.after t) rest

/-- The station is in order, and in the exchange that a device has begun. -/
structure InExchange (d : EndDevice) (w : Station) : Prop where
  kept : w.timeline.Kept
  staged : w.device.Staged
  settings : w.device.settings = d.settings
  last : w.device.lastUplink = d.lastUplink

/-- Any call leaves the station in order. -/
theorem kept_after {w : Station} {t : Turn σ} (h : w.timeline.Kept) (hnext : w.Admits t)
    (hsmooth : t.Smooth w.device) : (w.after t).timeline.Kept :=
  ((t.called .eu868 w.device).extended hsmooth.room).kept (hnext.kept h)

theorem kept_run {w : Station} (h : w.timeline.Kept) {ts : List (Turn σ)} (hdriven : w.Driven ts) :
    (w.afterAll ts).timeline.Kept := by
  induction ts generalizing w with
  | nil => exact h
  | cons t rest ih =>
    obtain ⟨hnext, hsmooth, hrest⟩ := hdriven
    exact ih (kept_after h hnext hsmooth) hrest

theorem InExchange.step {d : EndDevice} {w : Station} {t : Turn σ} (h : InExchange d w)
    (hpending : w.device.rxWindowsPending = true) (hnext : w.Admits t)
    (hsmooth : t.Smooth w.device) (hdeaf : t.downlink? w.device = none) :
    InExchange d (w.after t) := by
  have hquiet := EndDevice.quiet_of_pending (r := .eu868) hpending t
  refine ⟨kept_after h.kept hnext hsmooth, EndDevice.staged_step h.staged t, ?_, ?_⟩
  · exact (EndDevice.settings_of_quiet hquiet hdeaf).trans h.settings
  · rcases EndDevice.last_cases .eu868 t w.device with ⟨_, hlast⟩ | ⟨_, _, hone, _⟩
    · exact hlast.trans h.last
    · rw [hquiet] at hone
      cases hone

/-- On a timeline in order, nothing is overdue. -/
theorem awaits_of_kept {w : Station} (hkept : w.timeline.Kept) {a : Alarm} {id : EventId}
    {due : Instant} (hslot : w.device.alarms.get a = some id)
    (hmem : ⟨due, id, a⟩ ∈ w.timeline.pending) : w.Awaits a id due :=
  ⟨hslot, hmem, hkept.ahead _ hmem⟩

/-- An alarm of a window that does not go off is waited for after the call. -/
theorem Awaits.step {w : Station} {t : Turn σ} {a : Alarm} {id : EventId} {due : Instant}
    (h : w.Awaits a id due) (ha : a ≠ .retransmit) (hkept : w.timeline.Kept)
    (hstaged : w.device.Staged) (hnext : w.Admits t) (hsmooth : t.Smooth w.device)
    (hdeaf : t.downlink? w.device = none) (hop : t.op ≠ .alarm id a) :
    (w.after t).Awaits a id due := by
  have hextended := (t.called .eu868 w.device).extended hsmooth.room
  have hslot := EndDevice.slot_step (r := .eu868) hstaged ha h.slot hdeaf hop
  exact awaits_of_kept (kept_after hkept hnext hsmooth) hslot
    (hextended.mem _ (hnext.mem h.pending hop))

/-- **An alarm of a window that the device waits for goes off when it is due**, unless a downlink
comes before. -/
theorem goesOff {d : EndDevice} {a : Alarm} {id : EventId} {due : Instant}
    {P : Station → Turn σ → List (Turn σ) → Prop} (ha : a ≠ .retransmit)
    (hthen : ∀ {w : Station} {t : Turn σ} {rest : List (Turn σ)}, InExchange d w →
      w.device.alarms.get a = some id → t.op = .alarm id a → t.Smooth w.device →
      (OwnTimeline.timeline t.host).now = due → InExchange d (w.after t) →
      (w.after t).Driven rest → (w.after t).device.downlinks .eu868 rest = [] → P w t rest)
    {w : Station} (h : InExchange d w) (hwaits : w.Awaits a id due) {ts : List (Turn σ)}
    (hdriven : w.Driven ts) (hdeaf : w.device.downlinks .eu868 ts = []) :
    GoesOff a id due P w ts := by
  -- By induction on the run: until its alarm goes off the station keeps waiting for it.
  induction ts generalizing w with
  | nil => exact .waits hwaits
  | cons t rest ih =>
    obtain ⟨hnext, hsmooth, hrest⟩ := hdriven
    obtain ⟨hnone, hlater⟩ := List.append_eq_nil_iff.mp hdeaf
    have hnone : t.downlink? w.device = none := Option.toList_eq_nil_iff.mp hnone
    -- A window is pending all the while, so no new exchange comes in between.
    have hpending := EndDevice.rxWindowsPending_of_alarm ha hwaits.slot
    have hafter := h.step hpending hnext hsmooth hnone
    by_cases hop : t.op = .alarm id a
    · have hnow := hnext.now_eq h.kept.tidy hwaits.slot hwaits.pending hop
      exact .fires hwaits hop hnow (hthen h hwaits.slot hop hsmooth hnow hafter hrest hlater)
    · have hkept := hwaits.step ha h.kept h.staged hnext hsmooth hnone hop
      exact .later hwaits hop (ih hafter hkept hrest hlater)

/-- What a window is tuned to depends only on the settings and the last frame. -/
theorem InExchange.tuning {d : EndDevice} {w : Station} (h : InExchange d w) (v : Window) :
    w.device.windowFrequency .eu868 v = d.windowFrequency .eu868 v ∧
      w.device.windowRate .eu868 v = d.windowRate .eu868 v := by
  unfold EndDevice.windowFrequency EndDevice.windowRate EndDevice.rx2Frequency EndDevice.rx2Rate
    EndDevice.rx1Offset EndDevice.dataRate
  rw [h.settings, h.last]
  exact ⟨rfl, rfl⟩

/-- The longest symbols of the region are those of data rate 0. -/
theorem symbolMicros_le {rate : DataRate} {m : Modulation}
    (h : Region.eu868.modulation rate = .ok m) : m.symbolMicros ≤ 32768 := by
  have hall : ∀ rate : DataRate, ∀ m ∈ (Region.eu868.modulation rate).toOption,
      m.symbolMicros ≤ 32768 := by decide +kernel
  exact hall rate m (by rw [h]; rfl)

/-- A window is as long as its symbols, and no longer than 65535 of the longest ones. -/
theorem windowLength_eq {m : Modulation} (symbols : UInt16) (h : m.symbolMicros ≤ 32768) :
    (m.symbolTime.scale symbols.toNat).micros = symbols.toNat * m.symbolMicros ∧
      symbols.toNat * m.symbolMicros ≤ 2147450880 := by
  have hlt := symbols.toNat_lt
  have hsymbols : symbols.toNat ≤ 65535 := by omega
  have hle : symbols.toNat * m.symbolMicros ≤ 65535 * 32768 := Nat.mul_le_mul hsymbols h
  have hmax : horizon = 18446744073709551615 := rfl
  refine ⟨?_, hle⟩
  -- Neither of the two products comes near the horizon, so nothing saturates.
  have htime : m.symbolTime.micros = m.symbolMicros := by
    change min m.symbolMicros horizon = m.symbolMicros
    omega
  change min (m.symbolTime.micros * symbols.toNat) horizon = _
  rw [htime, Nat.mul_comm]
  omega

/-- The device that waited for the alarm that opens a window opens it. -/
theorem opens {d : EndDevice} {v : Window} {w : Station} {t : Turn σ} {rest : List (Turn σ)}
    {id : EventId} (h : InExchange d w)
    (hid : w.device.alarms.get (EndDevice.openAlarm v) = some id)
    (hop : t.op = .alarm id (EndDevice.openAlarm v)) (hsmooth : t.Smooth w.device)
    (hfar : (OwnTimeline.timeline t.host).now.micros + 2147450880 ≤ horizon)
    (hafter : InExchange d (w.after t)) (hrest : (w.after t).Driven rest)
    (hdeaf : (w.after t).device.downlinks .eu868 rest = []) :
    Opens v (d.windowFrequency .eu868 v) (d.windowRate .eu868 v)
      d.settings.rxWindowSymbols.toNat w t rest := by
  have hopened := EndDevice.opened_of_alarm (r := .eu868) hop hid
  -- Smooth calls fail for the radio alone, and this opening was not refused.
  have hok : t.result .eu868 w.device = .ok () := by
    cases hres : t.result .eu868 w.device with
    | ok _ => rfl
    | error e =>
      obtain ⟨q, rfl⟩ := hsmooth e hres
      rw [hres] at hopened
      exact hopened.not_refused.elim
  rw [hok] at hopened
  refine ⟨fun hrx => ?_, fun hfree => ?_⟩
  · unfold Turn.trace
    generalize (t.made .eu868 w.device).2 = s' at hopened ⊢
    cases hopened with
    | skipped _ => rfl
    | opened hfree _ _ _ _ => exact absurd hrx hfree
  · obtain ⟨rate, m, k, hrate, hm, htrace, hslot, hpending⟩ := hopened.listens hfree
    obtain ⟨hfrequency, hrate'⟩ := h.tuning v
    obtain ⟨hlength, hle⟩ := windowLength_eq w.device.settings.rxWindowSymbols
      (symbolMicros_le hm)
    -- The close is scheduled for the time the symbols take, counted from now.
    have hwaits : (w.after t).Awaits (EndDevice.closeAlarm v) k
        ((OwnTimeline.timeline t.host).now + EndDevice.windowLength m (t.session w.device)) :=
      awaits_of_kept hafter.kept hslot hpending
    refine ⟨rate, m, k, _, ?_, hm, ?_, ?_,
      goesOff (EndDevice.closeAlarm_ne_retransmit v) (fun _ _ _ _ _ _ _ _ => trivial) hafter hwaits
        hrest hdeaf⟩
    · rw [← hrate']
      exact hrate
    · rw [← hfrequency]
      exact htrace
    · rw [← h.settings, Instant.micros_add]
      change min (_ + (m.symbolTime.scale w.device.settings.rxWindowSymbols.toNat).micros) horizon = _
      rw [hlength]
      omega

/-- After a frame has left the antenna, the device waits for both windows. -/
theorem landed {w : Station} {t : Turn σ} (hkept : w.timeline.Kept) (hstaged : w.device.Staged)
    (hnext : w.Admits t) (hsmooth : t.Smooth w.device) (hop : t.op = .txFinished)
    (hon : w.device.transmitting = true) :
    InExchange w.device (w.after t) ∧ ∃ i j,
      (w.after t).Awaits .openRx1 i
        ((OwnTimeline.timeline t.host).now + w.device.windowDelay .eu868 .first) ∧
      (w.after t).Awaits .openRx2 j
        ((OwnTimeline.timeline t.host).now + w.device.windowDelay .eu868 .second) := by
  have hrun := Turn.run_call .eu868 hop w.device
  have hlanded := EndDevice.txFinished_cases .eu868 hrun
  have hlink : (t.made .eu868 w.device).2.node.link = w.device.link := hlanded.quiet.link
  have hkept' := kept_after hkept hnext hsmooth
  -- The end of a transmission is no business of the link, so the settings stay.
  have hsettings : (w.after t).device.settings = w.device.settings :=
    (congrArg EndDevice.settings hlink :)
  have hlast : (w.after t).device.lastUplink = w.device.lastUplink :=
    (congrArg EndDevice.lastUplink hlink :)
  refine ⟨⟨hkept', EndDevice.staged_step hstaged t, hsettings, hlast⟩, ?_⟩
  cases hres : t.result .eu868 w.device with
  | error e =>
    obtain ⟨q, rfl⟩ := hsmooth e hres
    rw [hres] at hlanded
    exact hlanded.not_refused.elim
  | ok _ =>
    rw [hres] at hlanded
    obtain ⟨i, j, hi, hj, hfirst, hsecond⟩ := hlanded.schedules hon
    exact ⟨i, j, awaits_of_kept hkept' hi hfirst, awaits_of_kept hkept' hj hsecond⟩

/-- The first window opens after the seconds that are set, or after one. -/
theorem micros_rx1Delay (d : EndDevice) : (d.rx1Delay .eu868).micros =
    (d.settings.rxDelay.map UInt8.toNat).getD 1 * 1000000 := by
  unfold EndDevice.rx1Delay
  cases d.settings.rxDelay with
  | none => rfl
  | some seconds =>
    have hlt := seconds.toNat_lt
    have hmax : horizon = 18446744073709551615 := rfl
    change min (seconds.toNat * 1000000) horizon = seconds.toNat * 1000000
    omega

/-- The first window opens after 255 seconds at the latest, the second a second later. -/
theorem micros_windowDelay (d : EndDevice) : (d.rx1Delay .eu868).micros ≤ 255000000 ∧
    (d.windowDelay .eu868 .second).micros = (d.rx1Delay .eu868).micros + 1000000 := by
  have hmax : horizon = 18446744073709551615 := rfl
  have hfirst : (d.rx1Delay .eu868).micros ≤ 255000000 := by
    rw [micros_rx1Delay]
    cases d.settings.rxDelay with
    | none => decide
    | some seconds => exact Nat.mul_le_mul_right 1000000 (Nat.le_of_lt_succ seconds.toNat_lt)
  refine ⟨hfirst, ?_⟩
  change min ((d.rx1Delay .eu868).micros + min (1 * 1000000) horizon) horizon = _
  omega

/-- An hour before the end of the clock there is time for both windows and all their symbols. -/
theorem micros_opening (d : EndDevice) {now : Instant} (hfar : now.micros + 3600000000 ≤ horizon)
    (v : Window) :
    (now + d.windowDelay .eu868 v).micros = now.micros + (d.windowDelay .eu868 v).micros ∧
      (now + d.windowDelay .eu868 v).micros + 2147450880 ≤ horizon := by
  obtain ⟨hfirst, hsecond⟩ := micros_windowDelay d
  have hle : (d.windowDelay .eu868 v).micros ≤ 256000000 := by
    cases v with
    | first => exact Nat.le_trans hfirst (by decide)
    | second => omega
  rw [Instant.micros_add]
  omega

/-- A device that remembers its last frame tunes the first window by it. -/
theorem tuning_first {d : EndDevice} {c : Channel} {rate : DataRate}
    (h : d.lastUplink = some (c, rate)) :
    d.windowFrequency .eu868 .first = c.replyFrequency ∧
      d.windowRate .eu868 .first = Region.eu868.rx1Rate rate
        ((d.settings.rx1DataRateOffset.map UInt8.toNat).getD 0) := by
  unfold EndDevice.windowFrequency EndDevice.windowRate
  rw [h]
  exact ⟨rfl, rfl⟩

/--
**Receive windows open at the right time on the right parameters.**

A device starts with nothing on its timeline, alarms are handed to it as they come, and no call
fails. A frame was sent on channel `c` at data rate `rate`, for the first time or again, and has left
the antenna at an instant that is at least an hour before the end of the clock. From then on, as long
as no downlink for the device comes, the alarm for the first window goes off just when the delay is
over, which is the one that is set or else a second, and that for the second one just a second later.

Unless a frame is being received at that instant, the radio is tuned. In the first window it is tuned
to the reply frequency that `c` had when the frame was sent and to the spreading factor that belongs
to `rate` and the offset that is set, or 0; in the second to the frequency and the data rate that are
set, or to 869.525 MHz and data rate 0. The window closes after the number of symbols that is set.
-/
theorem windows_on_time {address : DeviceAddress} {settings : Settings} {plan : Plan}
    {timeline : Timeline Alarm} (hempty : timeline.pending = []) {before : List (Turn σ)}
    {t : Turn σ} {w : Station}
    (hw : w = afterAll ⟨EndDevice.initial address settings plan, timeline⟩ before)
    (hdriven : Driven ⟨EndDevice.initial address settings plan, timeline⟩ (before ++ [t]))
    (hop : t.op = .txFinished) (hon : w.device.transmitting = true)
    (hfar : (OwnTimeline.timeline t.host).now.micros + 3600000000 ≤ horizon) :
    ∃ c rate, EndDevice.LastAired .eu868 (EndDevice.initial address settings plan) before c rate ∧
      ∃ i j first second,
        first.micros = (OwnTimeline.timeline t.host).now.micros +
          (w.device.settings.rxDelay.map UInt8.toNat).getD 1 * 1000000 ∧
        second.micros = first.micros + 1000000 ∧
        ∀ ts : List (Turn σ), (w.after t).Driven ts →
          (w.after t).device.downlinks .eu868 ts = [] →
            GoesOff .openRx1 i first (Opens .first c.replyFrequency
              (Region.eu868.rx1Rate rate
                ((w.device.settings.rx1DataRateOffset.map UInt8.toNat).getD 0))
              w.device.settings.rxWindowSymbols.toNat) (w.after t) ts ∧
            GoesOff .openRx2 j second (Opens .second
              (w.device.settings.rx2Frequency.getD 869525000)
              (.ok (w.device.settings.rx2DataRate.getD 0))
              w.device.settings.rxWindowSymbols.toNat) (w.after t) ts := by
  obtain ⟨hbefore, hlast⟩ := driven_append.mp hdriven
  rw [← hw] at hlast
  obtain ⟨hnext, hsmooth, _⟩ := hlast
  have hkept : w.timeline.Kept := hw ▸ kept_run (Timeline.kept_of_empty hempty) hbefore
  have hdevice : w.device =
      (EndDevice.initial address settings plan).afterAll .eu868 before := by
    rw [hw, device_afterAll]
  have hstaged : w.device.Staged :=
    hdevice ▸ EndDevice.staged_run (EndDevice.staged_init address settings plan) before
  -- What the device remembers is the frame that was last on air.
  obtain ⟨c, rate, haired, hremembered⟩ := EndDevice.lastAired_of_transmitting (r := .eu868)
    (d := EndDevice.initial address settings plan) rfl before (hdevice ▸ hon)
  rw [← hdevice] at hremembered
  obtain ⟨hexchange, i, j, hfirst, hsecond⟩ := landed hkept hstaged hnext hsmooth hop hon
  obtain ⟨hfrequency, hrate⟩ := tuning_first hremembered
  have hopens := micros_opening w.device hfar
  refine ⟨c, rate, haired, i, j,
    (OwnTimeline.timeline t.host).now + w.device.windowDelay .eu868 .first,
    (OwnTimeline.timeline t.host).now + w.device.windowDelay .eu868 .second,
    ?_, ?_, fun ts hts hdeaf => ⟨?_, ?_⟩⟩
  · rw [← micros_rx1Delay]
    exact (hopens .first).1
  · rw [(hopens .first).1, (hopens .second).1, (micros_windowDelay w.device).2, ← Nat.add_assoc]
    rfl
  · rw [← hrate, ← hfrequency]
    refine goesOff Alarm.noConfusion ?_ hexchange hfirst hts hdeaf
    intro w' u rest h hid hu hsmooth hnow hafter hrest hdeaf
    exact opens (v := .first) h hid hu hsmooth (hnow ▸ (hopens .first).2) hafter hrest hdeaf
  · refine goesOff Alarm.noConfusion ?_ hexchange hsecond hts hdeaf
    intro w' u rest h hid hu hsmooth hnow hafter hrest hdeaf
    exact opens (v := .second) h hid hu hsmooth (hnow ▸ (hopens .second).2) hafter hrest hdeaf

/-! ### A repeat whose windows open on time -/

/-- The call for an operation, or for the next alarm. -/
def turnFor (w : Station) : Option Op → Turn Solo
  | some op => alone w.timeline op
  | none => w.alarmTurn?.getD (alone w.timeline .failedReception)

/-- A device that has its host to itself is called for what stands in a script. -/
def played (w : Station) : List (Option Op) → List (Turn Solo)
  | [] => []
  | op? :: rest => w.turnFor op? :: (w.after (w.turnFor op?)).played rest

theorem played_append (w : Station) (script more : List (Option Op)) :
    w.played (script ++ more) =
      w.played script ++ (w.afterAll (w.played script)).played more := by
  induction script generalizing w with
  | nil => rfl
  | cons op? rest ih => exact congrArg (w.turnFor op? :: ·) (ih (w.after (w.turnFor op?)))

/-- Does every call of a run succeed? -/
def succeeds (w : Station) : List (Turn Solo) → Bool
  | [] => true
  | t :: rest => (t.result .eu868 w.device).toBool && (w.after t).succeeds rest

theorem admits_turnFor {w : Station} (hkept : w.timeline.Kept) {op? : Option Op}
    (hop : ∀ id a, op? ≠ some (.alarm id a)) : w.Admits (w.turnFor op?) := by
  have hcalled : ∀ op, (∀ id a, op ≠ .alarm id a) → w.Admits (alone w.timeline op) :=
    fun op hop => .called (Timeline.advanceTo_now hkept) fun id a h => absurd h (hop id a)
  cases op? with
  | some op => exact hcalled op fun id a h => hop id a (congrArg some h)
  | none =>
    unfold turnFor alarmTurn?
    cases hpop : w.timeline.pop with
    | none => exact hcalled .failedReception fun _ _ => Op.noConfusion
    | some x => exact .fired hpop rfl

theorem driven_played {w : Station} (hkept : w.timeline.Kept) {script : List (Option Op)}
    (hop : ∀ id a, some (.alarm id a) ∉ script) (hok : w.succeeds (w.played script) = true) :
    w.Driven (w.played script) := by
  induction script generalizing w with
  | nil => trivial
  | cons op? rest ih =>
    obtain ⟨hfirst, hrest⟩ := Bool.and_eq_true_iff.mp hok
    -- What is played is the next alarm, or a call from outside that is no alarm.
    have hnext : w.Admits (w.turnFor op?) := by
      refine admits_turnFor hkept fun id a h => hop id a ?_
      rw [h]
      exact List.mem_cons_self
    have hsmooth : (w.turnFor op?).Smooth w.device := by
      intro e he
      rw [he] at hfirst
      cases hfirst
    exact ⟨hnext, hsmooth, ih (kept_after hkept hnext hsmooth)
      (fun id a h => hop id a (List.mem_cons_of_mem op? h)) hrest⟩

/-- Windows that are not those of the region. -/
def lateWindows : Settings where
  txDataRate := DataRate.ofNat? 5
  rxDelay := some 3
  rx1DataRateOffset := some 2
  rx2DataRate := DataRate.ofNat? 3
  rx2Frequency := some 869000000

/-- A confirmed uplink is repeated. While its frame is on air, all channels are taken away, and both
windows open and close on time nevertheless: three seconds after the frame and a second later, at the
offset, the frequency and the data rate that were set. -/
theorem windows_on_time_repeated :
    ∃ (w₀ w : Station) (before ts : List (Turn Solo)) (t : Turn Solo),
      w₀ = ⟨EndDevice.initial ⟨5⟩ lateWindows Region.eu868.defaultPlan, { capacity := 8 }⟩ ∧
      before = w₀.played [some (.send [1, 2, 3] 1 true), some .txFinished, none, none, none, none,
        none, some (.editPlan .empty)] ∧
      w = w₀.afterAll before ∧ t = alone w.timeline .txFinished ∧
      ts = (w.after t).played [none, none, none, none] ∧
      w.device.held.map (·.transmissions) = some 2 ∧
      ((w.after t).afterAll ts).device.alarms.windowsPending = false ∧
      ∃ c rate, EndDevice.LastAired .eu868 w₀.device before c rate ∧
        ∃ i j first second,
          first.micros = w.timeline.now.micros + 3000000 ∧
          second.micros = first.micros + 1000000 ∧
          GoesOff .openRx1 i first (Opens .first c.replyFrequency (Region.eu868.rx1Rate rate 2) 8)
            (w.after t) ts ∧
          GoesOff .openRx2 j second (Opens .second 869000000 (.ok 3) 8) (w.after t) ts := by
  let script : List (Option Op) := [some (.send [1, 2, 3] 1 true), some .txFinished, none, none,
    none, none, none, some (.editPlan .empty)]
  obtain ⟨w₀, hw₀⟩ : ∃ w₀ : Station, w₀ =
      ⟨EndDevice.initial ⟨5⟩ lateWindows Region.eu868.defaultPlan, { capacity := 8 }⟩ := ⟨_, rfl⟩
  obtain ⟨before, hbefore⟩ : ∃ before, before = w₀.played script := ⟨_, rfl⟩
  obtain ⟨w, hw⟩ : ∃ w, w = w₀.afterAll before := ⟨_, rfl⟩
  obtain ⟨t, ht⟩ : ∃ t, t = alone w.timeline .txFinished := ⟨_, rfl⟩
  obtain ⟨ts, hts⟩ : ∃ ts, ts = (w.after t).played [none, none, none, none] := ⟨_, rfl⟩
  have hrun : w₀.played (script ++ [some .txFinished, none, none, none, none]) =
      before ++ [t] ++ ts := by
    rw [played_append, ← hbefore, ← hw, List.append_assoc, hts, ht]
    rfl
  have hdriven : w₀.Driven (before ++ [t] ++ ts) := by
    rw [← hrun]
    refine driven_played ?_ ?_ ?_
    · rw [hw₀]
      exact Timeline.kept_of_empty rfl
    · simp [script]
    · rw [hw₀]
      decide +kernel
  obtain ⟨hfirst, hrest⟩ := driven_append.mp hdriven
  have hafter : w₀.afterAll (before ++ [t]) = w.after t := by
    rw [afterAll_append, ← hw]
    rfl
  rw [hafter] at hrest
  -- Each of these facts is evaluated for itself, on the run spelled out.
  have hon : w.device.transmitting = true := by
    rw [hw, hbefore, hw₀]
    decide +kernel
  have hdeaf : (w.after t).device.downlinks .eu868 ts = [] := by
    rw [hts, ht, hw, hbefore, hw₀]
    decide +kernel
  have hclosed : ((w.after t).afterAll ts).device.alarms.windowsPending = false := by
    rw [hts, ht, hw, hbefore, hw₀]
    decide +kernel
  have hfar : w.timeline.now.micros + 3600000000 ≤ horizon := by
    rw [hw, hbefore, hw₀]
    decide +kernel
  have hsettings : w.device.settings = lateWindows := by
    rw [hw, hbefore, hw₀]
    decide +kernel
  have htwice : w.device.held.map (·.transmissions) = some 2 := by
    rw [hw, hbefore, hw₀]
    decide +kernel
  rw [hw₀] at hw hfirst
  obtain ⟨c, rate, hlast, i, j, first, second, hopen, hopen', hall⟩ :=
    windows_on_time rfl hw hfirst (by rw [ht]; rfl) hon (by rw [ht]; exact hfar)
  have hgoes := hall ts hrest hdeaf
  rw [hsettings] at hopen hgoes
  refine ⟨w₀, w, before, ts, t, hw₀, hbefore, hw₀ ▸ hw, ht, hts, htwice, hclosed, c, rate, ?_, i, j,
    first, second, ?_, hopen', hgoes⟩
  · rw [hw₀]
    exact hlast
  · rw [ht] at hopen
    exact hopen

end Station

end LoraLink
