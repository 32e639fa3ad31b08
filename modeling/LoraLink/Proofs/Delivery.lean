import LoraLink.Gateway
import LoraLink.Proofs.Encoding
import LoraLink.Proofs.Repeats

/-!
# What goes on air is what was asked for

The frame of an uplink is put together anew for each transmission. What its sender gave stays as it
was: the payload, the port, whether it is confirmed; and so do the counter and the data rate, which
the call that sent it has fixed. What changes is what goes along, the flags and the commands that
are queued by then.

So a frame on air, whether a first one or a repeat, can be traced back to one call, the last before
it that sent a new uplink. Between two such calls the counter of the device does not move, whatever
fails or is repeated, so uplinks have consecutive counters. A gateway hands on whatever it hears of
them.
-/

namespace LoraLink

/-! ## At the gateway -/

/-- A gateway hands on the frames it can read as uplinks, byte by byte. -/
theorem Gateway.receive_uplink {τ : Type} {bytes : List UInt8} {f : DataFrame}
    (hdecode : DataFrame.decode bytes = .ok f) (hup : f.direction = .up) (reception : Reception)
    (s : Session Gateway τ) : (receive bytes reception).run s =
      (.ok (), s.did [.event (.uplinkReceived bytes reception)]) := by
  unfold receive
  rw [hdecode]
  dsimp only
  rw [if_pos hup, Call.run_report]

namespace EndDevice

/-! ## What goes along -/

/-- As many of the queued commands go along, from the first on, as there is room for. -/
structure GoesAlong (queue options : List Command) : Prop where
  start : options <+: queue
  fits : (Command.encodeAll options).length ≤ maxOptionsLength
  longest : ∀ cs : List Command, cs <+: queue →
    (Command.encodeAll cs).length ≤ maxOptionsLength → cs <+: options

theorem goesAlong_nextOptions (d : EndDevice) : GoesAlong d.queue d.nextOptions where
  start := fitting_prefix _ _
  fits := by
    rw [Command.length_encodeAll]
    exact sizeAll_fitting _ _
  longest := by
    intro cs hstart hfits
    rw [Command.length_encodeAll] at hfits
    exact prefix_fitting hstart hfits

/-! ## What a frame says -/

/--
The frame `x`, which the device `d` put on air, is decoded to `f` and says what a call to send was
given, under a counter. It is sent at a data rate.
-/
structure Says (r : Region) (payload : List UInt8) (port : UInt8) (confirmed : Bool)
    (counter : UInt16) (rate : DataRate) (d : EndDevice) (x : Transmission) (f : DataFrame) :
    Prop where
  decoded : DataFrame.decode x.frame = .ok f
  type : f.type = .data .up confirmed
  direction : f.direction = .up
  address : f.header.address = d.address
  counter : f.header.counter = counter
  /-- There is a port just if there is something to say. -/
  port : f.port = if payload = [] then none else some port
  payload : f.payload = payload
  options : GoesAlong d.queue f.header.options
  /-- There is nothing else among the options. -/
  optionsLength : f.header.control.optionsLength = (Command.encodeAll f.header.options).length
  commands : f.commands = (f.header.options, none)
  modulation : r.modulation rate = .ok x.config.modulation

variable {r : Region}

/-- A frame of an uplink says the uplink. -/
theorem says_of_frame {d : EndDevice} {u : HeldUplink} {x : Transmission}
    (hframe : d.frame r u = .ok x.frame) (hrate : r.modulation u.rate = .ok x.config.modulation) :
    ∃ f, Says r u.payload u.port u.confirmed u.counter u.rate d x f := by
  obtain ⟨hwritable, hbytes⟩ := frame_eq_ok r hframe
  have hread := hwritable.readAs
  -- On the port of commands there would be no payload, and so no port.
  have hport : (d.draft r u).port ≠ some 0 := by
    intro hzero
    have hnone : (d.draft r u).port = none := if_pos (hwritable.placed hzero)
    rw [hnone] at hzero
    cases hzero
  have hoptions : (Draft.reading (d.draft r u) u.payload d.nextOptions).header.options =
      d.nextOptions := if_neg hport
  refine ⟨Draft.reading (d.draft r u) u.payload d.nextOptions, ?_⟩
  exact
    { decoded := by rw [hbytes]; exact hwritable.decode_bytes
      type := hread.type
      direction := rfl
      address := rfl
      counter := rfl
      port := rfl
      payload := if_neg hport
      options := by rw [hoptions]; exact d.goesAlong_nextOptions
      optionsLength := by rw [hoptions, hread.optionsLength, if_neg hport]
      commands := by rw [hoptions]; exact hread.commands
      modulation := hrate }

variable {σ : Type} [Host σ]

theorem Aired.says {d : EndDevice} {t : Turn σ} {u : HeldUplink} {a : Airing}
    (h : Aired r (t.session d) u a) :
    ∃ f, Says r u.payload u.port u.confirmed u.counter u.rate d (a.transmission t.host) f := by
  obtain ⟨b, _, hconfig⟩ := h.config_eq
  refine says_of_frame h.frame ?_
  have hmodulation : (a.transmission t.host).config.modulation = a.modulation := by
    change a.config.modulation = a.modulation
    rw [hconfig]
  rw [hmodulation]
  exact h.modulation

/-! ## Who the device is and what it counts -/

/-- **Only a call that sends a new uplink moves the counter**, and by one. -/
theorem identity_step (t : Turn σ) (d : EndDevice) :
    (t.after r d).address = d.address ∧
      (t.after r d).counter = if t.launches r d = true then d.counter + 1 else d.counter := by
  -- Address and counter belong to the link, so they are what they are there.
  have hlink : ∀ {x y : EndDevice}, y.link = x.link →
      x.address = d.address ∧ x.counter = d.counter →
      y.address = d.address ∧ y.counter = d.counter := by
    intro x y hxy hx
    have haddress : y.address = x.address := (congrArg EndDevice.address hxy :)
    have hcounter : y.counter = x.counter := (congrArg EndDevice.counter hxy :)
    exact ⟨haddress.trans hx.1, hcounter.trans hx.2⟩
  cases hlaunch : t.launches r d with
  | true =>
    rw [if_pos rfl]
    obtain ⟨hop, hok⟩ := Turn.result_of_launches r hlaunch
    cases hsend : t.op with
    | send payload port confirmed =>
      obtain ⟨a, _, hafter, _⟩ := Turn.launched hsend hok
      have hcounted := countUplink_cases r (EndDevice.supersede d.held
        (d.onAir (d.newUplink r payload port confirmed) a.channel a.plan))
      rw [hafter]
      exact hcounted.identity
    | _ =>
      rw [hsend] at hop
      cases hop
  | false =>
    rw [if_neg Bool.false_ne_true]
    have heffect := t.effect r d
    unfold Turn.launches at hlaunch
    unfold Turn.after
    generalize t.result r d = res at heffect hlaunch
    generalize (t.made r d).2 = s' at heffect ⊢
    cases heffect with
    | kept hx link _ _ _ => exact hlink link hx.identity
    | released _ hx link _ _ _ _ _ => exact hlink link hx.identity
    | gaveUp _ _ _ link _ _ _ => exact hlink link ⟨rfl, rfl⟩
    | lost _ _ _ link _ _ _ => exact hlink link ⟨rfl, rfl⟩
    | repeated _ _ _ _ node _ =>
      rw [node]
      exact ⟨rfl, rfl⟩
    | launched hop _ _ _ _ =>
      rw [hop] at hlaunch
      cases hlaunch

theorem address_run (d : EndDevice) (ts : List (Turn σ)) :
    (d.afterAll r ts).address = d.address := by
  induction ts generalizing d with
  | nil => rfl
  | cons t rest ih => exact (ih (t.after r d)).trans (identity_step t d).1

/-- The counter stands still as long as no new uplink is sent. -/
theorem counter_run {d : EndDevice} {ts : List (Turn σ)} (hnew : d.undisturbed r ts = true) :
    (d.afterAll r ts).counter = d.counter := by
  induction ts generalizing d with
  | nil => rfl
  | cons t rest ih =>
    obtain ⟨hhead, htail⟩ := Bool.and_eq_true_iff.mp hnew
    have hlaunch : t.launches r d = false := by simpa using hhead
    have hstep := (identity_step (r := r) t d).2
    rw [hlaunch, if_neg Bool.false_ne_true] at hstep
    exact (ih htail).trans hstep

/-! ## Which call a frame goes back to -/

/--
The frame `x` that the call `t` puts on air after the calls `before` goes back to the call `t₀`
after the calls `pre`: up to `t`, no later call has sent a new uplink.
-/
structure FrameOf (r : Region) (d : EndDevice) (pre : List (Turn σ)) (t₀ : Turn σ)
    (before : List (Turn σ)) (t : Turn σ) (x : Transmission) : Prop where
  onAir : x ∈ t.transmissions r (d.afterAll r before)
  sent : t₀.launches r (d.afterAll r pre) = true
  last : ∃ post, before ++ [t] = pre ++ t₀ :: post ∧
    (t₀.after r (d.afterAll r pre)).undisturbed r post = true

/-- Where no uplink was held at first, every frame goes back to a call. -/
theorem exists_frameOf {d : EndDevice} (hnone : d.held = none) {before : List (Turn σ)}
    {t : Turn σ} {x : Transmission} (hx : x ∈ t.transmissions r (d.afterAll r before)) :
    ∃ pre t₀, FrameOf r d pre t₀ before t x := by
  rcases last_launch r d (before ++ [t]) with hquiet | ⟨pre, t₀, post, heq, hlaunch, hpost⟩
  · -- Then nothing at all was on air.
    have hsilent := silent_of_none hnone hquiet
    rw [transmissions_append] at hsilent
    have hmem : x ∈ (d.afterAll r before).transmissions r [t] := List.mem_append_left _ hx
    rw [(List.append_eq_nil_iff.mp hsilent).2] at hmem
    cases hmem
  · exact ⟨pre, t₀, hx, hlaunch, post, heq, hpost⟩

/-- A call that sends a new uplink puts a frame on air that goes back to it. -/
theorem frameOf_of_launches {d : EndDevice} {pre : List (Turn σ)} {t₀ : Turn σ}
    (hsent : t₀.launches r (d.afterAll r pre) = true) : ∃ x, FrameOf r d pre t₀ pre t₀ x := by
  obtain ⟨hop, hok⟩ := Turn.result_of_launches r hsent
  cases hsend : t₀.op with
  | send payload port confirmed =>
    obtain ⟨a, _, hone⟩ := launched_airing hsend hok
    refine ⟨a.transmission t₀.host, ?_, hsent, [], rfl, rfl⟩
    rw [hone]
    exact List.mem_singleton_self _
  | _ =>
    rw [hsend] at hop
    cases hop

/-- A frame is put on air by the call it goes back to, or it is a repeat. -/
theorem FrameOf.cases {d : EndDevice} {pre before : List (Turn σ)} {t₀ t : Turn σ}
    {x : Transmission} (h : FrameOf r d pre t₀ before t x) :
    (before = pre ∧ t = t₀) ∨ ∃ mid, before = pre ++ t₀ :: mid ∧
      (t₀.after r (d.afterAll r pre)).undisturbed r mid = true ∧
      t.launches r (d.afterAll r before) = false := by
  obtain ⟨post, heq, hpost⟩ := h.last
  rcases List.eq_nil_or_concat post with rfl | ⟨mid, t', rfl⟩
  · -- No call comes after it, so it is the last itself.
    obtain ⟨hbefore, htail⟩ := List.append_inj' heq rfl
    exact Or.inl ⟨hbefore, List.singleton_inj.mp htail⟩
  · rw [List.concat_eq_append] at heq hpost
    have hsplit : before ++ [t] = (pre ++ t₀ :: mid) ++ [t'] := by
      rw [heq, List.append_assoc, List.cons_append]
    obtain ⟨rfl, htail⟩ := List.append_inj' hsplit rfl
    obtain rfl := List.singleton_inj.mp htail
    obtain ⟨hmid, hlast⟩ := undisturbed_append r hpost
    have hlaunch : t.launches r ((t₀.after r (d.afterAll r pre)).afterAll r mid) = false := by
      simpa using (Bool.and_eq_true_iff.mp hlast).1
    refine Or.inr ⟨mid, rfl, hmid, ?_⟩
    rw [afterAll_append]
    exact hlaunch

/-- **A frame says what the call was given that it goes back to**, under the counter and at the data
rate that the device had when it was called. -/
theorem FrameOf.says {d : EndDevice} (hholding : Holding d) {pre before : List (Turn σ)}
    {t₀ t : Turn σ} {x : Transmission} (h : FrameOf r d pre t₀ before t x) {payload : List UInt8}
    {port : UInt8} {confirmed : Bool} (hop : t₀.op = .send payload port confirmed) :
    ∃ f, Says r payload port confirmed (d.afterAll r pre).counter
      ((d.afterAll r pre).settings.txDataRate.getD r.defaultRate) (d.afterAll r before) x f := by
  have hx := h.onAir
  have hok := (Turn.result_of_launches r h.sent).2
  rcases h.cases with ⟨rfl, rfl⟩ | ⟨mid, rfl, hmid, hlaunch⟩
  · obtain ⟨a, hair, hone⟩ := launched_airing hop hok
    rw [hone] at hx
    obtain rfl := List.mem_singleton.mp hx
    exact hair.says
  · -- The uplink that is held is still that of the call.
    have hstanding := standing_run (standing_launched hop hok)
      (holding_step (holding_run hholding pre) t₀) hmid
    rw [afterAll_append] at hx hlaunch ⊢
    obtain ⟨u, a, hheld, hair, rfl⟩ := own_airing hlaunch hx
    have hsame := (hstanding.of_some hheld).1
    obtain ⟨f, hsays⟩ := hair.says
    rw [hsame.payload, hsame.port, hsame.confirmed, hsame.counter, hsame.rate] at hsays
    exact ⟨f, hsays⟩

/-- From one call that sends a new uplink to the next, the counter moves by one. -/
theorem counter_of_launches {d : EndDevice} {pre post : List (Turn σ)} {t₀ : Turn σ}
    (hsent : t₀.launches r (d.afterAll r pre) = true)
    (hpost : (t₀.after r (d.afterAll r pre)).undisturbed r post = true) :
    (d.afterAll r (pre ++ t₀ :: post)).counter = (d.afterAll r pre).counter + 1 := by
  have hstep := (identity_step (r := r) t₀ (d.afterAll r pre)).2
  rw [if_pos hsent] at hstep
  have hrun := counter_run hpost
  rw [afterAll_append]
  exact hrun.trans hstep

/-! ## All frames of a run -/

/-- The two frames say the same but for what goes along. -/
structure Agree (x : Transmission) (f : DataFrame) (x' : Transmission) (f' : DataFrame) :
    Prop where
  payload : f'.payload = f.payload
  port : f'.port = f.port
  confirmed : f'.isConfirmed = f.isConfirmed
  counter : f'.header.counter = f.header.counter
  modulation : x'.config.modulation = x.config.modulation

theorem Says.agree {payload : List UInt8} {port : UInt8} {confirmed : Bool} {counter : UInt16}
    {rate : DataRate} {d d' : EndDevice} {x x' : Transmission} {f f' : DataFrame}
    (h : Says r payload port confirmed counter rate d x f)
    (h' : Says r payload port confirmed counter rate d' x' f') : Agree x f x' f' where
  payload := h'.payload.trans h.payload.symm
  port := h'.port.trans h.port.symm
  confirmed := congrArg MessageType.isConfirmed (h'.type.trans h.type.symm)
  counter := h'.counter.trans h.counter.symm
  modulation := Except.ok.inj (h'.modulation.symm.trans h.modulation)

/-- The frames of one call have the counter that the device had when it was called. -/
theorem FrameOf.counter {d : EndDevice} (hholding : Holding d) {pre before : List (Turn σ)}
    {t₀ t : Turn σ} {x : Transmission} (h : FrameOf r d pre t₀ before t x) {f : DataFrame}
    (hf : DataFrame.decode x.frame = .ok f) : f.header.counter = (d.afterAll r pre).counter := by
  have hop := (Turn.result_of_launches r h.sent).1
  cases hsend : t₀.op with
  | send payload port confirmed =>
    obtain ⟨g, hg⟩ := h.says hholding hsend
    rw [Except.ok.inj (hf.symm.trans hg.decoded)]
    exact hg.counter
  | _ =>
    rw [hsend] at hop
    cases hop

/--
**What goes on air is what was asked for.**

The device may be called in any order, by hosts whose clocks, radios and random numbers behave in
any way, and hear anything. A call that sends an uplink puts a frame on air, and each frame that the
radio accepts goes back to such a call. It says the payload that the call was given, the port if
there is a payload, whether it is confirmed, and the counter that the device had then; along with it
goes what was queued just before it went on air; and a gateway that hears it hands it on as it is.
All frames of one call agree, and those of the next call that sends an uplink have the next counter,
modulo 2^16, whatever has failed or was repeated in between.
-/
theorem on_air_as_asked (r : Region) (address : DeviceAddress) (settings : Settings) (plan : Plan) :
    let init := initial address settings plan
    (∀ (pre : List (Turn σ)) (t₀ : Turn σ), t₀.launches r (init.afterAll r pre) = true →
      ∃ x, FrameOf r init pre t₀ pre t₀ x) ∧
    (∀ (before : List (Turn σ)) (t : Turn σ) (x : Transmission),
      x ∈ t.transmissions r (init.afterAll r before) →
      ∃ pre t₀, FrameOf r init pre t₀ before t x) ∧
    (∀ (pre : List (Turn σ)) (t₀ : Turn σ) (payload : List UInt8) (port : UInt8) (confirmed : Bool)
      (before : List (Turn σ)) (t : Turn σ) (x : Transmission),
      t₀.op = .send payload port confirmed → FrameOf r init pre t₀ before t x →
      ∃ f, Says r payload port confirmed (init.afterAll r pre).counter
          ((init.afterAll r pre).settings.txDataRate.getD r.defaultRate)
          (init.afterAll r before) x f ∧
        f.header.address = address ∧
        ∀ {τ : Type} (reception : Reception) (s : Session Gateway τ),
          (Gateway.receive x.frame reception).run s =
            (.ok (), s.did [.event (.uplinkReceived x.frame reception)])) ∧
    (∀ (pre : List (Turn σ)) (t₀ : Turn σ) (before before' : List (Turn σ)) (t t' : Turn σ)
      (x x' : Transmission) (f f' : DataFrame),
      FrameOf r init pre t₀ before t x → FrameOf r init pre t₀ before' t' x' →
      DataFrame.decode x.frame = .ok f → DataFrame.decode x'.frame = .ok f' → Agree x f x' f') ∧
    ∀ (pre post : List (Turn σ)) (t₀ t₁ : Turn σ) (before before' : List (Turn σ)) (t t' : Turn σ)
      (x x' : Transmission) (f f' : DataFrame),
      FrameOf r init pre t₀ before t x →
      (t₀.after r (init.afterAll r pre)).undisturbed r post = true →
      FrameOf r init (pre ++ t₀ :: post) t₁ before' t' x' →
      DataFrame.decode x.frame = .ok f → DataFrame.decode x'.frame = .ok f' →
      f'.header.counter.toNat = (f.header.counter.toNat + 1) % 65536 := by
  intro init
  have hholding : Holding init := holding_init address settings plan
  refine ⟨fun pre t₀ hsent => frameOf_of_launches hsent, fun before t x hx => exists_frameOf rfl hx,
    ?_, ?_, ?_⟩
  · intro pre t₀ payload port confirmed before t x hop hframe
    obtain ⟨f, hsays⟩ := hframe.says hholding hop
    have haddress : f.header.address = address := hsays.address.trans (address_run init before)
    exact ⟨f, hsays, haddress, Gateway.receive_uplink hsays.decoded hsays.direction⟩
  · intro pre t₀ before before' t t' x x' f f' hframe hframe' hf hf'
    have hsend := (Turn.result_of_launches r hframe.sent).1
    cases hop : t₀.op with
    | send payload port confirmed =>
      obtain ⟨g, hg⟩ := hframe.says hholding hop
      obtain ⟨g', hg'⟩ := hframe'.says hholding hop
      -- A frame is decoded in one way only, so it is the frame that was spoken of.
      have hsame : f = g := Except.ok.inj (hf.symm.trans hg.decoded)
      have hsame' : f' = g' := Except.ok.inj (hf'.symm.trans hg'.decoded)
      rw [hsame, hsame']
      exact hg.agree hg'
    | _ =>
      rw [hop] at hsend
      cases hsend
  · intro pre post t₀ t₁ before before' t t' x x' f f' hframe hpost hframe' hf hf'
    -- Both counters are those of the device at the sends, with one launch in between.
    rw [hframe.counter hholding hf, hframe'.counter hholding hf',
      counter_of_launches hframe.sent hpost]
    exact UInt16.toNat_add _ _

/-- The repeat of a confirmed uplink says what was asked for at first. It is acknowledged, and then
an uplink that is not confirmed goes out, under the next counter. -/
theorem on_air_as_asked_repeated :
    let init := initial ⟨5⟩ {} Region.eu868.defaultPlan
    let first := Turn.onBench 0 (.send [1, 2, 3] 1 true)
    let again := Turn.onBench 200 (.alarm ⟨0⟩ .retransmit)
    let next := Turn.onBench 400 (.send [9] 2 false)
    ∃ x f x' f', again.transmissions .eu868 (init.afterAll .eu868 unansweredRun) = [x] ∧
      Says .eu868 [1, 2, 3] 1 true 0 0 (init.afterAll .eu868 unansweredRun) x f ∧
      next.transmissions .eu868
        (init.afterAll .eu868 (first :: (unansweredRun.tail ++ acknowledgedRun))) = [x'] ∧
      DataFrame.decode x'.frame = .ok f' ∧ f'.header.counter.toNat = 1 ∧
      f'.isConfirmed = false ∧ f'.port = some 2 ∧ f'.payload = [9] := by
  intro init first again next
  let later := unansweredRun.tail ++ acknowledgedRun
  -- One frame of each exchange is looked at: a repeat, and the first of the next uplink.
  have hone : (again.transmissions .eu868 (init.afterAll .eu868 unansweredRun)).length = 1 := by
    decide +kernel
  have hone' : (next.transmissions .eu868 (init.afterAll .eu868 (first :: later))).length = 1 := by
    decide +kernel
  obtain ⟨x, hx⟩ := List.length_eq_one_iff.mp hone
  obtain ⟨x', hx'⟩ := List.length_eq_one_iff.mp hone'
  have hsent : first.launches .eu868 init = true := by decide +kernel
  have hsent' : next.launches .eu868 (init.afterAll .eu868 (first :: later)) = true := by
    decide +kernel
  have hquiet : (first.after .eu868 init).undisturbed .eu868 later = true := by decide +kernel
  have hrepeat : (first.after .eu868 init).undisturbed .eu868 (unansweredRun.tail ++ [again]) =
      true := by
    decide +kernel
  have hframe : FrameOf .eu868 init [] first unansweredRun again x :=
    ⟨by rw [hx]; exact List.mem_singleton_self x, hsent, unansweredRun.tail ++ [again], rfl,
      hrepeat⟩
  have hframe' : FrameOf .eu868 init (first :: later) next (first :: later) next x' :=
    ⟨by rw [hx']; exact List.mem_singleton_self x', hsent', [], rfl, rfl⟩
  obtain ⟨_, _, hsays, _, hcounter⟩ :=
    on_air_as_asked (σ := Simulation.View) .eu868 ⟨5⟩ {} Region.eu868.defaultPlan
  obtain ⟨f, h, _⟩ := hsays [] first [1, 2, 3] 1 true unansweredRun again x rfl hframe
  obtain ⟨f', h', _⟩ := hsays _ next [9] 2 false _ next x' rfl hframe'
  refine ⟨x, f, x', f', hx, h, hx', h'.decoded, ?_, ?_, h'.port, h'.payload⟩
  · rw [hcounter [] later first next unansweredRun _ again next x x' f f' hframe hquiet hframe'
      h.decoded h'.decoded, h.counter]
    rfl
  · exact congrArg MessageType.isConfirmed h'.type

end EndDevice
end LoraLink
