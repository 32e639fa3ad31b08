import LoraLink.Proofs.Queue

/-!
# Acknowledgements

A confirmed downlink is acknowledged by a flag of the next frame on air, whatever that frame is for.
The device has one bit to remember it by. The bit stays set through everything that puts no frame
on air: calls that are refused or fail, frames for others, downlinks that ask for no
acknowledgement. It is cleared only once the radio has accepted a frame, and by then the flag of
that frame was set.

So the bit says just what the run so far says: whether a confirmed downlink was heard since the
last frame on air.
-/

namespace LoraLink

/-- The call brings a confirmed downlink for an address. -/
def Turn.Confirms {σ : Type} (t : Turn σ) (address : DeviceAddress) : Prop :=
  ∃ bytes reception f, t.op = .receive bytes reception ∧ DataFrame.decode bytes = .ok f ∧
    f.direction = .down ∧ f.header.address = address ∧ f.isConfirmed = true

theorem FrameControl.ack_setAck (c : FrameControl) (b : Bool) : (c.setAck b).ack = b :=
  Byte.flag_withFlag c.raw (by decide) b

namespace EndDevice

theorem downlink?_eq_some {d : EndDevice} {bytes : List UInt8} {f : DataFrame} :
    d.downlink? bytes = some f ↔
      DataFrame.decode bytes = .ok f ∧ f.direction = .down ∧ f.header.address = d.address := by
  unfold downlink?
  cases DataFrame.decode bytes with
  | error e => simp
  | ok f' =>
    simp only [Option.ite_none_right_eq_some, Option.some.injEq, Except.ok.injEq]
    constructor
    · rintro ⟨h, rfl⟩
      exact ⟨rfl, h⟩
    · rintro ⟨rfl, h⟩
      exact ⟨h, rfl⟩

theorem confirms_iff {σ : Type} {t : Turn σ} {d : EndDevice} {bytes : List UInt8}
    {reception : Reception} (hop : t.op = .receive bytes reception) :
    t.Confirms d.address ↔ ∃ f, d.downlink? bytes = some f ∧ f.isConfirmed = true := by
  simp only [Turn.Confirms, hop, Op.receive.injEq, downlink?_eq_some]
  constructor
  · rintro ⟨_, _, f, ⟨rfl, rfl⟩, hdecode, hdown, haddress, hconfirmed⟩
    exact ⟨f, ⟨hdecode, hdown, haddress⟩, hconfirmed⟩
  · rintro ⟨f, ⟨hdecode, hdown, haddress⟩, hconfirmed⟩
    exact ⟨bytes, reception, f, ⟨rfl, rfl⟩, hdecode, hdown, haddress, hconfirmed⟩

/-- The device acknowledges in its next frame just if an acknowledgement is due. -/
theorem ack_control (r : Region) (d : EndDevice) : (d.control r).ack = d.ackDue :=
  FrameControl.ack_setAck _ _

variable {σ : Type} [Host σ] {r : Region}

/-! ## The flag of a frame on air -/

/-- Writing the length of the options leaves the flags as they are. -/
theorem flags_of_transmission {t : Turn σ} {d : EndDevice} {x : Transmission}
    (hx : x ∈ t.transmissions r d) :
    ∃ f, DataFrame.decode x.frame = .ok f ∧ f.header.control.direction = .up ∧
      ∀ i, 4 ≤ i → Byte.flag f.header.control.raw i = Byte.flag (d.control r).raw i := by
  rcases t.link_cases r d with ⟨hsilent, _⟩ | ⟨u, a, hone, hair, _, _⟩
  · rw [hsilent] at hx
    cases hx
  · rw [hone] at hx
    obtain rfl := List.mem_singleton.mp hx
    have hframe : d.frame r u = .ok a.frame := hair.frame
    obtain ⟨hwritable, hbytes⟩ := frame_eq_ok r hframe
    refine ⟨(d.draft r u).reading u.payload d.nextOptions, ?_, rfl, ?_⟩
    · change DataFrame.decode a.frame = _
      rw [hbytes]
      exact hwritable.decode_bytes
    · intro i hi
      exact Byte.flag_of_highNibble hwritable.readAs.flags hi

theorem ack_of_transmission {t : Turn σ} {d : EndDevice} {x : Transmission}
    (hx : x ∈ t.transmissions r d) :
    ∃ f, DataFrame.decode x.frame = .ok f ∧ f.header.control.ack = d.ackDue := by
  obtain ⟨f, hdecode, _, hflags⟩ := flags_of_transmission hx
  exact ⟨f, hdecode, (hflags 5 (by decide)).trans (ack_control r d)⟩

/-! ## The bit in a call -/

/-- A call that brings a confirmed downlink puts no frame on air. -/
theorem transmissions_of_confirms {t : Turn σ} {d : EndDevice} {address : DeviceAddress}
    (h : t.Confirms address) : t.transmissions r d = [] := by
  obtain ⟨bytes, reception, f, hop, -⟩ := h
  exact (link_receive hop).1

/-- A frame that is received sets the bit, or leaves it as it is. -/
theorem ackDue_receive {t : Turn σ} {d : EndDevice} {bytes : List UInt8} {reception : Reception}
    (hop : t.op = .receive bytes reception) :
    (t.after r d).ackDue = true ↔ d.ackDue = true ∨ t.Confirms d.address := by
  obtain ⟨-, hlink⟩ := link_receive (r := r) (d := d) hop
  have hconfirms := confirms_iff (d := d) hop
  cases hframe : d.downlink? bytes with
  | none =>
    rw [hframe] at hlink hconfirms
    have hsame : (t.after r d).ackDue = d.ackDue := (congrArg EndDevice.ackDue hlink :)
    simp [hsame, hconfirms]
  | some frame =>
    rw [hframe] at hlink hconfirms
    -- Of all that a downlink does only its being confirmed matters here.
    let status : Status := ⟨reception, Host.battery t.host, Host.externalPower t.host⟩
    obtain ⟨plan, settings, queue, heq⟩ := heeded_eq r status d frame
    have hsame : (t.after r d).ackDue = (d.heeded r status frame).1.ackDue :=
      (congrArg EndDevice.ackDue hlink :)
    have htaken : (d.heeded r status frame).1.ackDue = (d.ackDue || frame.isConfirmed) := by
      rw [heq]
    simp [hsame, htaken, hconfirms]

/-- Any other call clears it with a frame on air, or leaves it as it is. -/
theorem ackDue_deaf {t : Turn σ} {d : EndDevice}
    (hop : ∀ bytes reception, t.op ≠ .receive bytes reception) :
    (t.after r d).ackDue = true ↔ t.transmissions r d = [] ∧ d.ackDue = true := by
  rcases t.link_cases r d with ⟨hsilent, x, hx, hlink⟩ | ⟨u, a, hone, _, _, hclear, _⟩
  · have hsame : (t.after r d).ackDue = x.ackDue := (congrArg EndDevice.ackDue hlink :)
    have hkept : x.ackDue = d.ackDue := by
      cases hx with
      | kept => rfl
      | heard _ hreceive _ => exact absurd hreceive (hop _ _)
      | queued _ _ => rfl
      | edited _ => rfl
    simp [hsame, hkept, hsilent]
  · simp [hclear, hone]

/--
**After a call an acknowledgement is due just if no frame went on air in it, and one was due before
or the call has brought a confirmed downlink.**
-/
theorem ackDue_step (t : Turn σ) (d : EndDevice) :
    (t.after r d).ackDue = true ↔
      t.transmissions r d = [] ∧ (d.ackDue = true ∨ t.Confirms d.address) := by
  by_cases hreceive : ∃ bytes reception, t.op = .receive bytes reception
  · obtain ⟨bytes, reception, hop⟩ := hreceive
    have hsilent : t.transmissions r d = [] := (link_receive hop).1
    rw [ackDue_receive hop]
    simp [hsilent]
  · have hop : ∀ bytes reception, t.op ≠ .receive bytes reception := by
      intro bytes reception heq
      exact hreceive ⟨bytes, reception, heq⟩
    have hnone : ¬t.Confirms d.address := by
      rintro ⟨bytes, reception, f, heq, -⟩
      exact hop bytes reception heq
    rw [ackDue_deaf hop]
    simp [hnone]

/-! ## The bit in a run -/

/-- In a run, a confirmed downlink was heard, and no frame has gone on air since. -/
def Owes (r : Region) (d : EndDevice) (ts : List (Turn σ)) : Prop :=
  ∃ pre u post, ts = pre ++ u :: post ∧ u.Confirms d.address ∧
    (d.afterAll r (pre ++ [u])).transmissions r post = []

/-- The downlink was heard in the first call, or later. -/
theorem owes_cons {d : EndDevice} {t : Turn σ} {rest : List (Turn σ)} :
    Owes r d (t :: rest) ↔
      (t.Confirms d.address ∧ (t.after r d).transmissions r rest = []) ∨
        Owes r (t.after r d) rest := by
  -- The address stays, so a downlink is for the device now just if it is for the device later.
  have haddress : (t.after r d).address = d.address := (identity_step t d).1
  constructor
  · rintro ⟨pre, u, post, heq, hconfirms, hsilent⟩
    cases pre with
    | nil =>
      obtain ⟨rfl, rfl⟩ := List.cons_eq_cons.mp heq
      exact Or.inl ⟨hconfirms, hsilent⟩
    | cons t' pre =>
      obtain ⟨rfl, rfl⟩ := List.cons_eq_cons.mp heq
      rw [← haddress] at hconfirms
      exact Or.inr ⟨pre, u, post, rfl, hconfirms, hsilent⟩
  · rintro (⟨hconfirms, hsilent⟩ | ⟨pre, u, post, rfl, hconfirms, hsilent⟩)
    · exact ⟨[], t, rest, rfl, hconfirms, hsilent⟩
    · rw [haddress] at hconfirms
      exact ⟨t :: pre, u, post, rfl, hconfirms, hsilent⟩

/--
**After a run an acknowledgement is due just if one was due before and no frame has gone on air, or
a confirmed downlink was heard since the last frame.**
-/
theorem ackDue_run (d : EndDevice) (ts : List (Turn σ)) :
    (d.afterAll r ts).ackDue = true ↔
      (d.ackDue = true ∧ d.transmissions r ts = []) ∨ Owes r d ts := by
  induction ts generalizing d with
  | nil =>
    have hnone : ¬Owes r d ([] : List (Turn σ)) := by
      rintro ⟨pre, u, post, heq, -⟩
      cases pre <;> cases heq
    simp [afterAll, transmissions, hnone]
  | cons t rest ih =>
    -- What a confirmed downlink makes due in the first call is not cleared in that call.
    have hquiet : t.Confirms d.address → t.transmissions r d = [] := transmissions_of_confirms
    have hsilent : d.transmissions r (t :: rest) = [] ↔
        t.transmissions r d = [] ∧ (t.after r d).transmissions r rest = [] :=
      List.append_eq_nil_iff
    rw [afterAll, ih, ackDue_step, owes_cons, hsilent]
    constructor
    · rintro (⟨⟨hnow, hdue | hconfirms⟩, hlater⟩ | howes)
      · exact Or.inl ⟨hdue, hnow, hlater⟩
      · exact Or.inr (Or.inl ⟨hconfirms, hlater⟩)
      · exact Or.inr (Or.inr howes)
    · rintro (⟨hdue, hnow, hlater⟩ | ⟨hconfirms, hlater⟩ | howes)
      · exact Or.inl ⟨⟨hnow, Or.inl hdue⟩, hlater⟩
      · exact Or.inl ⟨⟨hquiet hconfirms, Or.inr hconfirms⟩, hlater⟩
      · exact Or.inr howes

/--
**A frame acknowledges just if a confirmed downlink was heard since the frame before.**

The device may be called in any order, by hosts whose clocks, radios and random numbers behave in
any way, and hear anything. Each frame that the radio accepts, first or repeated, can be read, and
its acknowledgement is set just if among the calls before there is one that has brought a confirmed
downlink for the device, and no frame has gone on air from then on.
-/
theorem acknowledges_iff_owes (r : Region) (address : DeviceAddress) (settings : Settings)
    (plan : Plan) (before : List (Turn σ)) (t : Turn σ) {x : Transmission}
    (hx : x ∈ t.transmissions r ((initial address settings plan).afterAll r before)) :
    ∃ f, DataFrame.decode x.frame = .ok f ∧
      (f.header.control.ack = true ↔ Owes r (initial address settings plan) before) := by
  obtain ⟨f, hdecode, hack⟩ := ack_of_transmission hx
  refine ⟨f, hdecode, ?_⟩
  rw [hack, ackDue_run]
  -- Nothing is due at first.
  constructor
  · rintro (⟨hdue, -⟩ | howes)
    · cases hdue
    · exact howes
  · exact Or.inr

/-! ## An acknowledgement that waits -/

/-- A confirmed downlink for the device on the bench. -/
def confirmedDownlink : Op :=
  .receive [0xA0, 5, 0, 0, 0, 0, 0, 0, 0, 0, 0, 0] ⟨-80, 5⟩

/--
After an exchange with a confirmed downlink, an uplink is refused, and a downlink comes that asks
for no acknowledgement.
-/
def owingRun : List (Turn Simulation.View) :=
  [.onBench 0 (.send [1] 1 false), .onBench 1 .txFinished, .onBench 2 confirmedDownlink,
    .onBench 3 (.send [2] 1 false), .onBench 4 (benchDownlink 1 [])]

/-- The rest of the exchange in which the device acknowledges, with nothing new to acknowledge. -/
def settlingRun : List (Turn Simulation.View) :=
  [.onBench 200 (.send [3] 1 false), .onBench 201 .txFinished, .onBench 202 (benchDownlink 2 [])]

/-- The next frame acknowledges, and the one after it does not. -/
theorem acknowledges_iff_owes_once :
    let init := initial ⟨5⟩ {} Region.eu868.defaultPlan
    let next := Turn.onBench 200 (.send [3] 1 false)
    let last := Turn.onBench 400 (.send [4] 1 false)
    (∃ x f, next.transmissions .eu868 (init.afterAll .eu868 owingRun) = [x] ∧
      DataFrame.decode x.frame = .ok f ∧ f.header.control.ack = true ∧
      Owes .eu868 init owingRun) ∧
    ∃ x f, last.transmissions .eu868 (init.afterAll .eu868 (owingRun ++ settlingRun)) = [x] ∧
      DataFrame.decode x.frame = .ok f ∧ f.header.control.ack = false ∧
      ¬Owes .eu868 init (owingRun ++ settlingRun) := by
  intro init next last
  constructor
  -- The confirmed downlink is owed an answer, though another downlink has come since.
  · have hone : (next.transmissions .eu868 (init.afterAll .eu868 owingRun)).length = 1 := by
      decide +kernel
    obtain ⟨x, hx⟩ := List.length_eq_one_iff.mp hone
    have hmem : x ∈ next.transmissions .eu868 (init.afterAll .eu868 owingRun) := by simp [hx]
    obtain ⟨f, hdecode, hiff⟩ :=
      acknowledges_iff_owes .eu868 ⟨5⟩ {} Region.eu868.defaultPlan owingRun next hmem
    have howes : Owes .eu868 init owingRun :=
      ⟨owingRun.take 2, .onBench 2 confirmedDownlink, owingRun.drop 3, rfl,
        ⟨_, _, _, rfl, rfl, rfl, rfl, rfl⟩, by decide +kernel⟩
    exact ⟨x, f, hx, hdecode, hiff.mpr howes, howes⟩
  -- The frame in between has carried the answer, so nothing is owed any more.
  · have hone : (last.transmissions .eu868
        (init.afterAll .eu868 (owingRun ++ settlingRun))).length = 1 := by
      decide +kernel
    obtain ⟨x, hx⟩ := List.length_eq_one_iff.mp hone
    have hmem : x ∈ last.transmissions .eu868
        (init.afterAll .eu868 (owingRun ++ settlingRun)) := by simp [hx]
    obtain ⟨f, hdecode, hiff⟩ := acknowledges_iff_owes .eu868 ⟨5⟩ {} Region.eu868.defaultPlan
      (owingRun ++ settlingRun) last hmem
    have hclear : (init.afterAll .eu868 (owingRun ++ settlingRun)).ackDue = false := by
      decide +kernel
    have hnone : ¬Owes .eu868 init (owingRun ++ settlingRun) := by
      intro howes
      have hdue := (ackDue_run init (owingRun ++ settlingRun)).mpr (Or.inr howes)
      rw [hclear] at hdue
      cases hdue
    exact ⟨x, f, hx, hdecode, Bool.eq_false_iff.mpr (fun hack => hnone (hiff.mp hack)), hnone⟩

end EndDevice

end LoraLink
