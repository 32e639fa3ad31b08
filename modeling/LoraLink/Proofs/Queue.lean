import LoraLink.Proofs.Delivery
import LoraLink.Proofs.Duplex

/-!
# What becomes of queued commands

Three parts of the device change its queue. Answers and requests are put at its end. When a frame
is on air, as many commands as went along are taken from its front, except that sticky answers stay.
When a downlink is heard, all sticky answers go. The parts have nothing in common but the number of
commands that went along.

For commands that are not sticky this comes out even: what went along, frame by frame, and what is
still queued are together just what was queued, in that order. Sticky answers stay until the next
downlink, and go along with every frame that has room for them. But they go then even if no frame
had room.
-/

namespace LoraLink

namespace Command

/-- Those of some commands that are to go along once. -/
def once (cs : List Command) : List Command := cs.filter (!·.isSticky)

/-- Those that are to go along until a downlink is heard. -/
def sticky (cs : List Command) : List Command := cs.filter isSticky

theorem once_append (cs cs' : List Command) : once (cs ++ cs') = once cs ++ once cs' :=
  List.filter_append _ _

theorem sticky_append (cs cs' : List Command) : sticky (cs ++ cs') = sticky cs ++ sticky cs' :=
  List.filter_append _ _

theorem once_sticky (cs : List Command) : once (sticky cs) = [] := by
  simp [once, sticky]

theorem sticky_once (cs : List Command) : sticky (once cs) = [] := by
  simp [once, sticky]

theorem once_once (cs : List Command) : once (once cs) = once cs := by
  simp [once]

theorem sticky_sticky (cs : List Command) : sticky (sticky cs) = sticky cs := by
  simp [sticky]

end Command

/-- The commands that go along with a frame on air. -/
def Transmission.options (x : Transmission) : List Command :=
  match DataFrame.decode x.frame with
  | .ok f => f.header.options
  | .error _ => []

/-- The downlink for the device that is heard in a call. -/
def Turn.downlink? {σ : Type} (t : Turn σ) (d : EndDevice) : Option DataFrame :=
  match t.op with
  | .receive bytes _ => d.downlink? bytes
  | _ => none

namespace EndDevice

/-! ## Commands that go along -/

/-- Of the commands that went along, only those stay that are sticky. -/
theorem dropSent_append (options rest : List Command) :
    dropSent options.length (options ++ rest) = Command.sticky options ++ rest := by
  induction options with
  | nil => cases rest <;> rfl
  | cons c options ih =>
    rw [List.length_cons, List.cons_append, dropSent, ih]
    by_cases hsticky : c.isSticky = true
    · simp [Command.sticky, hsticky]
    · simp [Command.sticky, hsticky]

theorem GoesAlong.unique {queue options options' : List Command} (h : GoesAlong queue options)
    (h' : GoesAlong queue options') : options = options' := by
  have hprefix : options <+: options' := h'.longest options h.start h.fits
  have hprefix' : options' <+: options := h.longest options' h'.start h'.fits
  exact hprefix.eq_of_length_le hprefix'.length_le

variable {σ : Type}

/-- The end of an exchange touches nothing but the exchange. -/
theorem Settled.sameLink {ack : Bool} {s s' : Session EndDevice σ} (h : Settled ack s s') :
    s'.node.link = s.node.link := by
  cases h with
  | kept _ link _ _ => exact link
  | released _ _ link _ _ _ => exact link

variable [Host σ] (r : Region)

theorem Aired.options {t : Turn σ} {d : EndDevice} {u : HeldUplink} {a : Airing}
    (h : Aired r (t.session d) u a) : (a.transmission t.host).options = d.nextOptions := by
  obtain ⟨f, hread⟩ := h.says
  unfold Transmission.options
  rw [hread.decoded]
  exact hread.options.unique d.goesAlong_nextOptions

/-! ## Commands that are queued -/

/-- A command that is to be queued, if there is one and it finds room. -/
def taken (d : EndDevice) (c : Option Command) : List Command :=
  if d.queue.length < queueCapacity then c.toList else []

/-- The answers to some commands that find room in the queue, as the commands are carried out. -/
def answers (s : Status) (d : EndDevice) : List Command → List Command
  | [] => []
  | c :: rest =>
    let h := d.handled r s c
    h.device.taken h.answer ++ (h.device.queueAnswer h.answer).answers s rest

theorem queueAnswer_queue (d : EndDevice) (c : Option Command) :
    (d.queueAnswer c).queue = d.queue ++ d.taken c := by
  unfold taken
  cases c with
  | none =>
    show d.queue = d.queue ++ _
    simp
  | some c =>
    unfold queueAnswer enqueue?
    dsimp only
    by_cases hroom : d.queue.length < queueCapacity
    · rw [if_pos hroom, if_pos hroom]
      rfl
    · rw [if_neg hroom, if_neg hroom, List.append_nil]
      rfl

theorem handledAll_queue (s : Status) (d : EndDevice) (cs : List Command) :
    (d.handledAll r s cs).1.queue = d.queue ++ d.answers r s cs := by
  induction cs generalizing d with
  | nil => exact (List.append_nil d.queue).symm
  | cons c rest ih =>
    obtain ⟨plan, settings, hdevice, _, _⟩ := (handledAs_handled r s d c).device
    have hqueue : (d.handled r s c).device.queue = d.queue := by rw [hdevice]
    show (((d.handled r s c).device.queueAnswer (d.handled r s c).answer).handledAll r s rest).1.queue
      = d.queue ++ ((d.handled r s c).device.taken (d.handled r s c).answer ++
        ((d.handled r s c).device.queueAnswer (d.handled r s c).answer).answers r s rest)
    rw [ih, queueAnswer_queue, hqueue, List.append_assoc]

end EndDevice

namespace Turn

variable {σ : Type} [Host σ] (r : Region)

/-- The commands that are queued in a call: a request to check the link, or the answers to the
commands of a downlink. -/
def queued (t : Turn σ) (d : EndDevice) : List Command :=
  match t.op with
  | .requestLinkCheck => d.taken (some .linkCheckReq)
  | .receive bytes reception =>
    match d.downlink? bytes with
    | none => []
    | some frame =>
      let status : EndDevice.Status :=
        { reception, battery := Host.battery t.host, externalPower := Host.externalPower t.host }
      (d.noteDownlink frame).answers r status frame.commands.1
  | _ => []

end Turn

namespace EndDevice

variable {σ : Type} [Host σ] (r : Region)

/-- The commands that are queued in a run, first to last. -/
def queued (d : EndDevice) : List (Turn σ) → List Command
  | [] => []
  | t :: rest => t.queued r d ++ (t.after r d).queued rest

/-- The downlinks for the device that are heard in a run. -/
def downlinks (d : EndDevice) : List (Turn σ) → List DataFrame
  | [] => []
  | t :: rest => (t.downlink? d).toList ++ (t.after r d).downlinks rest

/-! ## The queue in a call -/

/-- What a call does to the queue. -/
inductive Requeued (t : Turn σ) (d : EndDevice) : Prop where
  | kept (silent : t.transmissions r d = []) (deaf : t.downlink? d = none)
      (queue : (t.after r d).queue = d.queue ++ t.queued r d)
  | heard {frame : DataFrame} (silent : t.transmissions r d = [])
      (hframe : t.downlink? d = some frame)
      (queue : (t.after r d).queue = Command.once d.queue ++ t.queued r d)
  | aired {x : Transmission} (one : t.transmissions r d = [x]) (deaf : t.downlink? d = none)
      (options : x.options = d.nextOptions) (none : t.queued r d = [])
      (queue : (t.after r d).queue = dropSent d.nextOptions.length d.queue)

variable {r}

/-- A call in which nothing is queued and nothing heard takes from the queue what goes along. -/
theorem requeued_of_effect {t : Turn σ} {d : EndDevice} (hdeaf : t.downlink? d = none)
    (hnone : t.queued r d = [])
    (hlink : ∀ x : EndDevice, Relinked r t d x → x.queue = d.queue) : Requeued r t d := by
  rcases t.link_cases r d with ⟨hsilent, x, hx, hsame⟩ | ⟨u, a, hone, hair, hqueue, -⟩
  · have hqueue : (t.after r d).queue = x.queue := (congrArg EndDevice.queue hsame :)
    refine .kept hsilent hdeaf ?_
    rw [hqueue, hlink x hx, hnone, List.append_nil]
  · exact .aired hone hdeaf hair.options hnone hqueue

/-- A request to check the link is queued, or there is no room for it. -/
theorem requeued_linkCheck {t : Turn σ} {d : EndDevice} (hop : t.op = .requestLinkCheck) :
    Requeued r t d := by
  have hrun := Turn.run_call r hop d
  have hqueued := requestLinkCheck_cases hrun
  have hafter : t.after r d = (t.made r d).2.node := rfl
  have hnew : t.queued r d = d.taken (some .linkCheckReq) := by simp [Turn.queued, hop]
  have hdeaf : t.downlink? d = none := by simp [Turn.downlink?, hop]
  have hsilent : t.transmissions r d = (t.made r d).2.trace.filterMap (Action.transmission? t.host) :=
    rfl
  generalize t.result r d = res at hqueued
  generalize (t.made r d).2 = s' at hqueued hafter hsilent
  -- The request is refused if there is no room for it, and then nothing is queued.
  cases hqueued with
  | full hfull =>
    refine .kept hsilent hdeaf ?_
    have hroom : ¬d.queue.length < queueCapacity := Nat.not_lt.mpr hfull
    rw [hafter, hnew, taken, if_neg hroom, List.append_nil]
    rfl
  | queued hroom =>
    have hroom : d.queue.length < queueCapacity := hroom
    refine .kept hsilent hdeaf ?_
    rw [hafter, hnew, taken, if_pos hroom]
    rfl

/-- The request succeeds just if it is queued. -/
theorem queued_linkCheck_iff {t : Turn σ} {d : EndDevice} (hop : t.op = .requestLinkCheck) :
    t.result r d = .ok () ↔ t.queued r d = [.linkCheckReq] := by
  have hrun := Turn.run_call r hop d
  have hqueued := requestLinkCheck_cases hrun
  have hnew : t.queued r d = d.taken (some .linkCheckReq) := by simp [Turn.queued, hop]
  generalize t.result r d = res at hqueued
  generalize (t.made r d).2 = s' at hqueued
  cases hqueued with
  | full hfull =>
    have hroom : ¬d.queue.length < queueCapacity := Nat.not_lt.mpr hfull
    simp [hnew, taken, hroom]
  | queued hroom =>
    have hroom : d.queue.length < queueCapacity := hroom
    simp [hnew, taken, hroom]

/-- A frame that is received leaves the link alone unless it is a downlink for the device. -/
theorem link_receive {t : Turn σ} {d : EndDevice} {bytes : List UInt8} {reception : Reception}
    (hop : t.op = .receive bytes reception) : t.transmissions r d = [] ∧
      (t.after r d).link = match d.downlink? bytes with
        | none => d.link
        | some frame =>
          (d.heeded r ⟨reception, Host.battery t.host, Host.externalPower t.host⟩
            frame).1.link := by
  have hrun := Turn.run_call r hop d
  have hreceived := receive_cases r hrun
  refine ⟨Turn.transmissions_of_silent hreceived.silent.offers, ?_⟩
  unfold Turn.after
  generalize t.result r d = res at hreceived
  generalize (t.made r d).2 = s' at hreceived ⊢
  -- What follows the handling of the commands touches nothing that is part of the link.
  cases hreceived with
  | foreign hframe h =>
    have hframe : d.downlink? bytes = none := hframe
    rw [hframe]
    exact h.settled.sameLink
  | heard hframe h =>
    rename_i frame
    have hframe : d.downlink? bytes = some frame := hframe
    rw [hframe]
    exact h.settled.sameLink

/-- A frame that is received is no downlink for the device, or its commands are carried out. -/
theorem requeued_receive {t : Turn σ} {d : EndDevice} {bytes : List UInt8} {reception : Reception}
    (hop : t.op = .receive bytes reception) : Requeued r t d := by
  obtain ⟨hsilent, hlink⟩ := link_receive (r := r) (d := d) hop
  have hheard : t.downlink? d = d.downlink? bytes := by simp [Turn.downlink?, hop]
  cases hframe : d.downlink? bytes with
  | none =>
    rw [hframe] at hlink
    have hqueue : (t.after r d).queue = d.queue := (congrArg EndDevice.queue hlink :)
    have hnone : t.queued r d = [] := by simp [Turn.queued, hop, hframe]
    refine .kept hsilent (hheard.trans hframe) ?_
    rw [hqueue, hnone, List.append_nil]
  | some frame =>
    let status : Status := ⟨reception, Host.battery t.host, Host.externalPower t.host⟩
    -- Noting the downlink has dropped what was sticky; the answers are queued after that.
    have hanswers : t.queued r d = (d.noteDownlink frame).answers r status frame.commands.1 := by
      simp [Turn.queued, hop, hframe, status]
    rw [hframe] at hlink
    have hqueue : (t.after r d).queue = (d.heeded r status frame).1.queue :=
      (congrArg EndDevice.queue hlink :)
    refine .heard hsilent (hheard.trans hframe) ?_
    rw [hqueue, hanswers]
    exact handledAll_queue r status (d.noteDownlink frame) frame.commands.1

variable (r)

/-- **A call changes the queue in one of three ways.** -/
theorem requeued (t : Turn σ) (d : EndDevice) : Requeued r t d := by
  -- All calls but two neither queue nor hear anything.
  have hother : t.queued r d = [] → t.downlink? d = none →
      (∀ bytes reception, t.op ≠ .receive bytes reception) → t.op ≠ .requestLinkCheck →
      Requeued r t d := by
    intro hnone hdeaf hreceive hcheck
    refine requeued_of_effect hdeaf hnone fun x hx => ?_
    cases hx with
    | kept => rfl
    | heard _ hop _ => exact absurd hop (hreceive _ _)
    | queued hop _ => exact absurd hop hcheck
    | edited _ => rfl
  cases hop : t.op with
  | requestLinkCheck => exact requeued_linkCheck hop
  | receive bytes reception => exact requeued_receive hop
  | _ =>
    refine hother (by simp [Turn.queued, hop]) (by simp [Turn.downlink?, hop]) ?_ ?_
    · intro bytes reception
      simp [hop]
    · simp [hop]

/-! ## Commands that go along once -/

/-- In a call, what goes along and what is left are together what was there and what is queued. -/
theorem once_step (t : Turn σ) (d : EndDevice) :
    Command.once ((t.transmissions r d).flatMap Transmission.options) ++
        Command.once (t.after r d).queue =
      Command.once d.queue ++ Command.once (t.queued r d) := by
  cases requeued r t d with
  | kept silent _ queue =>
    rw [silent, queue, Command.once_append]
    rfl
  | heard silent _ queue =>
    rw [silent, queue, Command.once_append, Command.once_once]
    rfl
  | aired one _ options none queue =>
    -- What went along is the front of the queue, and only sticky answers of it stay.
    obtain ⟨rest, hrest⟩ := fitting_prefix maxOptionsLength d.queue
    have hsplit : d.queue = d.nextOptions ++ rest := hrest.symm
    rw [one, queue, none, List.flatMap_singleton, options]
    calc Command.once d.nextOptions ++
          Command.once (dropSent d.nextOptions.length d.queue)
        = Command.once d.nextOptions ++
            Command.once (dropSent d.nextOptions.length (d.nextOptions ++ rest)) := by
          rw [← hsplit]
      _ = Command.once d.nextOptions ++ Command.once rest := by
          rw [dropSent_append, Command.once_append, Command.once_sticky, List.nil_append]
      _ = Command.once d.queue ++ Command.once [] := by
          rw [← Command.once_append, ← hsplit]
          exact (List.append_nil _).symm

theorem once_run (d : EndDevice) (ts : List (Turn σ)) :
    Command.once ((d.transmissions r ts).flatMap Transmission.options) ++
        Command.once (d.afterAll r ts).queue =
      Command.once d.queue ++ Command.once (d.queued r ts) := by
  induction ts generalizing d with
  | nil => exact (List.append_nil _).symm
  | cons t rest ih =>
    have hstep := once_step r t d
    have hrest := ih (t.after r d)
    rw [transmissions, List.flatMap_append, Command.once_append, List.append_assoc]
    rw [show d.afterAll r (t :: rest) = (t.after r d).afterAll r rest from rfl, hrest,
      ← List.append_assoc, hstep, List.append_assoc, ← Command.once_append]
    rfl

/--
**Commands that are not sticky go along exactly once, and in order.**

However a device is driven from its start: what went along with the frames that its radio has
accepted, frame by frame, and what is still queued are together just the commands that were queued,
in the order in which they were. None is lost when a call fails, none is repeated when a frame is,
and it does not matter how many are queued.
-/
theorem once_delivered (r : Region) (address : DeviceAddress) (settings : Settings) (plan : Plan)
    (ts : List (Turn σ)) :
    let init := initial address settings plan
    Command.once ((init.transmissions r ts).flatMap Transmission.options) ++
        Command.once (init.afterAll r ts).queue =
      Command.once (init.queued r ts) :=
  once_run r (initial address settings plan) ts

/-! ## Sticky answers -/

/-- Answers are only queued when a downlink is heard. -/
theorem sticky_queued_of_deaf {t : Turn σ} {d : EndDevice} (hdeaf : t.downlink? d = none) :
    Command.sticky (t.queued r d) = [] := by
  cases hop : t.op with
  | requestLinkCheck =>
    have hnew : t.queued r d = d.taken (some .linkCheckReq) := by simp [Turn.queued, hop]
    rw [hnew, taken]
    split <;> rfl
  | receive bytes reception =>
    have hframe : d.downlink? bytes = none := by simpa [Turn.downlink?, hop] using hdeaf
    have hnone : t.queued r d = [] := by simp [Turn.queued, hop, hframe]
    rw [hnone]
    rfl
  | _ =>
    have hnone : t.queued r d = [] := by simp [Turn.queued, hop]
    rw [hnone]
    rfl

/-- A call that hears no downlink takes no sticky answer away, and queues none. -/
theorem sticky_step {t : Turn σ} {d : EndDevice} (hdeaf : t.downlink? d = none) :
    Command.sticky (t.after r d).queue = Command.sticky d.queue := by
  cases requeued r t d with
  | kept _ _ queue =>
    rw [queue, Command.sticky_append, sticky_queued_of_deaf r hdeaf, List.append_nil]
  | heard _ hframe _ =>
    rw [hdeaf] at hframe
    cases hframe
  | aired _ _ _ _ queue =>
    -- A frame takes a prefix of the queue along, and drops of it all but the sticky ones.
    obtain ⟨rest, hrest⟩ := fitting_prefix maxOptionsLength d.queue
    have hsplit : d.queue = d.nextOptions ++ rest := hrest.symm
    have hdrop : dropSent d.nextOptions.length d.queue = Command.sticky d.nextOptions ++ rest := by
      rw [← dropSent_append, ← hsplit]
    rw [queue, hdrop, Command.sticky_append, Command.sticky_sticky, ← Command.sticky_append,
      ← hsplit]

/-- As long as no downlink is heard, sticky answers neither come nor go. -/
theorem sticky_run {d : EndDevice} {ts : List (Turn σ)} (hdeaf : d.downlinks r ts = []) :
    Command.sticky (d.afterAll r ts).queue = Command.sticky d.queue := by
  induction ts generalizing d with
  | nil => rfl
  | cons t rest ih =>
    obtain ⟨hhead, htail⟩ := List.append_eq_nil_iff.mp hdeaf
    have hstep := sticky_step r (Option.toList_eq_nil_iff.mp hhead)
    exact (ih htail).trans hstep

/-- There is room in the next frame for a queued command, behind all that is queued before it. -/
def HasRoom (d : EndDevice) (c : Command) : Prop :=
  ∃ front back, d.queue = front ++ c :: back ∧ Command.sizeAll (front ++ [c]) ≤ maxOptionsLength

/-- What goes along with the next frame is what there is room for. -/
theorem mem_nextOptions_iff {d : EndDevice} {c : Command} : c ∈ d.nextOptions ↔ d.HasRoom c := by
  constructor
  · intro hmem
    obtain ⟨front, rest, hsplit⟩ := List.append_of_mem hmem
    obtain ⟨back, hback⟩ := fitting_prefix maxOptionsLength d.queue
    refine ⟨front, rest ++ back, ?_, ?_⟩
    · calc d.queue = d.nextOptions ++ back := hback.symm
        _ = front ++ c :: (rest ++ back) := by rw [hsplit]; simp
    · -- A part of what fits does fit.
      have hfits : Command.sizeAll d.nextOptions ≤ maxOptionsLength := sizeAll_fitting _ _
      rw [hsplit, ← Command.length_encodeAll] at hfits
      rw [← Command.length_encodeAll]
      have hlen : (Command.encodeAll (front ++ [c])).length ≤
          (Command.encodeAll (front ++ c :: rest)).length := by
        simp [Command.encodeAll]
      omega
  · rintro ⟨front, back, hqueue, hfits⟩
    have hstart : front ++ [c] <+: d.queue := ⟨back, by rw [hqueue]; simp⟩
    have hprefix : front ++ [c] <+: d.nextOptions := prefix_fitting hstart hfits
    exact hprefix.subset (by simp)

theorem options_of_transmission {t : Turn σ} {d : EndDevice} {x : Transmission}
    (hx : x ∈ t.transmissions r d) : x.options = d.nextOptions := by
  cases requeued r t d with
  | kept silent _ _ =>
    rw [silent] at hx
    cases hx
  | heard silent _ _ =>
    rw [silent] at hx
    cases hx
  | aired one _ options _ _ =>
    rw [one] at hx
    rw [List.mem_singleton.mp hx]
    exact options

theorem exists_turn_of_transmission {d : EndDevice} {ts : List (Turn σ)} {x : Transmission}
    (hx : x ∈ d.transmissions r ts) :
    ∃ pre t post, ts = pre ++ t :: post ∧ x ∈ t.transmissions r (d.afterAll r pre) := by
  induction ts generalizing d with
  | nil => cases hx
  | cons t rest ih =>
    rcases List.mem_append.mp hx with hhere | hlater
    · exact ⟨[], t, rest, rfl, hhere⟩
    · obtain ⟨pre, t', post, rfl, hmem⟩ := ih hlater
      exact ⟨t :: pre, t', post, rfl, hmem⟩

/-- A queued command has gone along just if a frame was on air when there was room for it. -/
theorem went_along_iff {d : EndDevice} {ts : List (Turn σ)} {c : Command} :
    (∃ x ∈ d.transmissions r ts, c ∈ x.options) ↔
      ∃ pre t post, ts = pre ++ t :: post ∧ t.transmissions r (d.afterAll r pre) ≠ [] ∧
        (d.afterAll r pre).HasRoom c := by
  constructor
  -- A frame carries a command if and only if its options had room for it at that moment.
  · rintro ⟨x, hx, hc⟩
    obtain ⟨pre, t, post, rfl, hmem⟩ := exists_turn_of_transmission r hx
    rw [options_of_transmission r hmem] at hc
    exact ⟨pre, t, post, rfl, List.ne_nil_of_mem hmem, mem_nextOptions_iff.mp hc⟩
  · rintro ⟨pre, t, post, rfl, hair, hroom⟩
    obtain ⟨x, hx⟩ := List.exists_mem_of_ne_nil _ hair
    refine ⟨x, ?_, ?_⟩
    · rw [transmissions_append]
      exact List.mem_append_right _ (List.mem_append_left _ hx)
    · rw [options_of_transmission r hx]
      exact mem_nextOptions_iff.mpr hroom

/-- Of a run in which downlinks are heard, there is a first one. -/
theorem first_downlink {d : EndDevice} {ts : List (Turn σ)} (h : d.downlinks r ts ≠ []) :
    ∃ pre t post frame, ts = pre ++ t :: post ∧ d.downlinks r pre = [] ∧
      t.downlink? (d.afterAll r pre) = some frame := by
  induction ts generalizing d with
  | nil => exact absurd rfl h
  | cons t rest ih =>
    cases hframe : t.downlink? d with
    | some frame => exact ⟨[], t, rest, frame, rfl, rfl, hframe⟩
    | none =>
      have hlater : (t.after r d).downlinks r rest ≠ [] := by
        intro hnil
        refine h ?_
        rw [downlinks, hframe, hnil]
        rfl
      obtain ⟨pre, t', post, frame, rfl, hdeaf, hheard⟩ := ih hlater
      refine ⟨t :: pre, t', post, frame, rfl, ?_, hheard⟩
      rw [downlinks, hframe, hdeaf]
      rfl

/--
**A sticky answer leaves the queue with a downlink, and has gone along by then if a frame had room.**

A sticky answer is queued, and after some calls it is not queued any more. Then a downlink was heard
in between. The answer has gone along with a frame before the first one just if a frame was on air
when there was room for the answer behind what was queued before it. Nothing else is asked: if no
frame was on air, or none had room, the downlink takes the answer away all the same.
-/
theorem sticky_leaves_with_downlink (r : Region) {d : EndDevice} {ts : List (Turn σ)} {c : Command}
    (hsticky : c.isSticky = true) (hqueued : c ∈ d.queue) (hgone : c ∉ (d.afterAll r ts).queue) :
    ∃ pre t post frame, ts = pre ++ t :: post ∧ d.downlinks r pre = [] ∧
      c ∈ (d.afterAll r pre).queue ∧ t.downlink? (d.afterAll r pre) = some frame ∧
      Command.sticky (t.after r (d.afterAll r pre)).queue =
        Command.sticky (t.queued r (d.afterAll r pre)) ∧
      ((∃ x ∈ d.transmissions r pre, c ∈ x.options) ↔
        ∃ pre₁ t₁ post₁, pre = pre₁ ++ t₁ :: post₁ ∧
          t₁.transmissions r (d.afterAll r pre₁) ≠ [] ∧ (d.afterAll r pre₁).HasRoom c) := by
  have hmem : c ∈ Command.sticky d.queue := List.mem_filter.mpr ⟨hqueued, hsticky⟩
  -- Without a downlink the sticky commands of the queue stay what they are.
  have hstays : ∀ us : List (Turn σ), d.downlinks r us = [] → c ∈ (d.afterAll r us).queue := by
    intro us hdeaf
    rw [← sticky_run r hdeaf] at hmem
    exact (List.mem_filter.mp hmem).1
  have hheard : d.downlinks r ts ≠ [] := fun hdeaf => hgone (hstays ts hdeaf)
  obtain ⟨pre, t, post, frame, rfl, hdeaf, hframe⟩ := first_downlink r hheard
  refine ⟨pre, t, post, frame, rfl, hdeaf, hstays pre hdeaf, hframe, ?_, went_along_iff r⟩
  -- The device has heard a downlink, which leaves only one of the three.
  cases requeued r t (d.afterAll r pre) with
  | kept _ hnone _ =>
    rw [hnone] at hframe
    cases hframe
  | heard _ _ queue => rw [queue, Command.sticky_append, Command.sticky_once, List.nil_append]
  | aired _ hnone _ _ _ =>
    rw [hnone] at hframe
    cases hframe

/-! ## An answer that nobody hears -/

/-- An exchange on the bench in which the device is asked something. -/
def askedRun (options : List UInt8) : List (Turn Simulation.View) :=
  [.onBench 0 (.send [1] 1 false), .onBench 1 .txFinished, .onBench 2 (benchDownlink 0 options)]

/-- The next one, in which it is asked nothing. -/
def nextRun : List (Turn Simulation.View) :=
  [.onBench 200 (.send [2] 1 false), .onBench 201 .txFinished, .onBench 202 (benchDownlink 1 [])]

/-- An answer that is alone in the queue goes along with the next frame. -/
theorem sticky_leaves_with_downlink_alone :
    let d := (initial ⟨5⟩ {} Region.eu868.defaultPlan).afterAll .eu868 (askedRun [8, 1])
    d.queue = [.rxTimingSetupAns] ∧ (d.afterAll .eu868 nextRun).queue = [] ∧
      (∃ x ∈ d.transmissions .eu868 nextRun, .rxTimingSetupAns ∈ x.options) ∧
      ∃ pre t post frame, nextRun = pre ++ t :: post ∧ d.downlinks .eu868 pre = [] ∧
        t.downlink? (d.afterAll .eu868 pre) = some frame := by
  intro d
  have hqueued : d.queue = [.rxTimingSetupAns] := by decide +kernel
  have hgone : (d.afterAll .eu868 nextRun).queue = [] := by decide +kernel
  have hmem : Command.rxTimingSetupAns ∈ d.queue := by rw [hqueued]; simp
  have hleft : Command.rxTimingSetupAns ∉ (d.afterAll .eu868 nextRun).queue := by rw [hgone]; simp
  obtain ⟨pre, t, post, frame, heq, hdeaf, _, hframe, _, _⟩ :=
    sticky_leaves_with_downlink .eu868 rfl hmem hleft
  refine ⟨hqueued, hgone, ?_, pre, t, post, frame, heq, hdeaf, hframe⟩
  decide +kernel

/--
Not every sticky answer has gone along when it leaves the queue: here five answers that are not
sticky are before it and leave no room in the only frame.
-/
theorem sticky_dropped_unheard :
    ¬∀ (before ts : List (Turn Simulation.View)) (c : Command), c.isSticky = true →
      c ∈ ((initial ⟨5⟩ {} Region.eu868.defaultPlan).afterAll .eu868 before).queue →
      c ∉ ((initial ⟨5⟩ {} Region.eu868.defaultPlan).afterAll .eu868 (before ++ ts)).queue →
      ∃ x ∈ (initial ⟨5⟩ {} Region.eu868.defaultPlan).transmissions .eu868 (before ++ ts),
        c ∈ x.options := by
  intro h
  have hcarried := h (askedRun [6, 6, 6, 6, 6, 8, 1]) nextRun .rxTimingSetupAns rfl
    (by decide +kernel) (by decide +kernel)
  revert hcarried
  decide +kernel

end EndDevice

end LoraLink
