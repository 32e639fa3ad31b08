import LoraLink.Frame.Storage
import LoraLink.Proofs.Frame

/-!
# Frames fit their array or are cut short

The writer that goes by positions does what the one on buffers does, so no copy ends behind the
array. Whether a frame is written depends on two things. Something may be wrong with the draft: then
the first thing that is, in the order of the checks, is told, and the array is not touched. Else the
draft stands for one frame, whatever the array: if the array is long enough it holds the frame
afterwards, and if not, the frame as far as its pieces went.
-/

namespace LoraLink

/-! ## What a writer does -/

namespace Writer

variable {α β : Type} {w : Writer α} {f : α → Writer β} {s s' : Storage}

theorem runOn_bind_ok {a : α} (h : w.runOn s = .ok (.ok a, s')) :
    (w >>= f).runOn s = (f a).runOn s' := by
  unfold runOn
  rw [ExceptT.run_bind, StateT.run_bind]
  change w.runOn s >>= _ = _
  rw [h]
  rfl

theorem runOn_get_bind {f : Storage → Writer β} : (get >>= f).runOn s = (f s).runOn s := rfl

theorem runOn_bind_error {e : EncodeError} (h : w.runOn s = .ok (.error e, s')) :
    (w >>= f).runOn s = .ok (.error e, s') := by
  unfold runOn
  rw [ExceptT.run_bind, StateT.run_bind]
  change w.runOn s >>= _ = _
  rw [h]
  rfl

/-- Adds pieces one behind the other. -/
def extendAll : List (List UInt8) → Writer Unit
  | [] => pure ()
  | piece :: rest => do
    extend piece
    extendAll rest

theorem extendAll_singleton (piece : List UInt8) : extendAll [piece] = extend piece := by
  rw [extendAll, extendAll]
  exact bind_pure_unit

theorem extendAll_append (ps qs : List (List UInt8)) :
    extendAll (ps ++ qs) = extendAll ps >>= fun _ => extendAll qs := by
  induction ps with
  | nil => rw [List.nil_append, extendAll, pure_bind]
  | cons p ps ih => rw [List.cons_append, extendAll, ih, extendAll, bind_assoc]

theorem extendCommands_eq (cs : List Command) :
    extendCommands cs = extendAll (cs.flatMap fun c => [[c.id], c.payload]) := by
  induction cs with
  | nil => rfl
  | cons c cs ih =>
    rw [extendCommands, ih, List.flatMap_cons]
    rfl

/-- A header is added in its pieces. -/
theorem extendHeader_eq {h : FrameHeader} {pieces : List (List UInt8)}
    (hp : h.pieces? = some pieces) : extendHeader h = extendAll pieces := by
  have hlen := (FrameHeader.pieces?_eq_some hp).1
  unfold FrameHeader.pieces? at hp
  rw [if_pos hlen] at hp
  cases hp
  unfold extendHeader
  rw [if_neg (Nat.not_lt.mpr hlen), extendCommands_eq]
  rfl

theorem runOn_extend (s : Storage) (piece : List UInt8)
    (hfits : s.used + piece.length ≤ s.memory.length) : (extend piece).runOn s =
      .ok (.ok (), ⟨Command.patch s.memory s.used piece, s.used + piece.length⟩) := by
  have hcopy : (copy s.used piece).runOn s =
      .ok (.ok (), ⟨Command.patch s.memory s.used piece, s.used⟩) := by
    unfold copy
    rw [runOn_get_bind, if_pos hfits]
    rfl
  unfold extend
  rw [runOn_get_bind, if_pos hfits, runOn_bind_ok hcopy]
  rfl

theorem runOn_extend_full (s : Storage) (piece : List UInt8)
    (hfull : ¬s.used + piece.length ≤ s.memory.length) :
    (extend piece).runOn s = .ok (.error .bufferTooSmall, s) := by
  unfold extend
  rw [runOn_get_bind, if_neg hfull]
  rfl

end Writer

/-! ## Arrays and buffers -/

/-- The array has the length and the bytes of a buffer. -/
structure Storage.Holds (s : Storage) (b : FrameBuffer) : Prop where
  capacity : b.capacity = s.memory.length
  used : s.used = b.bytes.length
  content : s.content = b.bytes

theorem Storage.holds_cleared (s : Storage) :
    Storage.Holds { s with used := 0 } (.empty s.memory.length) :=
  ⟨rfl, rfl, rfl⟩

/-- A copy behind the bytes in use changes none of them, and not the length. -/
theorem Storage.Holds.patched {s : Storage} {b : FrameBuffer} (h : s.Holds b) {piece : List UInt8}
    (hfits : b.bytes.length + piece.length ≤ b.capacity) :
    Storage.Holds ⟨Command.patch s.memory s.used piece, s.used + piece.length⟩
      ⟨b.capacity, b.bytes ++ piece, by simpa using hfits⟩ := by
  have hroom : s.used + piece.length ≤ s.memory.length := by rw [← h.capacity, h.used]; exact hfits
  -- What is written goes right behind what is there, so both make up the new content.
  have htake : s.memory.take s.used = b.bytes := h.content
  refine ⟨?_, ?_, ?_⟩
  · change b.capacity = (Command.patch s.memory s.used piece).length
    unfold Command.patch
    rw [List.length_append, List.length_append, List.length_take, List.length_drop, h.capacity]
    omega
  · change s.used + piece.length = (b.bytes ++ piece).length
    rw [List.length_append, h.used]
  · change (Command.patch s.memory s.used piece).take (s.used + piece.length) = b.bytes ++ piece
    have hlen : s.used + piece.length = (b.bytes ++ piece).length := by
      rw [List.length_append, h.used]
    unfold Command.patch
    rw [htake, hlen, List.take_left]

/-- What a caller is told when all pieces were written, or not all. -/
def told (all : Bool) : Except EncodeError Unit := if all then .ok () else .error .bufferTooSmall

/-- **Pieces go into an array as they go into the buffer it holds.** -/
theorem Storage.Holds.extendAll {s : Storage} {b : FrameBuffer} (h : s.Holds b)
    (pieces : List (List UInt8)) :
    ∃ s', (Writer.extendAll pieces).runOn s = .ok (told (b.appendAll pieces).1, s') ∧
      s'.Holds (b.appendAll pieces).2 := by
  -- By induction on the pieces; the first that does not fit ends the writing on both sides.
  induction pieces generalizing s b with
  | nil => exact ⟨s, rfl, h⟩
  | cons piece rest ih =>
    rw [Writer.extendAll, FrameBuffer.appendAll]
    unfold FrameBuffer.append?
    by_cases hfits : b.bytes.length + piece.length ≤ b.capacity
    · have hroom : s.used + piece.length ≤ s.memory.length := by
        rw [← h.capacity, h.used]
        exact hfits
      rw [dif_pos hfits, Writer.runOn_bind_ok (Writer.runOn_extend s piece hroom)]
      exact ih (h.patched hfits)
    · have hfull : ¬s.used + piece.length ≤ s.memory.length := by
        rw [← h.capacity, h.used]
        exact hfits
      rw [dif_neg hfits, Writer.runOn_bind_error (Writer.runOn_extend_full s piece hfull)]
      exact ⟨s, rfl, h⟩

namespace FrameBuffer

theorem capacity_appendAll (b : FrameBuffer) (pieces : List (List UInt8)) :
    (b.appendAll pieces).2.capacity = b.capacity := by
  induction pieces generalizing b with
  | nil => rfl
  | cons piece rest ih =>
    rw [appendAll]
    unfold append?
    by_cases hfits : b.bytes.length + piece.length ≤ b.capacity
    · rw [dif_pos hfits]
      exact ih _
    · rw [dif_neg hfits]

/-- If some piece was not written, those that were make up a part of the whole. -/
theorem appendAll_eq_false {b b' : FrameBuffer} {pieces : List (List UInt8)}
    (h : b.appendAll pieces = (false, b')) :
    b'.bytes <+: b.bytes ++ pieces.flatten ∧
      b'.bytes.length < b.bytes.length + pieces.flatten.length := by
  induction pieces generalizing b with
  | nil => cases h
  | cons piece rest ih =>
    rw [appendAll] at h
    unfold append? at h
    rw [List.flatten_cons, ← List.append_assoc, List.length_append, ← Nat.add_assoc]
    by_cases hfits : b.bytes.length + piece.length ≤ b.capacity
    · rw [dif_pos hfits] at h
      obtain ⟨hpart, hlen⟩ := ih h
      exact ⟨hpart, by rwa [List.length_append] at hlen⟩
    · rw [dif_neg hfits] at h
      cases h
      -- what is there fits, so the piece that does not is not empty
      have hroom := b'.fits
      refine ⟨?_, by omega⟩
      rw [List.append_assoc]
      exact List.prefix_append _ _

end FrameBuffer

/-! ## What can be wrong with a draft -/

theorem Command.sizeAll_append (cs cs' : List Command) :
    sizeAll (cs ++ cs') = sizeAll cs + sizeAll cs' := by
  induction cs with
  | nil => rw [List.nil_append, sizeAll, Nat.zero_add]
  | cons c cs ih => rw [List.cons_append, sizeAll, ih, sizeAll, Nat.add_assoc]

theorem FrameHeader.pieces?_eq_none {h : FrameHeader}
    (hlong : maxOptionsLength < Command.sizeAll h.options) : h.pieces? = none := by
  unfold pieces?
  exact if_neg (Nat.not_le.mpr hlong)

/-- Commands can be added just if they fit together. -/
theorem FrameHeader.pushAll_eq (h : FrameHeader) (cs : List Command)
    (hlen : Command.sizeAll h.options ≤ maxOptionsLength) :
    h.pushAll cs =
      if maxOptionsLength < Command.sizeAll (h.options ++ cs) then .error .optionsTooLong
      else .ok { h with options := h.options ++ cs } := by
  induction cs generalizing h with
  | nil =>
    rw [List.append_nil, if_neg (Nat.not_lt.mpr hlen)]
    rfl
  | cons c cs ih =>
    have hsize : Command.sizeAll (h.options ++ c :: cs) =
        Command.sizeAll h.options + c.size + Command.sizeAll cs := by
      rw [Command.sizeAll_append, Command.sizeAll, Nat.add_assoc]
    rw [pushAll]
    by_cases hbig : maxOptionsLength < Command.sizeAll h.options + c.size
    · rw [if_pos hbig, if_pos (by omega)]
    · -- a command is a byte at least, so the list of options has room while their bytes do
      have hone : 1 ≤ c.size := Nat.le_add_right 1 _
      have hroom : h.options.length < maxOptionsLength := by
        have hcount := Command.length_le_sizeAll h.options
        omega
      have hpushed : Command.sizeAll (h.options ++ [c]) ≤ maxOptionsLength := by
        rw [Command.sizeAll_append, Command.sizeAll, Command.sizeAll]
        omega
      rw [if_neg hbig, FrameHeader.pushUnsized?, if_pos hroom]
      dsimp only
      rw [ih { h with options := h.options ++ [c] } hpushed, List.append_assoc,
        List.singleton_append]

namespace Draft

variable {d : Draft} {payload : List UInt8} {commands : List Command}

/-- What is wrong with a draft in itself. -/
def Flawed (d : Draft) (payload : List UInt8) (commands : List Command) : EncodeError → Prop
  | .wrongDirection => ∃ c ∈ commands, c.direction ≠ d.direction
  | .dataOnPortZero => d.port = some 0 ∧ payload ≠ []
  | .missingPort => d.port = none ∧ payload ≠ []
  | .optionsTooLong => d.port ≠ some 0 ∧ maxOptionsLength < Command.sizeAll commands
  | .bufferTooSmall => False

instance (e : EncodeError) : Decidable (d.Flawed payload commands e) :=
  match e with
  | .wrongDirection => inferInstanceAs (Decidable (∃ c ∈ commands, c.direction ≠ d.direction))
  | .dataOnPortZero => inferInstanceAs (Decidable (d.port = some 0 ∧ payload ≠ []))
  | .missingPort => inferInstanceAs (Decidable (d.port = none ∧ payload ≠ []))
  | .optionsTooLong =>
    inferInstanceAs (Decidable (d.port ≠ some 0 ∧ maxOptionsLength < Command.sizeAll commands))
  | .bufferTooSmall => inferInstanceAs (Decidable False)

/-- The order in which a draft is checked. -/
def checks : List EncodeError := [.wrongDirection, .dataOnPortZero, .missingPort, .optionsTooLong]

/-- The first thing that is wrong with a draft. -/
def firstFlaw? (d : Draft) (payload : List UInt8) (commands : List Command) : Option EncodeError :=
  checks.find? fun e => d.Flawed payload commands e

/-- A draft without a flaw can be written. -/
theorem writable_of_no_flaw (h : d.firstFlaw? payload commands = none) :
    d.Writable payload commands := by
  have hnone : ∀ e ∈ checks, ¬d.Flawed payload commands e := by
    intro e he hflaw
    exact List.find?_eq_none.mp h e he (decide_eq_true hflaw)
  -- Each of the four flaws stands against one of the four conditions.
  refine ⟨?_, ?_, ?_, ?_⟩
  · intro c hc
    refine Decidable.byContradiction fun hne => ?_
    exact hnone .wrongDirection (by decide) ⟨c, hc, hne⟩
  · intro hport
    exact Decidable.byContradiction fun hne => hnone .dataOnPortZero (by decide) ⟨hport, hne⟩
  · intro hport
    exact Decidable.byContradiction fun hne => hnone .missingPort (by decide) ⟨hport, hne⟩
  · unfold options
    by_cases hport : d.port = some 0
    · rw [if_pos hport]
      exact Nat.zero_le _
    · rw [if_neg hport]
      exact Nat.not_lt.mp fun hlong => hnone .optionsTooLong (by decide) ⟨hport, hlong⟩

/-- A draft with a flaw is not taken to pieces: the first flaw is told. -/
theorem pieces_of_flaw {e : EncodeError} (h : d.firstFlaw? payload commands = some e) :
    d.pieces payload commands = .error e := by
  have hfind : ∀ e' rest, List.find? (fun e => decide (d.Flawed payload commands e)) (e' :: rest) =
      if d.Flawed payload commands e' then some e'
      else rest.find? fun e => decide (d.Flawed payload commands e) := by
    intro e' rest
    by_cases hflaw : d.Flawed payload commands e' <;> simp [hflaw]
  rw [firstFlaw?, checks, hfind, hfind, hfind, hfind] at h
  unfold pieces
  -- The flaws are looked for in the order in which the frame is checked.
  by_cases hdirection : d.Flawed payload commands .wrongDirection
  · rw [if_pos hdirection] at h
    cases h
    obtain ⟨c, hc, hne⟩ := hdirection
    rw [if_pos (List.any_eq_true.mpr ⟨c, hc, decide_eq_true hne⟩)]
  have hany : ¬(commands.any fun c => c.direction ≠ d.direction) = true := by
    intro hany
    obtain ⟨c, hc, hne⟩ := List.any_eq_true.mp hany
    exact hdirection ⟨c, hc, of_decide_eq_true hne⟩
  rw [if_neg hdirection] at h
  rw [if_neg hany]
  by_cases hplaced : d.port = some 0 ∧ payload ≠ []
  · have hflaw : d.Flawed payload commands .dataOnPortZero := hplaced
    rw [if_pos hflaw] at h
    cases h
    rw [if_pos hplaced]
  have hzero : ¬d.Flawed payload commands .dataOnPortZero := hplaced
  rw [if_neg hzero] at h
  rw [if_neg hplaced]
  by_cases hported : d.port = none ∧ payload ≠ []
  · have hflaw : d.Flawed payload commands .missingPort := hported
    rw [if_pos hflaw] at h
    cases h
    rw [if_pos hported]
  have hnone : ¬d.Flawed payload commands .missingPort := hported
  rw [if_neg hnone] at h
  rw [if_neg hported]
  by_cases hlong : d.Flawed payload commands .optionsTooLong
  · rw [if_pos hlong] at h
    cases h
    obtain ⟨hport, hlen⟩ := hlong
    rw [if_neg hport, FrameHeader.pieces?_eq_none (h := d.header commands) hlen]
  · rw [if_neg hlong] at h
    cases h

theorem pushAll_header (d : Draft) (cs : List Command) : (d.header []).pushAll cs =
    if maxOptionsLength < Command.sizeAll cs then .error .optionsTooLong else .ok (d.header cs) :=
  FrameHeader.pushAll_eq (d.header []) cs (Nat.zero_le _)

theorem bodyPieces_eq (d : Draft) (payload : List UInt8) (commands : List Command) :
    d.bodyPieces payload commands = d.port.toList.map (fun p => [p]) ++
      ((if d.port = some 0 then commands.flatMap fun c => [[c.id], c.payload] else [payload]) ++
        [List.replicate integrityLength 0]) := by
  unfold bodyPieces
  rw [List.append_assoc]
  cases d.port <;> rfl

/-- Behind the checks, the writer adds the pieces of the header and the body. -/
theorem extendAll_pieces {headerPieces : List (List UInt8)} (payload : List UInt8)
    (hheader : (d.header (d.options commands)).pieces? = some headerPieces) (first : UInt8) :
    (do
      Writer.extend [first]
      Writer.extendHeader (d.header (d.options commands))
      Writer.extendPort d.port
      d.extendContent payload commands
      Writer.extend (List.replicate integrityLength 0)) =
    Writer.extendAll ([first] :: headerPieces ++ d.bodyPieces payload commands) := by
  have hport : Writer.extendPort d.port =
      Writer.extendAll (d.port.toList.map fun p => [p]) := by
    cases d.port with
    | none => rfl
    | some p => exact (Writer.extendAll_singleton [p]).symm
  have hcontent : d.extendContent payload commands = Writer.extendAll
      (if d.port = some 0 then commands.flatMap fun c => [[c.id], c.payload] else [payload]) := by
    unfold extendContent
    by_cases hzero : d.port = some 0
    · rw [if_pos hzero, if_pos hzero, Writer.extendCommands_eq]
    · rw [if_neg hzero, if_neg hzero, Writer.extendAll_singleton]
  -- Each part of the frame writes pieces of its own, and they follow one another.
  rw [Writer.extendHeader_eq hheader, hport, hcontent, bodyPieces_eq]
  rewrite [List.cons_append, Writer.extendAll, Writer.extendAll_append, Writer.extendAll_append,
    Writer.extendAll_append, Writer.extendAll_singleton]
  rfl

/-- **Frames are written into an array in the pieces in which they go into a buffer.** -/
theorem build_eq (s : Storage) : (d.build payload commands).runOn s =
    match d.pieces payload commands with
    | .error e => .ok (.error e, s)
    | .ok pieces => (Writer.extendAll pieces).runOn { s with used := 0 } := by
  unfold build pieces
  -- Both sides make the same checks in the same order.
  by_cases hdirection : (commands.any fun c => c.direction ≠ d.direction) = true
  · rw [if_pos hdirection, if_pos hdirection]
    rfl
  rw [if_neg hdirection, if_neg hdirection]
  by_cases hplaced : d.port = some 0 ∧ payload ≠ []
  · rw [if_pos hplaced, if_pos hplaced]
    rfl
  rw [if_neg hplaced, if_neg hplaced]
  by_cases hported : d.port = none ∧ payload ≠ []
  · rw [if_pos hported, if_pos hported]
    rfl
  rw [if_neg hported, if_neg hported, pushAll_header]
  by_cases hlong : maxOptionsLength < Command.sizeAll (d.options commands)
  · have hnone := FrameHeader.pieces?_eq_none (h := d.header (d.options commands)) hlong
    unfold options at hlong hnone
    rw [if_pos hlong, hnone]
    rfl
  · obtain ⟨headerPieces, hheader⟩ :=
      FrameHeader.exists_pieces (h := d.header (d.options commands)) (Nat.not_lt.mp hlong)
    have hall := extendAll_pieces payload hheader
      (MessageHeader.ofParts (.data d.direction d.confirmed) true).raw
    unfold options at hlong hheader hall
    rw [if_neg hlong, hheader]
    exact congrArg (fun w => Writer.runOn w { s with used := 0 }) hall

/-- The frame is what surrounds the options, the port and the payload, and these. -/
theorem length_bytes (d : Draft) (payload : List UInt8) (commands : List Command) :
    (d.bytes payload commands).length = minFrameLength + Command.sizeAll (d.options commands) +
      (if d.port.isSome then 1 else 0) + (d.content payload commands).length := by
  have hport : d.port.toList.length = if d.port.isSome then 1 else 0 := by
    cases d.port <;> rfl
  unfold bytes minFrameLength
  rw [List.length_cons, List.length_append, List.length_append, List.length_append, hport,
    FrameHeader.length_bytes, List.length_replicate, FrameHeader.size, integrityLength]
  change _ = 12 + Command.sizeAll (d.header (d.options commands)).options + _ + _
  omega

/-- Where nothing is wrong with the draft, the room in the array decides. -/
theorem build_of_no_flaw (h : d.firstFlaw? payload commands = none) (s : Storage) :
    ∃ s', s'.memory.length = s.memory.length ∧ s'.used = s'.content.length ∧
      ((d.bytes payload commands).length ≤ s.memory.length →
        (d.build payload commands).runOn s = .ok (.ok (), s') ∧
          s'.content = d.bytes payload commands) ∧
      (s.memory.length < (d.bytes payload commands).length →
        (d.build payload commands).runOn s = .ok (.error .bufferTooSmall, s') ∧
          s'.content <+: d.bytes payload commands ∧ s'.content ≠ d.bytes payload commands) := by
  obtain ⟨pieces, hpieces⟩ := (writable_of_no_flaw h).pieces
  have hflatten := (pieces_eq_ok hpieces).2
  have hbuild : (d.build payload commands).runOn s =
      (Writer.extendAll pieces).runOn { s with used := 0 } := by
    rw [build_eq, hpieces]
  -- The storage is followed through the buffer that holds what it holds.
  obtain ⟨s', hrun, hholds⟩ := s.holds_cleared.extendAll pieces
  rcases hall : (FrameBuffer.empty s.memory.length).appendAll pieces with ⟨all, b⟩
  rw [hall] at hrun hholds
  have hcapacity : b.capacity = s.memory.length := by
    have hkept := FrameBuffer.capacity_appendAll (.empty s.memory.length) pieces
    rwa [hall] at hkept
  have hmemory : s'.memory.length = s.memory.length := hholds.capacity.symm.trans hcapacity
  have hused : s'.used = s'.content.length := hholds.used.trans (by rw [hholds.content])
  cases all with
  | true =>
    obtain ⟨-, hbytes⟩ := FrameBuffer.appendAll_eq_true hall
    have hframe : b.bytes = d.bytes payload commands := hbytes.trans hflatten
    have hroom : (d.bytes payload commands).length ≤ s.memory.length := by
      have hfits := b.fits
      rw [hframe, hcapacity] at hfits
      exact hfits
    refine ⟨s', hmemory, hused, ?_, ?_⟩
    · exact fun _ => ⟨hbuild.trans hrun, hholds.content.trans hframe⟩
    · exact fun hshort => absurd hroom (Nat.not_le.mpr hshort)
  | false =>
    -- What was written is a prefix of the frame, and a proper one, since it is shorter.
    obtain ⟨hpart, hlen⟩ := FrameBuffer.appendAll_eq_false hall
    have hshort : ¬(d.bytes payload commands).length ≤ s.memory.length := by
      intro hroom
      have hfits : (FrameBuffer.empty s.memory.length).bytes.length + pieces.flatten.length ≤
          (FrameBuffer.empty s.memory.length).capacity := by
        rw [hflatten]
        change 0 + _ ≤ s.memory.length
        omega
      obtain ⟨b', htrue, -⟩ := FrameBuffer.appendAll_of_fits _ pieces hfits
      rw [htrue] at hall
      cases hall
    change b.bytes <+: pieces.flatten at hpart
    rw [hflatten] at hpart hlen
    change b.bytes.length < 0 + _ at hlen
    refine ⟨s', hmemory, hused, fun hroom => absurd hroom hshort, ?_⟩
    intro _
    rw [hholds.content]
    refine ⟨hbuild.trans hrun, hpart, ?_⟩
    intro heq
    rw [heq] at hlen
    omega

/--
**A frame is written whole, cut short, or not at all.**

If something is wrong with the draft, the first such thing is told, and the array is as it was. If
not, the draft stands for one frame, of this length, whatever the array: if there is room for it, it
is written, and else the array holds a proper part of its start. No copy is a fault, and the array
keeps its length. A buffer with the bytes of the array is written to alike.
-/
theorem build_bounded (d : Draft) (payload : List UInt8) (commands : List Command) (s : Storage) :
    (∀ e, d.firstFlaw? payload commands = some e →
      (d.build payload commands).runOn s = .ok (.error e, s)) ∧
    (d.firstFlaw? payload commands = none →
      (d.bytes payload commands).length = minFrameLength + Command.sizeAll (d.options commands) +
          (if d.port.isSome then 1 else 0) + (d.content payload commands).length ∧
        ∃ s', s'.memory.length = s.memory.length ∧ s'.used = s'.content.length ∧
          ((d.bytes payload commands).length ≤ s.memory.length →
            (d.build payload commands).runOn s = .ok (.ok (), s') ∧
              s'.content = d.bytes payload commands) ∧
          (s.memory.length < (d.bytes payload commands).length →
            (d.build payload commands).runOn s = .ok (.error .bufferTooSmall, s') ∧
              s'.content <+: d.bytes payload commands ∧
              s'.content ≠ d.bytes payload commands)) ∧
    ∀ b, s.Holds b → ∃ s',
      (d.build payload commands).runOn s = .ok ((d.write payload commands b).1, s') ∧
        s'.Holds (d.write payload commands b).2 := by
  refine ⟨?_, fun h => ⟨length_bytes d payload commands, build_of_no_flaw h s⟩, ?_⟩
  · intro e h
    rw [build_eq, pieces_of_flaw h]
  · intro b hholds
    unfold write
    rw [build_eq]
    cases d.pieces payload commands with
    | error e => exact ⟨s, rfl, hholds⟩
    | ok pieces =>
      -- Building starts by clearing, so what the buffer held before does not matter.
      have hclear : b.clear = .empty s.memory.length := congrArg FrameBuffer.empty hholds.capacity
      obtain ⟨s', hrun, hafter⟩ := s.holds_cleared.extendAll pieces
      rw [hclear]
      dsimp only
      rcases hall : (FrameBuffer.empty s.memory.length).appendAll pieces with ⟨_ | _, b'⟩
      all_goals
        rw [hall] at hrun hafter
        exact ⟨s', hrun, hafter⟩

/-- A frame of 16 bytes does not go into 15, of which three were in use. -/
theorem build_bounded_short :
    ∃ s', (Draft.build { address := ⟨7⟩, port := some 1 } [1, 2] [.linkCheckReq]).runOn
        ⟨List.replicate 15 0xAA, 3⟩ = .ok (.error .bufferTooSmall, s') ∧
      s'.memory.length = 15 ∧
      s'.content <+: [0x40, 7, 0, 0, 0, 1, 0, 0, 2, 1, 1, 2, 0, 0, 0, 0] ∧
      s'.content ≠ [0x40, 7, 0, 0, 0, 1, 0, 0, 2, 1, 1, 2, 0, 0, 0, 0] := by
  obtain ⟨-, hwritable, -⟩ := build_bounded { address := ⟨7⟩, port := some 1 } [1, 2]
    [.linkCheckReq] ⟨List.replicate 15 0xAA, 3⟩
  obtain ⟨-, s', hmemory, -, -, hshort⟩ := hwritable (by decide)
  obtain ⟨hrun, hpart, hne⟩ := hshort (by decide)
  exact ⟨s', hrun, hmemory, hpart, hne⟩

end Draft

end LoraLink
