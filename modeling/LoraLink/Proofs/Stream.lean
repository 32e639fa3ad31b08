import LoraLink.Command.Stream

/-!
# A stream of commands is read in one way

Commands stand one behind the other, with nothing between them. That they can be told apart is due
to the table of kinds: in one direction an identifier belongs to one kind, and the kind fixes how
many bytes follow. So what is read off a stream is what was written to it, whatever comes behind;
and whatever is read off some bytes, written again, gives those bytes back.

The two ways to see a stream agree. A reader that goes through the bytes item by item finds just
the commands that `decodeAll` gives, then the error if there is one, and comes to an end. A writer
that goes through a buffer byte by byte leaves there what `overwrite?` says.
-/

namespace LoraLink

namespace Command

/-! ## The table -/

theorem Kind.ofId?_id (k : Kind) : ofId? k.id k.direction = some k := by
  cases k <;> rfl

/-- A row of the table either gives the kind or leaves it to the rows below. -/
theorem Kind.row_cases {row : Prop} [Decidable row] {k₀ k : Kind} {below : Option Kind}
    (h : (if row then some k₀ else below) = some k) : (row ∧ k₀ = k) ∨ below = some k := by
  split at h
  · rename_i hrow
    exact Or.inl ⟨hrow, Option.some.inj h⟩
  · exact Or.inr h

theorem Kind.ofId?_eq_some {id : UInt8} {dir : Direction} {k : Kind}
    (h : ofId? id dir = some k) : k.id = id ∧ k.direction = dir := by
  cases dir with
  | up =>
    unfold ofId? at h
    repeat (rcases row_cases h with ⟨rfl, rfl⟩ | h; · exact ⟨rfl, rfl⟩)
    cases h
  | down =>
    unfold ofId? at h
    repeat (rcases row_cases h with ⟨rfl, rfl⟩ | h; · exact ⟨rfl, rfl⟩)
    cases h

theorem ofPayload?_payload (c : Command) (rest : List UInt8) :
    ofPayload? c.kind (c.payload ++ rest) = some (c, rest) := by
  cases c <;> rfl

theorem ofPayload?_eq_some {kind : Kind} {bytes rest : List UInt8} {c : Command}
    (h : ofPayload? kind bytes = some (c, rest)) : c.kind = kind ∧ bytes = c.payload ++ rest := by
  unfold ofPayload? at h
  split at h <;> cases h <;> exact ⟨rfl, rfl⟩

/-! ## One command -/

/-- A command that was written is read, and no byte behind it. -/
theorem decodeOne_payload (c : Command) (rest : List UInt8) :
    decodeOne c.direction c.id (c.payload ++ rest) = .ok (c, rest) := by
  unfold decodeOne Command.direction Command.id
  rw [Kind.ofId?_id]
  dsimp only
  rw [ofPayload?_payload]

/-- A command that was read is written with the bytes that it was read from. -/
theorem decodeOne_eq_ok {dir : Direction} {id : UInt8} {bytes rest : List UInt8} {c : Command}
    (h : decodeOne dir id bytes = .ok (c, rest)) :
    c.direction = dir ∧ id :: bytes = c.encode ++ rest := by
  unfold decodeOne at h
  cases hkind : Kind.ofId? id dir with
  | none =>
    rw [hkind] at h
    cases h
  | some kind =>
    rw [hkind] at h
    dsimp only at h
    cases hpayload : ofPayload? kind bytes with
    | none =>
      rw [hpayload] at h
      cases h
    | some r =>
      rw [hpayload] at h
      cases h
      -- The kind was found by number and direction, so it has both.
      obtain ⟨hid, hdir⟩ := Kind.ofId?_eq_some hkind
      obtain ⟨hc, hbytes⟩ := ofPayload?_eq_some hpayload
      refine ⟨?_, ?_⟩
      · unfold Command.direction
        rw [hc, hdir]
      · unfold encode Command.id
        rw [hc, hid, hbytes]
        rfl

theorem length_encode (c : Command) : c.encode.length = c.size := by
  unfold encode size
  rw [List.length_cons, Nat.add_comm]

/-! ## Many commands -/

@[simp] theorem encodeAll_nil : encodeAll [] = [] := rfl

theorem encodeAll_cons (c : Command) (cs : List Command) :
    encodeAll (c :: cs) = c.encode ++ encodeAll cs := rfl

@[simp] theorem length_encodeAll (cs : List Command) : (encodeAll cs).length = sizeAll cs := by
  induction cs with
  | nil => rfl
  | cons c cs ih => rw [encodeAll_cons, List.length_append, length_encode, ih, sizeAll]

theorem length_le_sizeAll (cs : List Command) : cs.length ≤ sizeAll cs := by
  induction cs with
  | nil => exact Nat.le_refl 0
  | cons c rest ih =>
    have hsize : c.size = 1 + c.payload.length := rfl
    rw [List.length_cons, sizeAll]
    omega

theorem decodeAll_nil (dir : Direction) : decodeAll dir [] = ([], none) := by
  rw [decodeAll]

theorem decodeAll_error {dir : Direction} {id : UInt8} {rest : List UInt8} {e : StreamError}
    (h : decodeOne dir id rest = .error e) : decodeAll dir (id :: rest) = ([], some e) := by
  rw [decodeAll]
  split
  · rename_i e' h'
    rw [h] at h'
    cases h'
    rfl
  · rename_i h'
    rw [h] at h'
    cases h'

theorem decodeAll_ok {dir : Direction} {id : UInt8} {rest rest' : List UInt8} {c : Command}
    (h : decodeOne dir id rest = .ok (c, rest')) :
    decodeAll dir (id :: rest) = (c :: (decodeAll dir rest').1, (decodeAll dir rest').2) := by
  rw [decodeAll]
  split
  · rename_i h'
    rw [h] at h'
    cases h'
  · rename_i h'
    rw [h] at h'
    cases h'
    rfl

/-- **What was written is read**, and then whatever comes behind it. -/
theorem decodeAll_encodeAll {dir : Direction} {cs : List Command}
    (h : ∀ c ∈ cs, c.direction = dir) (rest : List UInt8) :
    decodeAll dir (encodeAll cs ++ rest) =
      (cs ++ (decodeAll dir rest).1, (decodeAll dir rest).2) := by
  induction cs with
  | nil => rfl
  | cons c cs ih =>
    have hone := decodeOne_payload c (encodeAll cs ++ rest)
    rw [h c List.mem_cons_self] at hone
    have hrest := ih (fun c' hc' => h c' (List.mem_cons_of_mem c hc'))
    rw [encodeAll_cons, List.append_assoc]
    change decodeAll dir (c.id :: (c.payload ++ (encodeAll cs ++ rest))) = _
    rw [decodeAll_ok hone, hrest]
    rfl

theorem decodeAll_written {dir : Direction} {cs : List Command} (h : ∀ c ∈ cs, c.direction = dir) :
    decodeAll dir (encodeAll cs) = (cs, none) := by
  have hread := decodeAll_encodeAll h []
  rw [List.append_nil, decodeAll_nil, List.append_nil] at hread
  exact hread

/-- **What was read is what is there**: all of it, unless there was an error. -/
theorem decodeAll_cases (dir : Direction) (bytes : List UInt8) :
    (∀ c ∈ (decodeAll dir bytes).1, c.direction = dir) ∧
      ∃ rest, bytes = encodeAll (decodeAll dir bytes).1 ++ rest ∧
        ((decodeAll dir bytes).2 = none → rest = []) := by
  induction hlen : bytes.length using Nat.strongRecOn generalizing bytes with
  | ind n ih =>
    cases bytes with
    | nil =>
      rw [decodeAll_nil]
      exact ⟨fun c hc => (by cases hc), [], rfl, fun _ => rfl⟩
    | cons id tail =>
      cases hone : decodeOne dir id tail with
      | error e =>
        rw [decodeAll_error hone]
        exact ⟨fun c hc => (by cases hc), id :: tail, rfl, fun h => (by cases h)⟩
      | ok r =>
        obtain ⟨c, tail'⟩ := r
        obtain ⟨hdir, hbytes⟩ := decodeOne_eq_ok hone
        -- A command takes one byte at least, so the rest is shorter.
        have hshorter : tail'.length < n := by
          have hle := length_of_decodeOne hone
          rw [List.length_cons] at hlen
          omega
        obtain ⟨hdirs, rest, htail, hall⟩ := ih _ hshorter tail' rfl
        rw [decodeAll_ok hone]
        refine ⟨?_, rest, ?_, hall⟩
        · intro c' hc'
          rcases List.mem_cons.mp hc' with rfl | hc'
          · exact hdir
          · exact hdirs c' hc'
        · rw [hbytes, encodeAll_cons, List.append_assoc, ← htail]

theorem encodeAll_of_decodeAll {dir : Direction} {bytes : List UInt8}
    (h : (decodeAll dir bytes).2 = none) : encodeAll (decodeAll dir bytes).1 = bytes := by
  obtain ⟨-, rest, hbytes, hall⟩ := decodeAll_cases dir bytes
  rw [hall h, List.append_nil] at hbytes
  exact hbytes.symm

/-- Two lists of commands of one direction that are written alike are the same. -/
theorem encodeAll_inj {dir : Direction} {cs cs' : List Command} (h : ∀ c ∈ cs, c.direction = dir)
    (h' : ∀ c ∈ cs', c.direction = dir) (heq : encodeAll cs = encodeAll cs') : cs = cs' := by
  have hread := decodeAll_written h
  rw [heq, decodeAll_written h'] at hread
  exact (congrArg Prod.fst hread).symm

/-! ## Item by item -/

namespace Reader

/-- Items that a reader gives one after the other before there are no more. -/
inductive Yields : Reader → List (Except StreamError Command) → Prop where
  | stop {rd : Reader} (h : rd.next = none) : Yields rd []
  | item {rd rd' : Reader} {x : Except StreamError Command} {xs : List (Except StreamError Command)}
      (h : rd.next = some (x, rd')) (rest : Yields rd' xs) : Yields rd (x :: xs)

/-- A reader gives one list of items at most. -/
theorem Yields.unique {rd : Reader} {xs ys : List (Except StreamError Command)}
    (hx : Yields rd xs) (hy : Yields rd ys) : xs = ys := by
  induction hx generalizing ys with
  | stop h =>
    cases hy with
    | stop _ => rfl
    | item h' _ =>
      rw [h] at h'
      cases h'
  | item h _ ih =>
    cases hy with
    | stop h' =>
      rw [h] at h'
      cases h'
    | item h' rest =>
      rw [h] at h'
      cases h'
      rw [ih rest]

/-- What `decodeAll` gives, item by item. -/
def items (r : List Command × Option StreamError) : List (Except StreamError Command) :=
  r.1.map .ok ++ (r.2.map .error).toList

theorem next_of_drop_nil {rd : Reader} (h : rd.bytes.drop rd.index = []) : rd.next = none := by
  unfold next
  rw [h]

/--
**A reader comes to an end**, after the commands that are left and the error if there is one.

The induction is on the bytes that are left. Each command takes at least its identifier from them.
-/
theorem yields_decodeAll (rd : Reader) :
    Yields rd (items (decodeAll rd.direction (rd.bytes.drop rd.index))) := by
  -- By induction on the bytes left, since the reader moves on by a whole command at a time.
  induction hlen : (rd.bytes.drop rd.index).length using Nat.strongRecOn generalizing rd with
  | ind n ih =>
    cases hdrop : rd.bytes.drop rd.index with
    | nil =>
      rw [decodeAll_nil]
      exact .stop (next_of_drop_nil hdrop)
    | cons id tail =>
      cases hone : decodeOne rd.direction id tail with
      | error e =>
        rw [decodeAll_error hone]
        have hnext : rd.next = some (.error e, { rd with index := rd.bytes.length }) := by
          unfold next
          rw [hdrop]
          dsimp only
          rw [hone]
        exact .item hnext (.stop (next_of_drop_nil List.drop_length))
      | ok r =>
        obtain ⟨c, tail'⟩ := r
        have hnext : rd.next = some (.ok c, { rd with index := rd.index + c.size }) := by
          unfold next
          rw [hdrop]
          dsimp only
          rw [hone]
        -- What the reader has still before it is what decoding goes on with.
        have hleft : rd.bytes.drop (rd.index + c.size) = tail' := by
          rw [← List.drop_drop, hdrop, (decodeOne_eq_ok hone).2, ← length_encode]
          exact List.drop_left
        have hshorter : tail'.length < n := by
          have hle := length_of_decodeOne hone
          rw [hdrop, List.length_cons] at hlen
          omega
        have hrest := ih tail'.length hshorter { rd with index := rd.index + c.size }
          (congrArg List.length hleft)
        dsimp only at hrest
        rw [hleft] at hrest
        rw [decodeAll_ok hone]
        exact .item hnext hrest

/-- So the items of a stream are what `decodeAll` gives. -/
theorem yields_iff {dir : Direction} {bytes : List UInt8}
    {xs : List (Except StreamError Command)} :
    Yields ⟨dir, bytes, 0⟩ xs ↔ xs = items (decodeAll dir bytes) := by
  have h := yields_decodeAll ⟨dir, bytes, 0⟩
  dsimp only at h
  rw [List.drop_zero] at h
  refine ⟨fun hx => hx.unique h, ?_⟩
  rintro rfl
  exact h

end Reader

/-! ## Byte by byte -/

/-- A piece over the bytes right behind a beginning. -/
theorem patch_append (pre old piece post : List UInt8) (h : old.length = piece.length) :
    patch (pre ++ (old ++ post)) pre.length piece = pre ++ piece ++ post := by
  unfold patch
  rw [List.take_left, ← List.drop_drop, List.drop_left, ← h, List.drop_left]

/--
The commands come behind what was written before, in the place of as many bytes. What is behind
them stays.
-/
theorem writeFrom_append (cs : List Command) (pre old post : List UInt8)
    (h : old.length = sizeAll cs) :
    writeFrom (pre ++ (old ++ post)) pre.length cs =
      (pre.length + sizeAll cs, pre ++ encodeAll cs ++ post) := by
  induction cs generalizing pre old with
  | nil =>
    have hnil : old = [] := List.eq_nil_of_length_eq_zero h
    subst hnil
    rw [encodeAll_nil, List.append_nil]
    rfl
  | cons c cs ih =>
    have hsize : c.size = 1 + c.payload.length := rfl
    rw [sizeAll, hsize] at h
    -- The bytes to be replaced: one for the identifier, those for the payload, and the others.
    obtain ⟨b, tail, rfl⟩ : ∃ b tail, old = b :: tail := by
      cases old with
      | nil =>
        rw [List.length_nil] at h
        omega
      | cons b tail => exact ⟨b, tail, rfl⟩
    obtain ⟨old₁, old₂, rfl, h₁⟩ : ∃ old₁ old₂, tail = old₁ ++ old₂ ∧
        old₁.length = c.payload.length := by
      refine ⟨tail.take c.payload.length, tail.drop c.payload.length,
        (List.take_append_drop _ _).symm, ?_⟩
      rw [List.length_cons] at h
      rw [List.length_take]
      omega
    have h₂ : old₂.length = sizeAll cs := by
      rw [List.length_cons, List.length_append] at h
      omega
    have hid : patch (pre ++ (b :: (old₁ ++ old₂) ++ post)) pre.length [c.id] =
        (pre ++ [c.id]) ++ (old₁ ++ (old₂ ++ post)) := by
      have hpatch := patch_append pre [b] [c.id] (old₁ ++ old₂ ++ post) rfl
      rw [List.append_assoc old₁] at hpatch
      rw [List.cons_append, List.append_assoc old₁]
      exact hpatch
    have hpayload : patch ((pre ++ [c.id]) ++ (old₁ ++ (old₂ ++ post))) (pre.length + 1) c.payload =
        (pre ++ c.encode) ++ (old₂ ++ post) := by
      have hpatch := patch_append (pre ++ [c.id]) old₁ c.payload (old₂ ++ post) h₁
      rw [List.length_append, List.length_singleton] at hpatch
      rw [hpatch, List.append_assoc pre]
      rfl
    have hindex : pre.length + c.payload.length + 1 = (pre ++ c.encode).length := by
      rw [List.length_append, length_encode, hsize]
      omega
    rw [writeFrom, hid, hpayload, hindex, ih _ _ h₂, encodeAll_cons, sizeAll, List.length_append,
      length_encode, Nat.add_assoc, List.append_assoc pre]

/-- Written byte by byte, commands come to stand at the start, and the count is their length. -/
theorem writeOver?_eq (cs : List Command) (out : List UInt8) :
    writeOver? cs out = (overwrite? cs out).map fun out' => (sizeAll cs, out') := by
  unfold writeOver? overwrite?
  by_cases h : sizeAll cs ≤ out.length
  · have hlen : (out.take (sizeAll cs)).length = sizeAll cs := List.length_take_of_le h
    have hwrite := writeFrom_append cs [] (out.take (sizeAll cs)) (out.drop (sizeAll cs)) hlen
    rw [List.nil_append, List.take_append_drop, List.nil_append, List.length_nil,
      Nat.zero_add] at hwrite
    rw [if_neg (Nat.not_lt.mpr h), if_pos h, hwrite]
    rfl
  · rw [if_pos (Nat.lt_of_not_le h), if_neg h]
    rfl

/-! ## The code -/

/--
**Streams of commands of one direction are a uniquely decodable code.**

Commands are written to the start of a buffer and nowhere else. What was written is read off again
item by item, and then come the items of whatever stands behind. And for any bytes, reading comes
to an end: first there are commands, then at most one error and nothing more; the commands are
written with the bytes that they were read from, which is all of them if there is no error.
-/
theorem uniquely_decodable (dir : Direction) :
    (∀ cs : List Command, (∀ c ∈ cs, c.direction = dir) →
      (encodeAll cs).length = sizeAll cs ∧
      (∀ out : List UInt8, sizeAll cs ≤ out.length →
        writeOver? cs out = some (sizeAll cs, encodeAll cs ++ out.drop (sizeAll cs))) ∧
      ∀ rest xs, Reader.Yields ⟨dir, rest, 0⟩ xs →
        Reader.Yields ⟨dir, encodeAll cs ++ rest, 0⟩ (cs.map .ok ++ xs)) ∧
    (∀ cs cs' : List Command, (∀ c ∈ cs, c.direction = dir) → (∀ c ∈ cs', c.direction = dir) →
      encodeAll cs = encodeAll cs' → cs = cs') ∧
    ∀ bytes : List UInt8, ∃ (cs : List Command) (error : Option StreamError) (rest : List UInt8),
      (∀ xs, Reader.Yields ⟨dir, bytes, 0⟩ xs ↔ xs = cs.map .ok ++ (error.map .error).toList) ∧
        (∀ c ∈ cs, c.direction = dir) ∧ bytes = encodeAll cs ++ rest ∧
        (error = none → rest = []) := by
  refine ⟨?_, fun cs cs' h h' heq => encodeAll_inj h h' heq, ?_⟩
  · intro cs hdirs
    refine ⟨length_encodeAll cs, ?_, ?_⟩
    · intro out hroom
      rw [writeOver?_eq]
      unfold overwrite?
      rw [if_pos hroom]
      rfl
    · intro rest xs hxs
      -- What the reader yields is what decoding gives, so the bytes in front are decoded first.
      rw [Reader.yields_iff] at hxs ⊢
      rw [decodeAll_encodeAll hdirs rest, hxs]
      unfold Reader.items
      rw [List.map_append, List.append_assoc]
  · intro bytes
    obtain ⟨hdirs, rest, hbytes, hall⟩ := decodeAll_cases dir bytes
    exact ⟨_, _, rest, fun xs => Reader.yields_iff, hdirs, hbytes, hall⟩

/-- Two commands come through before a third that is cut short. -/
theorem uniquely_decodable_cut_short :
    Reader.Yields ⟨.down, [0x06, 0x02, 20, 3, 0x03, 0x50], 0⟩
      [.ok .devStatusReq, .ok (.linkCheckAns ⟨20, 3⟩), .error .truncated] :=
  have hdirs : ∀ c ∈ [devStatusReq, linkCheckAns ⟨20, 3⟩], c.direction = .down := by decide
  ((uniquely_decodable .down).1 _ hdirs).2.2 [0x03, 0x50] [.error .truncated]
    (.item rfl (.stop rfl))

end Command

end LoraLink
