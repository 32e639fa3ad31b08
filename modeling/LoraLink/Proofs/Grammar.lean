import LoraLink.Frame.InPlace
import LoraLink.Proofs.Frame

/-!
# The grammar of data frames

Which bytes are a data frame can be said without a decoder: there are six requirements, and each is
about bytes that stand at known positions. They are checked in an order, and the error that is
reported is that of the first requirement that is not met. When all are met, every byte belongs to
one part of the frame.

A reader that goes by positions could fail in other ways: it could look outside of the bytes, or
find more options than it has room for. It does neither, so it reads what is decoded.
-/

namespace LoraLink

/-! ## Reading in place -/

theorem slice_eq_ok {bytes : List UInt8} {start stop : Nat} (h : start ≤ stop)
    (h' : stop ≤ bytes.length) : slice bytes start stop = .ok ((bytes.take stop).drop start) :=
  if_pos ⟨h, h'⟩

theorem slice_to_end {bytes : List UInt8} {start : Nat} (h : start ≤ bytes.length) :
    slice bytes start bytes.length = .ok (bytes.drop start) := by
  rw [slice_eq_ok h (Nat.le_refl _), List.take_length]

theorem sliceUpTo_cons (first : UInt8) {rest : List UInt8} {left : Nat} (h : left ≤ rest.length) :
    sliceUpTo (first :: rest) 1 left = .ok (rest.take (rest.length - left)) := by
  have hstop : (first :: rest).length - left = rest.length - left + 1 := by
    rw [List.length_cons]
    omega
  have hleft : left ≤ (first :: rest).length := Nat.le_succ_of_le h
  unfold sliceUpTo
  rw [if_pos hleft, hstop, slice_eq_ok (by omega) (by rw [← hstop]; omega)]
  rfl

namespace Command

theorem length_payload (c : Command) : c.payload.length = c.kind.payloadLength := by
  cases c <;> rfl

/-- A payload cannot be read just if there are too few bytes for it. -/
theorem ofPayload?_eq_none_iff {kind : Kind} {bytes : List UInt8} :
    ofPayload? kind bytes = none ↔ bytes.length < kind.payloadLength := by
  cases kind <;> rcases bytes with _ | ⟨_, _ | ⟨_, _ | ⟨_, _ | ⟨_, _ | ⟨_, _⟩⟩⟩⟩⟩ <;>
    simp [ofPayload?, Kind.payloadLength]

theorem readOne_cons (dir : Direction) (id : UInt8) (rest : List UInt8) :
    readOne dir (id :: rest) =
      .ok ((decodeOne dir id rest).map fun r => (r.1, r.1.payload.length)) := by
  have hfirst : byteAt (id :: rest) 0 = .ok id := rfl
  have hbehind : slice (id :: rest) 1 (id :: rest).length = .ok rest :=
    slice_to_end (Nat.succ_le_succ (Nat.zero_le _))
  unfold readOne decodeOne
  rw [hfirst, hbehind]
  dsimp only [bind, Except.bind]
  cases Kind.ofId? id dir with
  | none => rfl
  | some kind =>
    dsimp only
    cases hpayload : ofPayload? kind rest with
    | none =>
      -- A payload that cannot be read is one that is too short.
      rw [if_pos (ofPayload?_eq_none_iff.mp hpayload)]
      rfl
    | some r =>
      obtain ⟨c, rest'⟩ := r
      obtain ⟨rfl, rfl⟩ := ofPayload?_eq_some hpayload
      -- There are as many bytes as the command needs, so the slice is its payload.
      have hroom : ¬(c.payload ++ rest').length < c.kind.payloadLength := by
        rw [List.length_append, length_payload]
        omega
      have hread : ofPayload? c.kind c.payload = some (c, []) := by
        have h := ofPayload?_payload c []
        rwa [List.append_nil] at h
      have hslice : slice (c.payload ++ rest') 0 c.kind.payloadLength = .ok c.payload := by
        rw [← length_payload, slice_eq_ok (Nat.zero_le _) (by simp), List.take_left]
        rfl
      rw [if_neg hroom, hslice]
      dsimp only
      rw [hread, ← length_payload]
      rfl

/-- The induction is on the bytes that are left, of which each command takes at least one. -/
theorem readOptions_eq {dir : Direction} {bytes : List UInt8} {index : Nat}
    {options : List Command} (hroom : options.length + (bytes.length - index) ≤ maxOptionsLength) :
    readOptions dir bytes index options =
      .ok (options ++ (decodeAll dir (bytes.drop index)).1) := by
  induction hleft : bytes.length - index using Nat.strongRecOn generalizing index options with
  | ind n ih =>
    rw [readOptions]
    by_cases hindex : index < bytes.length
    · rw [if_pos hindex, slice_to_end (Nat.le_of_lt hindex)]
      rw [List.drop_eq_getElem_cons hindex]
      change (readOne dir _ >>= _) = _
      rw [readOne_cons]
      cases hone : decodeOne dir bytes[index] (bytes.drop (index + 1)) with
      | error e =>
        rw [decodeAll_error hone, List.append_nil]
        rfl
      | ok r =>
        obtain ⟨c, rest⟩ := r
        have hbytes := (decodeOne_eq_ok hone).2
        rw [decodeAll_ok hone]
        change (if options.length < maxOptionsLength then _ else _) = _
        -- Each option takes a byte, so there is room as long as bytes are left.
        rw [if_pos (by omega)]
        have hrest : bytes.drop (index + (1 + c.payload.length)) = rest := by
          rw [← List.drop_drop, List.drop_eq_getElem_cons hindex, hbytes]
          exact List.drop_left' (length_encode c)
        rw [ih _ (by omega) (by rw [List.length_append, List.length_singleton]; omega) rfl, hrest]
        dsimp only
        rw [List.append_assoc]
        rfl
    · rw [if_neg hindex, List.drop_eq_nil_of_le (Nat.le_of_not_lt hindex), decodeAll_nil,
        List.append_nil]
      rfl

end Command

namespace FrameHeader

theorem exists_fixed {bytes : List UInt8} (h : ¬bytes.length < 7) :
    ∃ a₀ a₁ a₂ a₃ c n₀ n₁ rest, bytes = a₀ :: a₁ :: a₂ :: a₃ :: c :: n₀ :: n₁ :: rest := by
  match bytes, h with
  | a₀ :: a₁ :: a₂ :: a₃ :: c :: n₀ :: n₁ :: rest, _ => exact ⟨a₀, a₁, a₂, a₃, c, n₀, n₁, rest, rfl⟩
  | [], h | [_], h | [_, _], h | [_, _, _], h | [_, _, _, _], h | [_, _, _, _, _], h
  | [_, _, _, _, _, _], h => simp at h

theorem length_of_decode? {dir : Direction} {bytes : List UInt8} {r : FrameHeader × List UInt8}
    (h : decode? dir bytes = some r) : 7 + r.1.control.optionsLength ≤ bytes.length ∧
      r.2 = bytes.drop (7 + r.1.control.optionsLength) := by
  obtain ⟨header, rest⟩ := r
  obtain ⟨-, region, hregion, -, rfl⟩ := decode?_eq_some h
  dsimp only
  rw [← hregion]
  refine ⟨?_, ?_⟩
  · simp only [DeviceAddress.bytes, List.length_append, List.length_cons, length_littleEndian]
    omega
  · rw [Nat.add_comm 7]
    change rest = (region ++ rest).drop region.length
    rw [List.drop_left]

theorem read_eq (dir : Direction) (bytes : List UInt8) :
    read dir bytes =
      .ok ((decode? dir bytes).map fun r => (r.1, 7 + r.1.control.optionsLength)) := by
  unfold read
  -- With fewer than seven bytes neither of the two gets to the options.
  by_cases hfixed : bytes.length < 7
  · have hnone : decode? dir bytes = none := by
      cases hsome : decode? dir bytes with
      | none => rfl
      | some r =>
        have hlen := (length_of_decode? hsome).1
        omega
    rw [if_pos hfixed, hnone]
    rfl
  · obtain ⟨a₀, a₁, a₂, a₃, c, n₀, n₁, rest, rfl⟩ := exists_fixed hfixed
    rw [if_neg hfixed]
    change (if rest.length + 7 < 7 + FrameControl.optionsLength ⟨c, dir⟩ then _ else _) = _
    unfold decode?
    dsimp only
    by_cases hroom : rest.length < FrameControl.optionsLength ⟨c, dir⟩
    · rw [if_pos hroom, if_pos (by omega)]
      rfl
    · have hlen := FrameControl.optionsLength_le ⟨c, dir⟩
      -- The slice ends within the bytes, so it does not fault, and it is what is taken there.
      have hoptions : slice (a₀ :: a₁ :: a₂ :: a₃ :: c :: n₀ :: n₁ :: rest) 7
          (7 + FrameControl.optionsLength ⟨c, dir⟩) =
          .ok (rest.take (FrameControl.optionsLength ⟨c, dir⟩)) := by
        rw [slice_eq_ok (by omega) (by simp only [List.length_cons]; omega), Nat.add_comm 7]
        rfl
      rw [if_neg hroom, if_neg (by omega), hoptions]
      change (Command.readOptions dir _ 0 [] >>= _) = _
      rw [Command.readOptions_eq (by rw [List.length_take, List.length_nil]; omega),
        List.drop_zero, List.nil_append]
      rfl

end FrameHeader

namespace DataFrame

/-- Going by positions makes no difference. -/
theorem read_eq (bytes : List UInt8) : read bytes = .ok (decode bytes) := by
  cases bytes with
  | nil => rfl
  | cons first rest =>
    unfold read decode
    rw [if_neg (List.cons_ne_nil first rest)]
    change (if !(MessageHeader.mk first).knownFormat then _ else _) = _
    dsimp only
    cases (MessageHeader.mk first).knownFormat with
    | false => rfl
    | true =>
      cases (MessageHeader.mk first).type.direction? with
      | none => rfl
      | some dir =>
        rw [if_neg (by decide), if_neg (by decide)]
        dsimp only
        -- The code at the end can be sliced off once the frame is long enough.
        by_cases hlen : (first :: rest).length < minFrameLength
        · rw [if_pos hlen, if_pos hlen]
          rfl
        · have hlong : 12 ≤ rest.length + 1 := Nat.le_of_not_lt hlen
          have hcode : integrityLength ≤ rest.length := by
            unfold integrityLength
            omega
          rw [if_neg hlen, if_neg hlen, sliceUpTo_cons first hcode]
          change (FrameHeader.read dir _ >>= _) = _
          rw [FrameHeader.read_eq]
          cases hheader : FrameHeader.decode? dir (rest.take (rest.length - integrityLength)) with
          | none => rfl
          | some r =>
            obtain ⟨header, left⟩ := r
            obtain ⟨hused, hleft⟩ := FrameHeader.length_of_decode? hheader
            dsimp only at hused hleft
            change (slice _ _ _ >>= _) = _
            rw [slice_to_end hused, ← hleft]
            change (if _ then _ else _) = Except.ok (if _ then _ else _)
            split <;> rfl

end DataFrame

/-! ## The longest start that can be read -/

namespace Command

/-- The longest list of commands with whose bytes some bytes start. -/
structure Leading (dir : Direction) (bytes : List UInt8) (cs : List Command) : Prop where
  directions : ∀ c ∈ cs, c.direction = dir
  start : encodeAll cs <+: bytes
  longest : ∀ cs' : List Command, (∀ c ∈ cs', c.direction = dir) → encodeAll cs' <+: bytes →
    cs' <+: cs

theorem leading_decodeAll (dir : Direction) (bytes : List UInt8) :
    Leading dir bytes (decodeAll dir bytes).1 := by
  obtain ⟨hdirs, rest, hbytes, -⟩ := decodeAll_cases dir bytes
  refine ⟨hdirs, ⟨rest, hbytes.symm⟩, ?_⟩
  rintro cs' hdirs' ⟨rest', rfl⟩
  rw [decodeAll_encodeAll hdirs' rest']
  exact List.prefix_append _ _

namespace Leading

variable {dir : Direction} {bytes : List UInt8} {cs : List Command}

theorem length_le (h : Leading dir bytes cs) : cs.length ≤ bytes.length := by
  have hstart := h.start.length_le
  rw [length_encodeAll] at hstart
  exact Nat.le_trans (length_le_sizeAll cs) hstart

/-- There are none just if the bytes do not start with a command. -/
theorem eq_nil_iff (h : Leading dir bytes cs) :
    cs = [] ↔ ∀ c : Command, c.direction = dir → ¬c.encode <+: bytes := by
  constructor
  · rintro rfl c hdir hstart
    have hone : encodeAll [c] <+: bytes := by
      rw [encodeAll_cons, encodeAll_nil, List.append_nil]
      exact hstart
    have hdirs : ∀ c' ∈ [c], c'.direction = dir := by
      intro c' hc'
      rw [List.mem_singleton.mp hc']
      exact hdir
    cases List.prefix_nil.mp (h.longest [c] hdirs hone)
  · intro hnone
    cases cs with
    | nil => rfl
    | cons c cs =>
      refine absurd ?_ (hnone c (h.directions c List.mem_cons_self))
      exact List.IsPrefix.trans (List.prefix_append c.encode (encodeAll cs)) h.start

end Leading

end Command

/-! ## Positions -/

/-- A message is data just if its code is among four, of which the even ones are of uplinks. -/
theorem MessageHeader.direction?_type (h : MessageHeader) :
    h.type.direction? =
      if 2 ≤ h.raw / 32 ∧ h.raw / 32 ≤ 5 then some (if h.raw / 32 % 2 = 0 then .up else .down)
      else none := by
  have hcode : h.type.code = h.raw / 32 := by
    have hraw := h.raw.toNat_lt
    unfold type
    rw [MessageType.code_ofCode]
    apply UInt8.toNat_inj.mp
    simp only [UInt8.toNat_mod, UInt8.toNat_div, UInt8.reduceToNat]
    omega
  rw [← hcode]
  cases h.type <;> decide

namespace DataFrame

def firstByte (bytes : List UInt8) : UInt8 := bytes.getD 0 0

/-- Which way a data frame goes, by the type in the upper three bits of its first byte. -/
def way (bytes : List UInt8) : Direction := if firstByte bytes / 32 % 2 = 0 then .up else .down

/-- How many bytes of options there are to be. -/
def optionsLengthAt (bytes : List UInt8) : Nat := (Byte.lowNibble (bytes.getD 5 0)).toNat

def optionBytes (bytes : List UInt8) : List UInt8 := (bytes.drop 8).take (optionsLengthAt bytes)

/-- What there is between the options and the integrity code. -/
def behindOptions (bytes : List UInt8) : List UInt8 :=
  (bytes.take (bytes.length - 4)).drop (8 + optionsLengthAt bytes)

/-- The frame whose parts stand at the positions for them. -/
def spelled (bytes : List UInt8) : DataFrame where
  messageHeader := ⟨firstByte bytes⟩
  direction := way bytes
  header :=
    { address := .ofBytes (bytes.getD 1 0) (bytes.getD 2 0) (bytes.getD 3 0) (bytes.getD 4 0)
      control := ⟨bytes.getD 5 0, way bytes⟩
      counter := UInt16.ofNat (ofLittleEndian [bytes.getD 6 0, bytes.getD 7 0])
      options := (Command.decodeAll (way bytes) (optionBytes bytes)).1 }
  port := (behindOptions bytes).head?
  payload := (behindOptions bytes).tail

theorem splitPort_eq (bytes : List UInt8) : splitPort bytes = (bytes.head?, bytes.tail) := by
  cases bytes <;> rfl

theorem behindOptions_fixed (first a₀ a₁ a₂ a₃ c n₀ n₁ : UInt8) {tail : List UInt8}
    (h : 4 ≤ tail.length) :
    behindOptions (first :: a₀ :: a₁ :: a₂ :: a₃ :: c :: n₀ :: n₁ :: tail) =
      (tail.take (tail.length - 4)).drop (Byte.lowNibble c).toNat := by
  have hstop : tail.length + 8 - 4 = tail.length - 4 + 8 := by omega
  unfold behindOptions
  rw [Nat.add_comm 8]
  change ((first :: a₀ :: a₁ :: a₂ :: a₃ :: c :: n₀ :: n₁ :: tail).take (tail.length + 8 - 4)).drop
    ((Byte.lowNibble c).toNat + 8) = _
  rw [hstop]
  rfl

/-- The header is read off between the message header and the integrity code. -/
theorem decode?_spelled {first : UInt8} {rest : List UInt8} (hlen : ¬(first :: rest).length < 12) :
    FrameHeader.decode? (way (first :: rest)) (rest.take (rest.length - integrityLength)) =
      if (first :: rest).length - 5 < 7 + optionsLengthAt (first :: rest) then none
      else some ((spelled (first :: rest)).header, behindOptions (first :: rest)) := by
  rw [List.length_cons] at hlen
  have hfixed : ¬rest.length < 7 := by omega
  obtain ⟨a₀, a₁, a₂, a₃, c, n₀, n₁, tail, rfl⟩ := FrameHeader.exists_fixed hfixed
  simp only [List.length_cons] at hlen
  have hstop : tail.length + 7 - integrityLength = tail.length - 4 + 7 := by
    unfold integrityLength
    omega
  rw [behindOptions_fixed first a₀ a₁ a₂ a₃ c n₀ n₁ (by omega)]
  change FrameHeader.decode? _ ((a₀ :: a₁ :: a₂ :: a₃ :: c :: n₀ :: n₁ :: tail).take
    (tail.length + 7 - integrityLength)) =
      if tail.length + 8 - 5 < 7 + (Byte.lowNibble c).toNat then _ else _
  rw [hstop]
  change (if (tail.take (tail.length - 4)).length < (Byte.lowNibble c).toNat then _ else _) = _
  rw [List.length_take_of_le (Nat.sub_le _ _)]
  -- Both sides compare the length of the options with what is left for them.
  by_cases hroom : tail.length - 4 < (Byte.lowNibble c).toNat
  · rw [if_pos hroom, if_pos (by omega)]
  · have htake : (tail.take (tail.length - 4)).take (Byte.lowNibble c).toNat =
        tail.take (Byte.lowNibble c).toNat := by
      rw [List.take_take, Nat.min_eq_left (Nat.le_of_not_lt hroom)]
    rw [if_neg hroom, if_neg (by omega)]
    change some (FrameHeader.mk _ _ _
      (Command.decodeAll _ ((tail.take _).take (Byte.lowNibble c).toNat)).1, _) = _
    rw [htake]
    rfl

/-! ## The requirements -/

/-- What bytes must be like to be a data frame. -/
inductive Requirement where
  | nonempty
  /-- The message is of the one format there is. -/
  | knownFormat
  | isData
  /-- There is room for the headers and the integrity code. -/
  | longEnough
  /-- And there is room for the options. -/
  | optionsFit
  /-- A frame with commands in its payload has no command in its options. -/
  | commandsOnce
deriving DecidableEq

namespace Requirement

/-- The order in which the requirements are checked. -/
def order : List Requirement :=
  [nonempty, knownFormat, isData, longEnough, optionsFit, commandsOnce]

theorem mem_order (q : Requirement) : q ∈ order := by
  cases q <;> decide

/-- What is wrong with bytes that do not meet a requirement. -/
def error : Requirement → DecodeError
  | nonempty => .empty
  | knownFormat => .unknownFormat
  | isData => .notData
  | longEnough | optionsFit => .tooShort
  | commandsOnce => .commandsTwice

def Met (bytes : List UInt8) : Requirement → Prop
  | nonempty => bytes ≠ []
  | knownFormat => firstByte bytes % 4 = 0
  | isData => 2 ≤ firstByte bytes / 32 ∧ firstByte bytes / 32 ≤ 5
  | longEnough => 12 ≤ bytes.length
  | optionsFit => 7 + optionsLengthAt bytes ≤ bytes.length - 5
  | commandsOnce => (behindOptions bytes).head? = some 0 →
      ∀ c : Command, c.direction = way bytes → ¬c.encode <+: optionBytes bytes

/-- No command can be read at the start of the options just if none is read. -/
theorem met_commandsOnce_iff {bytes : List UInt8} : Met bytes commandsOnce ↔
    ((spelled bytes).port = some 0 → (spelled bytes).header.options = []) := by
  have hnil := (Command.leading_decodeAll (way bytes) (optionBytes bytes)).eq_nil_iff
  exact ⟨fun h hzero => hnil.mpr (h hzero), fun h hzero => hnil.mp (h hzero)⟩

instance (bytes : List UInt8) (q : Requirement) : Decidable (Met bytes q) :=
  match q with
  | nonempty => inferInstanceAs (Decidable (bytes ≠ []))
  | knownFormat => inferInstanceAs (Decidable (firstByte bytes % 4 = 0))
  | isData => inferInstanceAs (Decidable (2 ≤ firstByte bytes / 32 ∧ firstByte bytes / 32 ≤ 5))
  | longEnough => inferInstanceAs (Decidable (12 ≤ bytes.length))
  | optionsFit => inferInstanceAs (Decidable (7 + optionsLengthAt bytes ≤ bytes.length - 5))
  | commandsOnce => decidable_of_iff _ met_commandsOnce_iff.symm

/-- All requirements before this one in their order are met, and this one is not. -/
def FirstUnmet (bytes : List UInt8) (q : Requirement) : Prop :=
  ∃ before after, order = before ++ q :: after ∧ (∀ p ∈ before, Met bytes p) ∧ ¬Met bytes q

end Requirement

open Requirement

/-- The frame that is spelled, or what is wrong with the first requirement that is not met. -/
def checked (bytes : List UInt8) : List Requirement → Except DecodeError DataFrame
  | [] => .ok (spelled bytes)
  | q :: rest => if Met bytes q then checked bytes rest else .error q.error

theorem checked_eq_ok_iff {bytes : List UInt8} {qs : List Requirement} {f : DataFrame} :
    checked bytes qs = .ok f ↔ (∀ q ∈ qs, Met bytes q) ∧ spelled bytes = f := by
  induction qs with
  | nil => exact ⟨fun h => ⟨nofun, Except.ok.inj h⟩, fun h => congrArg Except.ok h.2⟩
  | cons q rest ih =>
    rw [checked, List.forall_mem_cons]
    by_cases hmet : Met bytes q
    · rw [if_pos hmet, ih, and_iff_right hmet]
    · rw [if_neg hmet]
      exact ⟨nofun, fun h => absurd h.1.1 hmet⟩

/-- By induction on the requirements: the first is the one that is not met, or is met. -/
theorem checked_eq_error_iff {bytes : List UInt8} {qs : List Requirement} {e : DecodeError} :
    checked bytes qs = .error e ↔ ∃ q, (∃ before after, qs = before ++ q :: after ∧
      (∀ p ∈ before, Met bytes p) ∧ ¬Met bytes q) ∧ q.error = e := by
  induction qs with
  | nil =>
    constructor
    · nofun
    · rintro ⟨q, ⟨before, after, hqs, -⟩, -⟩
      exact absurd hqs.symm (List.append_ne_nil_of_right_ne_nil _ (List.cons_ne_nil _ _))
  | cons q rest ih =>
    rw [checked]
    -- A requirement that is met is passed over, and the first that is not decides.
    by_cases hmet : Met bytes q
    · rw [if_pos hmet, ih]
      constructor
      · rintro ⟨q', ⟨before, after, rfl, hbefore, hunmet⟩, herror⟩
        have hall : ∀ p ∈ q :: before, Met bytes p := List.forall_mem_cons.mpr ⟨hmet, hbefore⟩
        exact ⟨q', ⟨q :: before, after, rfl, hall, hunmet⟩, herror⟩
      · rintro ⟨q', ⟨before, after, hqs, hbefore, hunmet⟩, herror⟩
        cases before with
        | nil =>
          cases hqs
          exact absurd hmet hunmet
        | cons p before =>
          cases hqs
          exact ⟨q', ⟨before, after, rfl, (List.forall_mem_cons.mp hbefore).2, hunmet⟩, herror⟩
    · rw [if_neg hmet]
      constructor
      · intro h
        exact ⟨q, ⟨[], rest, rfl, nofun, hmet⟩, Except.error.inj h⟩
      · rintro ⟨q', ⟨before, after, hqs, hbefore, -⟩, herror⟩
        cases before with
        | nil =>
          cases hqs
          exact congrArg Except.error herror
        | cons p before =>
          cases hqs
          exact absurd (hbefore q List.mem_cons_self) hmet

/-- **Decoding is checking the requirements**, one after the other. -/
theorem decode_eq_checked (bytes : List UInt8) : decode bytes = checked bytes order := by
  cases bytes with
  | nil => rfl
  | cons first rest =>
    have hne : Met (first :: rest) nonempty := List.cons_ne_nil first rest
    simp only [order, checked]
    rw [if_pos hne]
    unfold decode minFrameLength
    dsimp only
    -- The checks come in the order of the requirements: each is reached if those before are met.
    by_cases hknown : Met (first :: rest) knownFormat
    · have hformat : (MessageHeader.mk first).knownFormat = true := decide_eq_true hknown
      have hdirection : (MessageHeader.mk first).type.direction? =
          if Met (first :: rest) isData then some (way (first :: rest)) else none :=
        (MessageHeader.mk first).direction?_type
      rw [hformat, if_neg (by decide), if_pos hknown, hdirection]
      by_cases hdata : Met (first :: rest) isData
      · rw [if_pos hdata, if_pos hdata]
        dsimp only
        by_cases hlen : Met (first :: rest) longEnough
        · rw [if_neg (Nat.not_lt.mpr hlen), if_pos hlen, decode?_spelled (Nat.not_lt.mpr hlen)]
          by_cases hroom : Met (first :: rest) optionsFit
          · rw [if_neg (Nat.not_lt.mpr hroom), if_pos hroom]
            dsimp only
            rw [splitPort_eq]
            by_cases honce : Met (first :: rest) commandsOnce
            · rw [if_pos honce]
              exact if_neg fun h => h.2 (met_commandsOnce_iff.mp honce h.1)
            · rw [if_neg honce]
              exact if_pos (Classical.not_imp.mp (mt met_commandsOnce_iff.mpr honce))
          · rw [if_pos (Nat.lt_of_not_le hroom), if_neg hroom]
            rfl
        · rw [if_pos (Nat.lt_of_not_le hlen), if_neg hlen]
          rfl
      · rw [if_neg hdata, if_neg hdata]
        rfl
    · have hformat : (MessageHeader.mk first).knownFormat = false := decide_eq_false hknown
      rw [hformat, if_neg hknown]
      rfl

/-! ## Every byte -/

/-- Which part of a frame each byte belongs to. -/
structure Accounted (bytes : List UInt8) (f : DataFrame) : Prop where
  /-- The message header, the seven bytes of the header, the options, the port, the payload and
  the last four bytes are all there is. -/
  whole : f.messageHeader.raw :: (f.header.address.bytes ++
    f.header.control.raw :: littleEndian 2 f.header.counter.toNat) ++ optionBytes bytes ++
      f.port.toList ++ f.payload ++ bytes.drop (bytes.length - 4) = bytes
  code : (bytes.drop (bytes.length - 4)).length = 4
  optionsLength : (optionBytes bytes).length = f.header.control.optionsLength
  direction : f.direction = way bytes
  controlDirection : f.header.control.direction = way bytes
  behind : f.port.toList ++ f.payload = behindOptions bytes
  portless : f.port = none ↔ behindOptions bytes = []
  options : Command.Leading (way bytes) (optionBytes bytes) f.header.options
  room : f.header.options.length ≤ maxOptionsLength

theorem way_of_direction? {first : UInt8} {rest : List UInt8} {dir : Direction}
    (h : (MessageHeader.mk first).type.direction? = some dir) : way (first :: rest) = dir := by
  rw [MessageHeader.direction?_type] at h
  split at h
  · exact Option.some.inj h
  · cases h

theorem accounted {bytes : List UInt8} {f : DataFrame} (h : decode bytes = .ok f) :
    Accounted bytes f := by
  obtain ⟨body, code, hparts⟩ := exists_parts h
  obtain ⟨hcontrol, region, hregion, hoptions, hbody⟩ := FrameHeader.decode?_eq_some hparts.header
  have hcode : code.length = 4 := hparts.integrity
  have hwhole := hparts.whole
  have hway : way bytes = f.direction := by
    rw [hwhole]
    exact way_of_direction? hparts.direction
  -- The positions are where the parts were found.
  have hlengthAt : optionsLengthAt bytes = region.length := by
    rw [hregion, hwhole, hbody]
    rfl
  have hoptionBytes : optionBytes bytes = region := by
    unfold optionBytes
    rw [hlengthAt, hwhole, hbody]
    change ((region ++ _) ++ code).take region.length = region
    rw [List.append_assoc, List.take_left]
  have hstop : bytes.length - 4 = (f.messageHeader.raw :: body).length := by
    rw [hwhole, List.length_cons, List.length_append, hcode, List.length_cons]
    omega
  have hlast : bytes.drop (bytes.length - 4) = code := by
    rw [hstop, hwhole]
    exact List.drop_left
  have hbehind : behindOptions bytes = f.port.toList ++ f.payload := by
    have htake : bytes.take (bytes.length - 4) = f.messageHeader.raw :: body := by
      rw [hstop, hwhole]
      exact List.take_left
    unfold behindOptions
    rw [hlengthAt, htake, hbody, ← List.drop_drop, FrameHeader.drop_bytes, List.drop_left]
  have hleading : Command.Leading (way bytes) (optionBytes bytes) f.header.options := by
    rw [hway, hoptionBytes, hoptions]
    exact Command.leading_decodeAll _ _
  have hroom : (optionBytes bytes).length ≤ maxOptionsLength := by
    rw [hoptionBytes, hregion]
    exact FrameControl.optionsLength_le _
  refine
    { whole := ?_
      code := by rw [hlast, hcode]
      optionsLength := by rw [hoptionBytes, hregion]
      direction := hway.symm
      controlDirection := by rw [hcontrol, hway]
      behind := hbehind.symm
      portless := ?_
      options := hleading
      room := Nat.le_trans hleading.length_le hroom }
  · rw [hoptionBytes, hlast, hwhole, hbody]
    simp only [List.append_assoc, List.cons_append]
  · rw [hbehind, List.append_eq_nil_iff, Option.toList_eq_nil_iff]
    exact ⟨fun hnone => ⟨hnone, hparts.ported hnone⟩, And.left⟩

/-! ## What is a frame and what is not -/

theorem decode_isOk_iff {bytes : List UInt8} :
    (∃ f, decode bytes = .ok f) ↔ ∀ q, Met bytes q := by
  rw [decode_eq_checked]
  constructor
  · rintro ⟨f, h⟩ q
    exact (checked_eq_ok_iff.mp h).1 q (mem_order q)
  · intro h
    exact ⟨_, checked_eq_ok_iff.mpr ⟨fun q _ => h q, rfl⟩⟩

theorem decode_eq_error_iff {bytes : List UInt8} {e : DecodeError} :
    decode bytes = .error e ↔ ∃ q, FirstUnmet bytes q ∧ q.error = e := by
  rw [decode_eq_checked]
  exact checked_eq_error_iff

/--
**The grammar of data frames.**

Reading in place never fails, and gives what is decoded. Bytes are a frame just if they meet all the
requirements, and otherwise the error is that of the first requirement that is not met. Of a frame
every byte is accounted for.
-/
theorem read_grammar (bytes : List UInt8) :
    read bytes = .ok (decode bytes) ∧
    ((∃ f, decode bytes = .ok f) ↔ ∀ q, Met bytes q) ∧
    (∀ e, decode bytes = .error e ↔ ∃ q, FirstUnmet bytes q ∧ q.error = e) ∧
    ∀ f, decode bytes = .ok f → Accounted bytes f :=
  ⟨read_eq bytes, decode_isOk_iff, fun _ => decode_eq_error_iff, fun _ => accounted⟩

/-- Options that end early, and a payload. -/
theorem read_grammar_cut_short :
    ∃ f, decode [0x60, 1, 0, 0, 0, 0x23, 9, 0, 0x06, 0x7F, 0x04, 2, 104, 105, 0, 0, 0, 0] = .ok f ∧
      Accounted [0x60, 1, 0, 0, 0, 0x23, 9, 0, 0x06, 0x7F, 0x04, 2, 104, 105, 0, 0, 0, 0] f := by
  have hgrammar :=
    read_grammar [0x60, 1, 0, 0, 0, 0x23, 9, 0, 0x06, 0x7F, 0x04, 2, 104, 105, 0, 0, 0, 0]
  have hmet : ∀ q,
      Met [0x60, 1, 0, 0, 0, 0x23, 9, 0, 0x06, 0x7F, 0x04, 2, 104, 105, 0, 0, 0, 0] q := by
    intro q
    cases q with
    | commandsOnce => exact fun hzero => absurd hzero (by decide)
    | _ => decide
  obtain ⟨f, hf⟩ := hgrammar.2.1.mpr hmet
  exact ⟨f, hf, hgrammar.2.2.2 f hf⟩

/-! ## Commands in both places -/

/-- If nothing else is wrong, it comes down to where the commands are. -/
theorem decode_of_others {bytes : List UInt8} (h : ∀ q, q ≠ commandsOnce → Met bytes q) :
    decode bytes =
      if Met bytes commandsOnce then .ok (spelled bytes) else .error .commandsTwice := by
  rw [decode_eq_checked]
  simp only [order, checked]
  rw [if_pos (h nonempty nofun), if_pos (h knownFormat nofun), if_pos (h isData nofun),
    if_pos (h longEnough nofun), if_pos (h optionsFit nofun)]
  rfl

/--
**A frame with commands in its payload is refused just if its options start with a command.**

Then it is refused for that reason, unless something else is wrong with it. Options that do not
start with a command are passed over, however many bytes there are. So the commands of a frame on
port 0 are always those of its payload.
-/
theorem refused_iff_options_start (bytes : List UInt8) :
    (∀ f, decode bytes = .ok f → f.port = some 0 →
      f.commands = Command.decodeAll f.direction f.payload ∧
      ∀ c : Command, c.direction = f.direction → ¬c.encode <+: optionBytes bytes) ∧
    ((∀ q, q ≠ commandsOnce → Met bytes q) → (behindOptions bytes).head? = some 0 →
      (decode bytes = .error .commandsTwice ↔
        ∃ c : Command, c.direction = way bytes ∧ c.encode <+: optionBytes bytes) ∧
      ((∃ f, decode bytes = .ok f) ↔
        ∀ c : Command, c.direction = way bytes → ¬c.encode <+: optionBytes bytes)) := by
  constructor
  · intro f h hzero
    obtain ⟨body, code, hparts⟩ := exists_parts h
    have hoptions := hparts.once hzero
    have haccount := accounted h
    refine ⟨commands_of_payload hzero hoptions, ?_⟩
    rw [haccount.direction]
    exact haccount.options.eq_nil_iff.mp hoptions
  · intro hothers hzero
    have honce : Met bytes commandsOnce ↔
        ∀ c : Command, c.direction = way bytes → ¬c.encode <+: optionBytes bytes :=
      ⟨fun h => h hzero, fun h _ => h⟩
    rw [decode_of_others hothers]
    by_cases hmet : Met bytes commandsOnce
    · rw [if_pos hmet]
      refine ⟨⟨nofun, ?_⟩, fun _ => honce.mp hmet, fun _ => ⟨_, rfl⟩⟩
      rintro ⟨c, hdir, hstart⟩
      exact absurd hstart (honce.mp hmet c hdir)
    · rw [if_neg hmet]
      -- That some command stands there comes from its not being true that none does.
      have hsome := mt honce.mpr hmet
      refine ⟨⟨fun _ => ?_, fun _ => rfl⟩, nofun, fun hnone => absurd hnone hsome⟩
      obtain ⟨c, hc⟩ := Classical.not_forall.mp hsome
      obtain ⟨hdir, hstart⟩ := Classical.not_imp.mp hc
      exact ⟨c, hdir, Classical.not_not.mp hstart⟩

/-- A downlink on port 0 with one byte of options. -/
def onPortZero (option : UInt8) : List UInt8 :=
  [0x60, 1, 0, 0, 0, 0x01, 5, 0, option, 0, 0, 0, 0, 0]

theorem met_onPortZero (option : UInt8) :
    ∀ q, q ≠ commandsOnce → Met (onPortZero option) q := by
  intro q hq
  cases q with
  | commandsOnce => exact absurd rfl hq
  | knownFormat =>
    change (0x60 : UInt8) % 4 = 0
    decide
  | isData =>
    change 2 ≤ (0x60 : UInt8) / 32 ∧ (0x60 : UInt8) / 32 ≤ 5
    decide
  | _ => exact of_decide_eq_true rfl

/-- The byte 06 is a command of the network, and with it the frame is refused. -/
theorem refused_iff_options_start_command :
    decode (onPortZero 0x06) = .error .commandsTwice :=
  ((refused_iff_options_start _).2 (met_onPortZero 0x06) rfl).1.mpr
    ⟨.devStatusReq, rfl, by decide⟩

/-- The byte 7F is none. The frame is not refused, though it has options. -/
theorem options_beside_port_zero :
    ∃ f, decode (onPortZero 0x7F) = .ok f ∧ f.port = some 0 ∧
      f.header.control.optionsLength = 1 := by
  have hunknown : Command.decodeOne .down 0x7F [] = .error .unknown := rfl
  have honce : Met (onPortZero 0x7F) commandsOnce :=
    met_commandsOnce_iff.mpr fun _ => congrArg Prod.fst (Command.decodeAll_error hunknown)
  exact ⟨_, (decode_of_others (met_onPortZero 0x7F)).trans (if_pos honce), rfl, rfl⟩

end DataFrame

end LoraLink
