import LoraLink.Frame.Draft
import LoraLink.Proofs.Stream

/-!
# Frames are read as they were written

Every part of a frame is of known length but two, the options and the payload, and the length of
the options stands in the control byte. So a frame can be taken apart as it was put together: each
part has a lemma for either direction, and the two theorems about whole frames are put together
from these.

A frame that was written is read with all that went into it, wherever its commands were placed. The
converse needs the frame to be canonical: what a reader passes over, the bits of the message header
that have no meaning and the integrity code, must be what a writer puts there, and there must be no
bytes among the commands that are not commands. Such a frame is written with its own bytes.
-/

namespace LoraLink

/-! ## The message header -/

namespace MessageType

theorem direction?_data (dir : Direction) (confirmed : Bool) :
    (data dir confirmed).direction? = some dir := by
  cases dir <;> cases confirmed <;> rfl

theorem data_isConfirmed {t : MessageType} {dir : Direction} (h : t.direction? = some dir) :
    data dir t.isConfirmed = t := by
  cases t <;> cases h <;> rfl

theorem code_ofCode (code : UInt8) : (ofCode code).code = code % 8 := by
  have hlt : (code % 8).toNat < 8 := by
    simp only [UInt8.toNat_mod, UInt8.reduceToNat]
    omega
  -- Only eight codes are left to be tried.
  obtain ⟨n, hn⟩ : ∃ n : Fin 8, code % 8 = UInt8.ofNat n.val :=
    ⟨⟨(code % 8).toNat, hlt⟩, UInt8.ofNat_toNat.symm⟩
  unfold ofCode
  rw [hn]
  clear hn hlt
  revert n
  decide

end MessageType

namespace MessageHeader

theorem type_ofParts (t : MessageType) (known : Bool) : (ofParts t known).type = t := by
  cases t <;> cases known <;> decide

theorem knownFormat_ofParts (t : MessageType) (known : Bool) :
    (ofParts t known).knownFormat = known := by
  cases t <;> cases known <;> decide

theorem reserved_ofParts (t : MessageType) : (ofParts t true).raw / 4 % 8 = 0 := by
  cases t <;> decide

/-- A header whose bits are all zero, but for its type, is the one that is written. -/
theorem ofParts_type {h : MessageHeader} (hknown : h.knownFormat = true)
    (hzero : h.raw / 4 % 8 = 0) : ofParts h.type true = h := by
  obtain ⟨raw⟩ := h
  have hlow : raw % 4 = 0 := of_decide_eq_true hknown
  have hraw := raw.toNat_lt
  unfold ofParts type
  rw [MessageType.code_ofCode, if_pos rfl]
  congr 1
  -- Of the byte, the type takes the upper three bits, and the other five are zero.
  apply UInt8.toNat_inj.mp
  have hlow' := congrArg UInt8.toNat hlow
  have hzero' := congrArg UInt8.toNat hzero
  simp only [UInt8.toNat_mod, UInt8.toNat_div, UInt8.reduceToNat] at hlow' hzero'
  simp only [UInt8.toNat_add, UInt8.toNat_mul, UInt8.toNat_mod, UInt8.toNat_div, UInt8.reduceToNat]
  omega

end MessageHeader

/-! ## Address, counter and control byte -/

namespace DeviceAddress

theorem bytes_ofBytes (b₀ b₁ b₂ b₃ : UInt8) : (ofBytes b₀ b₁ b₂ b₃).bytes = [b₀, b₁, b₂, b₃] := by
  have hlen : [b₀, b₁, b₂, b₃].length = 4 := rfl
  have hpow : Nat.pow 256 4 = UInt32.size := by decide
  have hlt := ofLittleEndian_lt [b₀, b₁, b₂, b₃]
  rw [hlen, hpow] at hlt
  unfold bytes ofBytes
  rw [UInt32.toNat_ofNat_of_lt' hlt]
  exact littleEndian_ofLittleEndian [b₀, b₁, b₂, b₃]

theorem exists_bytes (a : DeviceAddress) :
    ∃ b₀ b₁ b₂ b₃, a.bytes = [b₀, b₁, b₂, b₃] ∧ ofBytes b₀ b₁ b₂ b₃ = a := by
  refine ⟨_, _, _, _, rfl, ?_⟩
  obtain ⟨value⟩ := a
  have hpow : Nat.pow 256 4 = 4294967296 := by decide
  have hlt : value.toNat < 4294967296 := value.toNat_lt
  have hvalue := ofLittleEndian_littleEndian 4 value.toNat
  rw [hpow, Nat.mod_eq_of_lt hlt] at hvalue
  unfold ofBytes
  congr 1
  apply UInt32.toNat_inj.mp
  rw [UInt32.toNat_ofNat']
  change ofLittleEndian (littleEndian 4 value.toNat) % _ = _
  rw [hvalue]
  exact Nat.mod_eq_of_lt hlt

end DeviceAddress

theorem counter_bytes (n : UInt16) :
    ∃ n₀ n₁, littleEndian 2 n.toNat = [n₀, n₁] ∧ UInt16.ofNat (ofLittleEndian [n₀, n₁]) = n := by
  refine ⟨_, _, rfl, ?_⟩
  have hpow : Nat.pow 256 2 = 65536 := by decide
  have hlt : n.toNat < 65536 := n.toNat_lt
  have hvalue := ofLittleEndian_littleEndian 2 n.toNat
  rw [hpow, Nat.mod_eq_of_lt hlt] at hvalue
  apply UInt16.toNat_inj.mp
  rw [UInt16.toNat_ofNat']
  change ofLittleEndian (littleEndian 2 n.toNat) % _ = _
  rw [hvalue]
  exact Nat.mod_eq_of_lt hlt

theorem bytes_counter (n₀ n₁ : UInt8) :
    littleEndian 2 (UInt16.ofNat (ofLittleEndian [n₀, n₁])).toNat = [n₀, n₁] := by
  have hlen : [n₀, n₁].length = 2 := rfl
  have hpow : Nat.pow 256 2 = UInt16.size := by decide
  have hlt := ofLittleEndian_lt [n₀, n₁]
  rw [hlen, hpow] at hlt
  rw [UInt16.toNat_ofNat_of_lt' hlt]
  exact littleEndian_ofLittleEndian [n₀, n₁]

namespace FrameControl

/-- A length that four bits can hold is read as it was set. -/
theorem optionsLength_setOptionsLength (c : FrameControl) {n : Nat} (h : n ≤ maxOptionsLength) :
    (c.setOptionsLength n).optionsLength = n := by
  unfold maxOptionsLength at h
  unfold setOptionsLength optionsLength
  rw [Byte.lowNibble_ofNibbles]
  simp only [UInt8.toNat_mod, UInt8.toNat_ofNat', UInt8.reduceToNat]
  omega

/-- The flags do not change with the length. -/
theorem highNibble_setOptionsLength (c : FrameControl) (n : Nat) :
    Byte.highNibble (c.setOptionsLength n).raw = Byte.highNibble c.raw := by
  unfold setOptionsLength
  have hlt := Byte.highNibble_lt c.raw
  rw [Byte.highNibble_ofNibbles]
  apply UInt8.toNat_inj.mp
  simp only [UInt8.toNat_mod, UInt8.reduceToNat]
  omega

theorem setOptionsLength_optionsLength (c : FrameControl) :
    c.setOptionsLength c.optionsLength = c := by
  unfold setOptionsLength optionsLength
  rw [UInt8.ofNat_toNat, Byte.ofNibbles_nibbles]

theorem optionsLength_le (c : FrameControl) : c.optionsLength ≤ maxOptionsLength :=
  Nat.le_of_lt_succ (Byte.lowNibble_lt c.raw)

end FrameControl

/-! ## The frame header -/

theorem flatten_pieces (cs : List Command) :
    (cs.flatMap fun c => [[c.id], c.payload]).flatten = Command.encodeAll cs := by
  induction cs with
  | nil => rfl
  | cons c cs ih =>
    rw [List.flatMap_cons, List.flatten_append, ih, Command.encodeAll_cons]
    congr 1
    rw [List.flatten_cons, List.flatten_singleton]
    rfl

namespace FrameHeader

/-- The header on air, if its options are not too long. -/
def bytes (h : FrameHeader) : List UInt8 :=
  h.address.bytes ++ (h.control.setOptionsLength (Command.sizeAll h.options)).raw ::
    (littleEndian 2 h.counter.toNat ++ Command.encodeAll h.options)

theorem length_bytes (h : FrameHeader) : h.bytes.length = h.size := by
  unfold bytes size DeviceAddress.bytes
  simp only [List.length_append, List.length_cons, length_littleEndian, Command.length_encodeAll]
  omega

theorem pieces?_eq_some {h : FrameHeader} {pieces : List (List UInt8)}
    (hp : h.pieces? = some pieces) :
    Command.sizeAll h.options ≤ maxOptionsLength ∧ pieces.flatten = h.bytes := by
  unfold pieces? at hp
  dsimp only at hp
  split at hp
  · rename_i hlen
    cases hp
    refine ⟨hlen, ?_⟩
    rw [List.flatten_cons, List.flatten_cons, List.flatten_cons, flatten_pieces]
    rfl
  · cases hp

theorem exists_pieces {h : FrameHeader} (hlen : Command.sizeAll h.options ≤ maxOptionsLength) :
    ∃ pieces, h.pieces? = some pieces := by
  unfold pieces?
  dsimp only
  rw [if_pos hlen]
  exact ⟨_, rfl⟩

/-- A header is read off the bytes it consists of. -/
theorem decode?_bytes (address : DeviceAddress) (control : FrameControl) (counter : UInt16)
    {region : List UInt8} (hlen : region.length = control.optionsLength) (rest : List UInt8) :
    decode? control.direction (address.bytes ++ control.raw ::
        (littleEndian 2 counter.toNat ++ (region ++ rest))) =
      some (⟨address, control, counter, (Command.decodeAll control.direction region).1⟩, rest) := by
  obtain ⟨a₀, a₁, a₂, a₃, haddress, rfl⟩ := address.exists_bytes
  obtain ⟨n₀, n₁, hcounter, hn⟩ := counter_bytes counter
  rw [haddress, hcounter]
  change decode? control.direction (a₀ :: a₁ :: a₂ :: a₃ :: control.raw :: n₀ :: n₁ ::
    (region ++ rest)) = _
  unfold decode?
  dsimp only
  have hroom : ¬(region ++ rest).length < control.optionsLength := by
    rw [List.length_append]
    omega
  rw [if_neg hroom, ← hlen, List.take_left, List.drop_left, hn]

/-- Behind a message header the options start at the ninth byte. -/
theorem drop_bytes (first control : UInt8) (address : DeviceAddress) (n : Nat)
    (rest : List UInt8) :
    (first :: (address.bytes ++ control :: (littleEndian 2 n ++ rest))).drop 8 = rest := rfl

/-- The bytes a header was read off consist of it and of what was left. -/
theorem decode?_eq_some {dir : Direction} {bytes rest : List UInt8} {h : FrameHeader}
    (hd : decode? dir bytes = some (h, rest)) :
    h.control.direction = dir ∧ ∃ region, region.length = h.control.optionsLength ∧
      h.options = (Command.decodeAll dir region).1 ∧
      bytes = h.address.bytes ++ h.control.raw ::
        (littleEndian 2 h.counter.toNat ++ (region ++ rest)) := by
  unfold decode? at hd
  split at hd
  · rename_i a₀ a₁ a₂ a₃ c n₀ n₁ tail
    dsimp only at hd
    split at hd
    · cases hd
    · rename_i hroom
      cases hd
      -- What was cut into options and rest is put together again, byte by byte.
      refine ⟨rfl, _, ?_, rfl, ?_⟩
      · exact List.length_take_of_le (Nat.le_of_not_lt hroom)
      · rw [DeviceAddress.bytes_ofBytes, bytes_counter, List.take_append_drop]
        rfl
  · cases hd

end FrameHeader

/-! ## Buffers -/

namespace FrameBuffer

/-- Pieces that fit together are all written, one behind the other. -/
theorem appendAll_of_fits (b : FrameBuffer) (pieces : List (List UInt8))
    (h : b.bytes.length + pieces.flatten.length ≤ b.capacity) :
    ∃ b', b.appendAll pieces = (true, b') ∧ b'.bytes = b.bytes ++ pieces.flatten := by
  induction pieces generalizing b with
  | nil => exact ⟨b, rfl, (List.append_nil _).symm⟩
  | cons piece rest ih =>
    rw [List.flatten_cons, List.length_append] at h
    have hpiece : b.bytes.length + piece.length ≤ b.capacity := by omega
    rw [appendAll]
    unfold append?
    rw [dif_pos hpiece]
    dsimp only
    have hrest : (b.bytes ++ piece).length + rest.flatten.length ≤ b.capacity := by
      rw [List.length_append]
      omega
    obtain ⟨b', hrun, hbytes⟩ := ih ⟨b.capacity, b.bytes ++ piece, by simpa using hpiece⟩ hrest
    refine ⟨b', hrun, ?_⟩
    rw [hbytes, List.append_assoc, List.flatten_cons]

/-- If all pieces were written, they stand one behind the other. -/
theorem appendAll_eq_true {b b' : FrameBuffer} {pieces : List (List UInt8)}
    (h : b.appendAll pieces = (true, b')) :
    b'.capacity = b.capacity ∧ b'.bytes = b.bytes ++ pieces.flatten := by
  induction pieces generalizing b with
  | nil =>
    cases h
    exact ⟨rfl, (List.append_nil _).symm⟩
  | cons piece rest ih =>
    rw [appendAll] at h
    unfold append? at h
    split at h
    · rename_i b₁ happend
      split at happend
      · cases happend
        obtain ⟨hcapacity, hbytes⟩ := ih h
        rw [hbytes, List.append_assoc, List.flatten_cons]
        exact ⟨hcapacity, rfl⟩
      · cases happend
    · cases h

end FrameBuffer

/-! ## Drafts -/

namespace Draft

/-- What the options of the frame are. -/
def options (d : Draft) (commands : List Command) : List Command :=
  if d.port = some 0 then [] else commands

/-- What the payload of the frame is. -/
def content (d : Draft) (payload : List UInt8) (commands : List Command) : List UInt8 :=
  if d.port = some 0 then Command.encodeAll commands else payload

/-- Nothing is wrong with a draft in itself. -/
structure Writable (d : Draft) (payload : List UInt8) (commands : List Command) : Prop where
  directions : ∀ c ∈ commands, c.direction = d.direction
  placed : d.port = some 0 → payload = []
  ported : d.port = none → payload = []
  fits : Command.sizeAll (d.options commands) ≤ maxOptionsLength

/-- The frame on air, if nothing is wrong with it. -/
def bytes (d : Draft) (payload : List UInt8) (commands : List Command) : List UInt8 :=
  (MessageHeader.ofParts (.data d.direction d.confirmed) true).raw ::
    ((d.header (d.options commands)).bytes ++ (d.port.toList ++ d.content payload commands) ++
      List.replicate integrityLength 0)

theorem flatten_bodyPieces (d : Draft) (payload : List UInt8) (commands : List Command) :
    (d.bodyPieces payload commands).flatten =
      d.port.toList ++ d.content payload commands ++ List.replicate integrityLength 0 := by
  unfold bodyPieces content
  dsimp only
  rw [List.flatten_append, List.flatten_append, List.flatten_singleton]
  congr 2
  · cases d.port <;> rfl
  · split
    · exact flatten_pieces commands
    · exact List.flatten_singleton

theorem pieces_eq_ok {d : Draft} {payload : List UInt8} {commands : List Command}
    {pieces : List (List UInt8)} (h : d.pieces payload commands = .ok pieces) :
    d.Writable payload commands ∧ pieces.flatten = d.bytes payload commands := by
  -- Past each check, what it has found stands as a hypothesis.
  unfold Draft.pieces at h
  split at h
  · cases h
  rename_i hdirections
  split at h
  · cases h
  rename_i hplaced
  split at h
  · cases h
  rename_i hported
  split at h
  · cases h
  rename_i headerPieces hheader
  cases h
  obtain ⟨hfits, hflatten⟩ := FrameHeader.pieces?_eq_some hheader
  refine ⟨⟨?_, ?_, ?_, hfits⟩, ?_⟩
  · intro c hc
    refine Decidable.byContradiction fun hne => hdirections ?_
    exact List.any_eq_true.mpr ⟨c, hc, decide_eq_true hne⟩
  · exact fun hport => Decidable.byContradiction fun hne => hplaced ⟨hport, hne⟩
  · exact fun hport => Decidable.byContradiction fun hne => hported ⟨hport, hne⟩
  · rw [List.cons_append, List.flatten_cons, List.flatten_append, hflatten, flatten_bodyPieces,
      ← List.append_assoc (d.header _).bytes]
    rfl

theorem Writable.pieces {d : Draft} {payload : List UInt8} {commands : List Command}
    (h : d.Writable payload commands) : ∃ pieces, d.pieces payload commands = .ok pieces := by
  have hdirections : (commands.any fun c => c.direction ≠ d.direction) = false := by
    refine List.any_eq_false.mpr fun c hc => ?_
    exact fun hne => of_decide_eq_true hne (h.directions c hc)
  obtain ⟨headerPieces, hheader⟩ :=
    FrameHeader.exists_pieces (h := d.header (d.options commands)) h.fits
  unfold options at hheader
  unfold Draft.pieces
  rw [hdirections, if_neg Bool.false_ne_true, if_neg (fun hport => hport.2 (h.placed hport.1)),
    if_neg (fun hport => hport.2 (h.ported hport.1)), hheader]
  exact ⟨_, rfl⟩

/-- What was written is the frame, for which there was room. -/
theorem write_eq_ok {d : Draft} {payload : List UInt8} {commands : List Command}
    {buffer buffer' : FrameBuffer} (h : d.write payload commands buffer = (.ok (), buffer')) :
    d.Writable payload commands ∧ (d.bytes payload commands).length ≤ buffer.capacity ∧
      buffer'.bytes = d.bytes payload commands := by
  unfold write at h
  split at h
  · cases h
  · rename_i pieces hpieces
    obtain ⟨hwritable, hflatten⟩ := pieces_eq_ok hpieces
    split at h
    · rename_i b hrun
      cases h
      obtain ⟨hcapacity, hbytes⟩ := FrameBuffer.appendAll_eq_true hrun
      have hframe : buffer'.bytes = d.bytes payload commands := hbytes.trans hflatten
      have hfits := buffer'.fits
      rw [hframe, hcapacity] at hfits
      exact ⟨hwritable, hfits, hframe⟩
    · cases h

/-- A frame with which nothing is wrong is written, if there is room for it. -/
theorem Writable.write {d : Draft} {payload : List UInt8} {commands : List Command}
    (h : d.Writable payload commands) (buffer : FrameBuffer)
    (hroom : (d.bytes payload commands).length ≤ buffer.capacity) :
    ∃ buffer', d.write payload commands buffer = (.ok (), buffer') ∧
      buffer'.bytes = d.bytes payload commands := by
  obtain ⟨pieces, hpieces⟩ := h.pieces
  have hflatten := (pieces_eq_ok hpieces).2
  -- The buffer is cleared first, so all of it is room.
  have hfits : buffer.clear.bytes.length + pieces.flatten.length ≤ buffer.clear.capacity := by
    rw [hflatten]
    change 0 + _ ≤ buffer.capacity
    omega
  obtain ⟨buffer', hrun, hbytes⟩ := FrameBuffer.appendAll_of_fits buffer.clear pieces hfits
  refine ⟨buffer', ?_, ?_⟩
  · unfold Draft.write
    rw [hpieces]
    dsimp only
    rw [hrun]
  · rw [hbytes, hflatten]
    rfl

end Draft

/-! ## Frames that were decoded -/

namespace DataFrame

/-- What follows the headers is the port and the payload; there is no payload without a port. -/
theorem splitPort_eq_iff {bytes payload : List UInt8} {port : Option UInt8} :
    splitPort bytes = (port, payload) ↔
      bytes = port.toList ++ payload ∧ (port = none → payload = []) := by
  -- The port is the first byte, if there is one.
  cases bytes with
  | nil =>
    constructor
    · intro h
      cases h
      exact ⟨rfl, fun _ => rfl⟩
    · rintro ⟨h, -⟩
      obtain ⟨hport, hpayload⟩ := List.append_eq_nil_iff.mp h.symm
      rw [Option.toList_eq_nil_iff.mp hport, hpayload]
      rfl
  | cons first rest =>
    constructor
    · intro h
      cases h
      exact ⟨rfl, fun hport => (by cases hport)⟩
    · rintro ⟨h, hnone⟩
      cases port with
      | none =>
        rw [hnone rfl] at h
        cases h
      | some port =>
        cases h
        rfl

/-- The bytes of a frame: its first byte, what its other parts are read off, and a code. -/
structure Parts (bytes : List UInt8) (f : DataFrame) (body code : List UInt8) : Prop where
  whole : bytes = f.messageHeader.raw :: (body ++ code)
  integrity : code.length = integrityLength
  known : f.messageHeader.knownFormat = true
  direction : f.type.direction? = some f.direction
  header : FrameHeader.decode? f.direction body = some (f.header, f.port.toList ++ f.payload)
  ported : f.port = none → f.payload = []
  /-- Commands are in one place. -/
  once : f.port = some 0 → f.header.options = []

theorem exists_parts {bytes : List UInt8} {f : DataFrame} (h : decode bytes = .ok f) :
    ∃ body code, Parts bytes f body code := by
  -- One case is left of each check, in the order in which they are made.
  unfold decode at h
  split at h
  · cases h
  rename_i first rest
  dsimp only at h
  split at h
  · cases h
  rename_i hknown
  split at h
  · cases h
  rename_i dir hdir
  split at h
  · cases h
  rename_i hlen
  split at h
  · cases h
  rename_i header body hheader
  split at h
  · cases h
  rename_i honce
  cases h
  have hsplit : splitPort body = ((splitPort body).1, (splitPort body).2) := rfl
  obtain ⟨hbody, hported⟩ := splitPort_eq_iff.mp hsplit
  have hroom : integrityLength ≤ rest.length := by
    rw [List.length_cons] at hlen
    unfold minFrameLength at hlen
    unfold integrityLength
    omega
  refine ⟨rest.take (rest.length - integrityLength), rest.drop (rest.length - integrityLength), ?_⟩
  refine
    { whole := by rw [List.take_append_drop]
      integrity := by rw [List.length_drop]; omega
      known := by simpa using hknown
      direction := hdir
      header := ?_
      ported := hported
      once := ?_ }
  · rw [hheader]
    exact congrArg (fun rest => some (header, rest)) hbody
  · intro hzero
    exact Decidable.byContradiction fun hne => honce ⟨hzero, hne⟩

/-- Headers and code alone are as long as a frame must be. -/
theorem Parts.minFrameLength_le {bytes body code : List UInt8} {f : DataFrame}
    (h : Parts bytes f body code) : minFrameLength ≤ bytes.length := by
  obtain ⟨-, region, -, -, hbody⟩ := FrameHeader.decode?_eq_some h.header
  have hcode := h.integrity
  rw [h.whole, hbody]
  unfold DeviceAddress.bytes minFrameLength
  unfold integrityLength at hcode
  simp only [List.length_append, List.length_cons, length_littleEndian, hcode]
  omega

theorem Parts.decode {bytes body code : List UInt8} {f : DataFrame}
    (h : Parts bytes f body code) : decode bytes = .ok f := by
  have hlen := Nat.not_lt.mpr h.minFrameLength_le
  obtain ⟨rfl, hcode, hknown, hdir, hheader, hported, honce⟩ := h
  obtain ⟨messageHeader, dir, header, port, payload⟩ := f
  dsimp only [type] at hlen hknown hdir hheader hported honce
  have hbody : (body ++ code).take ((body ++ code).length - integrityLength) = body := by
    rw [List.length_append, hcode, Nat.add_sub_cancel, List.take_left]
  unfold DataFrame.decode
  dsimp only
  rw [hknown, hdir, if_neg (by decide)]
  dsimp only
  rw [if_neg hlen, hbody, hheader]
  dsimp only
  rw [splitPort_eq_iff.mpr ⟨rfl, hported⟩]
  dsimp only
  rw [if_neg (fun h => h.2 (honce h.1))]

/-- Off port 0 all commands are in the options. -/
theorem commands_of_options {f : DataFrame} (h : f.port ≠ some 0) :
    f.commands = (f.header.options, none) := by
  unfold commands
  dsimp only
  rw [if_neg h, Command.decodeAll_nil, List.append_nil]

/-- On port 0 all commands are in the payload. -/
theorem commands_of_payload {f : DataFrame} (h : f.port = some 0)
    (hoptions : f.header.options = []) :
    f.commands = Command.decodeAll f.direction f.payload := by
  unfold commands
  rw [if_pos h, hoptions]
  rfl

end DataFrame

/-! ## Written and read -/

namespace Draft

/-- A frame says what went into a draft, its payload and its commands. -/
structure ReadAs (d : Draft) (payload : List UInt8) (commands : List Command) (f : DataFrame) :
    Prop where
  type : f.type = .data d.direction d.confirmed
  direction : f.direction = d.direction
  address : f.header.address = d.address
  counter : f.header.counter = d.counter
  /-- The flags are kept; the direction tells what they mean. -/
  flags : Byte.highNibble f.header.control.raw = Byte.highNibble d.control
  controlDirection : f.header.control.direction = d.direction
  optionsLength : f.header.control.optionsLength =
    if d.port = some 0 then 0 else (Command.encodeAll commands).length
  port : f.port = d.port
  payload : f.payload = if d.port = some 0 then Command.encodeAll commands else payload
  commands : f.commands = (commands, none)

/-- What is read off the frame of a draft. -/
def reading (d : Draft) (payload : List UInt8) (commands : List Command) : DataFrame where
  messageHeader := .ofParts (.data d.direction d.confirmed) true
  direction := d.direction
  header :=
    { address := d.address
      control := FrameControl.setOptionsLength ⟨d.control, d.direction⟩
        (Command.sizeAll (d.options commands))
      counter := d.counter
      options := d.options commands }
  port := d.port
  payload := d.content payload commands

variable {d : Draft} {payload : List UInt8} {commands : List Command}

theorem Writable.directions_options (h : d.Writable payload commands) :
    ∀ c ∈ d.options commands, c.direction = d.direction := by
  unfold options
  split
  · intro c hc
    cases hc
  · exact h.directions

/-- The parts of a frame are read as they were written. -/
theorem Writable.parts (h : d.Writable payload commands) :
    DataFrame.Parts (d.bytes payload commands) (d.reading payload commands)
      ((d.header (d.options commands)).bytes ++ (d.port.toList ++ d.content payload commands))
      (List.replicate integrityLength 0) where
  whole := rfl
  integrity := List.length_replicate
  known := MessageHeader.knownFormat_ofParts _ _
  direction := by
    unfold DataFrame.type reading
    dsimp only
    rw [MessageHeader.type_ofParts, MessageType.direction?_data]
  header := by
    -- The length of the options is trusted when it is read, and here it is right.
    have hlen : (Command.encodeAll (d.options commands)).length =
        (FrameControl.setOptionsLength ⟨d.control, d.direction⟩
          (Command.sizeAll (d.options commands))).optionsLength := by
      rw [FrameControl.optionsLength_setOptionsLength _ h.fits, Command.length_encodeAll]
    have hread := FrameHeader.decode?_bytes d.address _ d.counter hlen
      (d.port.toList ++ d.content payload commands)
    have hoptions := Command.decodeAll_written h.directions_options
    have hdir : (FrameControl.setOptionsLength ⟨d.control, d.direction⟩
        (Command.sizeAll (d.options commands))).direction = d.direction := rfl
    rw [hdir, hoptions] at hread
    unfold FrameHeader.bytes header reading
    dsimp only
    rw [List.append_assoc, List.cons_append, List.append_assoc]
    exact hread
  ported := by
    intro hnone
    change d.port = none at hnone
    unfold reading content
    dsimp only
    rw [hnone, if_neg nofun]
    exact h.ported hnone
  once := fun hzero => if_pos hzero

theorem Writable.decode_bytes (h : d.Writable payload commands) :
    DataFrame.decode (d.bytes payload commands) = .ok (d.reading payload commands) :=
  h.parts.decode

theorem Writable.readAs (h : d.Writable payload commands) :
    d.ReadAs payload commands (d.reading payload commands) where
  type := MessageHeader.type_ofParts _ _
  direction := rfl
  address := rfl
  counter := rfl
  flags := FrameControl.highNibble_setOptionsLength _ _
  controlDirection := rfl
  optionsLength := by
    unfold reading
    dsimp only
    rw [FrameControl.optionsLength_setOptionsLength _ h.fits, Command.length_encodeAll]
    unfold options
    split <;> rfl
  port := rfl
  payload := rfl
  commands := by
    -- On port 0 the commands are read off the payload, else off the options.
    by_cases hzero : d.port = some 0
    · rw [DataFrame.commands_of_payload hzero (if_pos hzero)]
      unfold reading content
      dsimp only
      rw [if_pos hzero, Command.decodeAll_written h.directions]
    · rw [DataFrame.commands_of_options hzero]
      unfold reading options
      dsimp only
      rw [if_neg hzero]

/--
**A frame that was written is read as what went into it.**

Whatever the draft, the payload and the commands are, and whatever the buffer held: the frame is
written if nothing is wrong with it and there is room for it, and not otherwise. If it was written,
it can be read, and all that it was to say is found in it.
-/
theorem decode_write (d : Draft) (payload : List UInt8) (commands : List Command)
    (buffer : FrameBuffer) :
    ((∃ buffer', d.write payload commands buffer = (.ok (), buffer')) ↔
      d.Writable payload commands ∧ (d.bytes payload commands).length ≤ buffer.capacity) ∧
    ∀ buffer', d.write payload commands buffer = (.ok (), buffer') →
      ∃ f, DataFrame.decode buffer'.bytes = .ok f ∧ d.ReadAs payload commands f := by
  refine ⟨⟨?_, ?_⟩, ?_⟩
  · rintro ⟨buffer', h⟩
    obtain ⟨hwritable, hroom, _⟩ := write_eq_ok h
    exact ⟨hwritable, hroom⟩
  · rintro ⟨hwritable, hroom⟩
    obtain ⟨buffer', h, _⟩ := hwritable.write buffer hroom
    exact ⟨buffer', h⟩
  · intro buffer' h
    obtain ⟨hwritable, _, hbytes⟩ := write_eq_ok h
    rw [hbytes]
    exact ⟨_, hwritable.decode_bytes, hwritable.readAs⟩

/-- An uplink with commands in its options, and a downlink with a command in its payload. -/
theorem decode_write_both_ways :
    (∃ f, DataFrame.decode
        [0x80, 7, 0, 0, 0, 0x83, 42, 0, 0x03, 0x07, 0x02, 10, 1, 2, 3, 0, 0, 0, 0] = .ok f ∧
      ReadAs { confirmed := true, address := ⟨7⟩, control := 0x8F, counter := 42, port := some 10 }
        [1, 2, 3] [.linkADRAns ⟨7⟩, .linkCheckReq] f) ∧
    ∃ f, DataFrame.decode [0x60, 7, 0, 0, 0, 0x20, 42, 0, 0, 0x06, 0, 0, 0, 0] = .ok f ∧
      ReadAs { direction := .down, address := ⟨7⟩, control := 0x20, counter := 42, port := some 0 }
        [] [.devStatusReq] f :=
  ⟨(decode_write _ _ _ (.empty 64)).2 ⟨64, _, by decide⟩ rfl,
    (decode_write _ _ _ (.empty 14)).2 ⟨14, _, by decide⟩ rfl⟩

end Draft

/-! ## Read and written -/

namespace DataFrame

/-- The draft of a frame like this one. -/
def draft (f : DataFrame) : Draft where
  direction := f.direction
  confirmed := f.isConfirmed
  address := f.header.address
  control := f.header.control.raw
  counter := f.header.counter
  port := f.port

/-- The payload of a frame, which is none if there are commands in its place. -/
def data (f : DataFrame) : List UInt8 := if f.port = some 0 then [] else f.payload

/--
Bytes that are read as a frame and hold nothing that the frame does not say: all bits that are
passed over are zero, and wherever there can be commands, there are only commands.
-/
structure Canonical (bytes : List UInt8) (f : DataFrame) : Prop where
  decoded : decode bytes = .ok f
  reserved : f.messageHeader.raw / 4 % 8 = 0
  integrity : bytes.drop (bytes.length - integrityLength) = List.replicate integrityLength 0
  options : (Command.decodeAll f.direction
    ((bytes.drop 8).take f.header.control.optionsLength)).2 = none
  commands : f.port = some 0 → (Command.decodeAll f.direction f.payload).2 = none

variable {bytes : List UInt8} {f : DataFrame}

/-- The commands of a frame go the way of the frame. -/
theorem directions_commands (h : decode bytes = .ok f) :
    ∀ c ∈ f.commands.1, c.direction = f.direction := by
  obtain ⟨body, code, hparts⟩ := exists_parts h
  intro c hc
  by_cases hzero : f.port = some 0
  · rw [commands_of_payload hzero (hparts.once hzero)] at hc
    exact (Command.decodeAll_cases f.direction f.payload).1 c hc
  · obtain ⟨-, region, -, hoptions, -⟩ := FrameHeader.decode?_eq_some hparts.header
    rw [commands_of_options hzero] at hc
    change c ∈ f.header.options at hc
    rw [hoptions] at hc
    exact (Command.decodeAll_cases f.direction region).1 c hc

/-- The commands of a canonical frame are all in its options or all in its payload. -/
theorem Canonical.placed (h : Canonical bytes f) :
    f.draft.options f.commands.1 = f.header.options ∧
      f.draft.content f.data f.commands.1 = f.payload := by
  obtain ⟨body, code, hparts⟩ := exists_parts h.decoded
  unfold Draft.options Draft.content draft data
  dsimp only
  -- On port 0 there are no options, and the payload is read to its end.
  by_cases hzero : f.port = some 0
  · have honce := hparts.once hzero
    rw [if_pos hzero, if_pos hzero, commands_of_payload hzero honce]
    exact ⟨honce.symm, Command.encodeAll_of_decodeAll (h.commands hzero)⟩
  · rw [if_neg hzero, if_neg hzero, if_neg hzero, commands_of_options hzero]
    exact ⟨rfl, rfl⟩

/-- Canonical bytes are the header, as it would be written, with what belongs around it. -/
theorem Canonical.bytes_eq (h : Canonical bytes f) :
    Command.sizeAll f.header.options = f.header.control.optionsLength ∧
      bytes = f.messageHeader.raw :: (f.header.bytes ++ (f.port.toList ++ f.payload) ++
        List.replicate integrityLength 0) := by
  obtain ⟨body, code, hparts⟩ := exists_parts h.decoded
  obtain ⟨-, region, hlen, hread, hbody⟩ := FrameHeader.decode?_eq_some hparts.header
  -- The options are as many bytes as the commands that were read off them.
  have hregion : region = Command.encodeAll f.header.options := by
    have htake : (bytes.drop 8).take f.header.control.optionsLength = region := by
      rw [hparts.whole, hbody, List.append_assoc, List.cons_append, List.append_assoc,
        List.append_assoc, FrameHeader.drop_bytes, ← hlen, List.take_left]
    have hnone := h.options
    rw [htake] at hnone
    rw [hread]
    exact (Command.encodeAll_of_decodeAll hnone).symm
  have hsize : Command.sizeAll f.header.options = f.header.control.optionsLength := by
    rw [← hlen, hregion, Command.length_encodeAll]
  have hzeros : code = List.replicate integrityLength 0 := by
    have hintegrity := h.integrity
    have hwhole : bytes = (f.messageHeader.raw :: body) ++ code := hparts.whole
    rw [hwhole, List.length_append, hparts.integrity, Nat.add_sub_cancel,
      List.drop_left] at hintegrity
    exact hintegrity
  refine ⟨hsize, ?_⟩
  unfold FrameHeader.bytes
  rw [hsize, FrameControl.setOptionsLength_optionsLength, ← hregion, hparts.whole, hbody,
    hzeros]
  simp only [List.append_assoc, List.cons_append]

/-- Nothing is wrong with the draft of a canonical frame. -/
theorem Canonical.writable (h : Canonical bytes f) : f.draft.Writable f.data f.commands.1 where
  directions := directions_commands h.decoded
  placed := fun hzero => if_pos hzero
  ported := by
    intro hnone
    change f.port = none at hnone
    obtain ⟨body, code, hparts⟩ := exists_parts h.decoded
    unfold data
    rw [hnone, if_neg nofun]
    exact hparts.ported hnone
  fits := by
    rw [h.placed.1, h.bytes_eq.1]
    exact f.header.control.optionsLength_le

/-- The draft of a canonical frame puts down its bytes. -/
theorem Canonical.bytes_draft (h : Canonical bytes f) :
    f.draft.bytes f.data f.commands.1 = bytes := by
  obtain ⟨hoptions, hcontent⟩ := h.placed
  obtain ⟨body, code, hparts⟩ := exists_parts h.decoded
  -- The first byte is made of the type, as the bits between are zero.
  have hfirst : MessageHeader.ofParts (.data f.direction f.isConfirmed) true = f.messageHeader := by
    unfold isConfirmed
    rw [MessageType.data_isConfirmed hparts.direction]
    exact MessageHeader.ofParts_type hparts.known h.reserved
  have hheader' : f.draft.header f.header.options = f.header := by
    have hcontrol : (⟨f.header.control.raw, f.direction⟩ : FrameControl) = f.header.control := by
      rw [← (FrameHeader.decode?_eq_some hparts.header).1]
    unfold Draft.header draft
    dsimp only
    rw [hcontrol]
  unfold Draft.bytes
  rw [hcontent, hoptions, hheader']
  unfold draft
  dsimp only
  rw [hfirst]
  exact h.bytes_eq.2.symm

/-- Whatever is written is canonical. -/
theorem canonical_reading {d : Draft} {payload : List UInt8} {commands : List Command}
    (h : d.Writable payload commands) :
    Canonical (d.bytes payload commands) (d.reading payload commands) where
  decoded := h.decode_bytes
  reserved := MessageHeader.reserved_ofParts _
  integrity := by
    unfold Draft.bytes
    rw [← List.cons_append, List.length_append, List.length_replicate, Nat.add_sub_cancel,
      List.drop_left]
  options := by
    unfold Draft.bytes FrameHeader.bytes Draft.reading Draft.header
    dsimp only
    rw [FrameControl.optionsLength_setOptionsLength _ h.fits, List.append_assoc, List.append_assoc,
      List.cons_append, List.append_assoc, FrameHeader.drop_bytes, ← Command.length_encodeAll,
      List.take_left, Command.decodeAll_written h.directions_options]
  -- On port 0 the commands are the payload, and these were written there.
  commands := by
    intro hzero
    change d.port = some 0 at hzero
    unfold Draft.reading Draft.content
    dsimp only
    rw [if_pos hzero, Command.decodeAll_written h.directions]

/--
**A frame that was read is written as it was**, if nothing was passed over.

There is never anything wrong with what was read off canonical bytes, and a buffer that could hold
these bytes can hold what is written, which are the same bytes. So no two canonical frames are read
alike.
-/
theorem Canonical.write_draft (h : Canonical bytes f) :
    (∀ buffer : FrameBuffer, bytes.length ≤ buffer.capacity →
      ∃ buffer', f.draft.write f.data f.commands.1 buffer = (.ok (), buffer') ∧
        buffer'.bytes = bytes) ∧
      ∀ bytes', Canonical bytes' f → bytes' = bytes := by
  refine ⟨?_, ?_⟩
  · intro buffer hroom
    rw [← h.bytes_draft] at hroom ⊢
    exact h.writable.write buffer hroom
  · intro bytes' h'
    rw [← h'.bytes_draft, h.bytes_draft]

/-- A downlink with two commands in its payload fits into a buffer of its own length. -/
theorem write_draft_commands :
    ∃ buffer', Draft.write
        { direction := .down, address := ⟨7⟩, control := 0x20, counter := 42, port := some 0 }
        [] [.devStatusReq, .linkCheckAns ⟨20, 3⟩] (.empty 17) = (.ok (), buffer') ∧
      buffer'.bytes = [0x60, 7, 0, 0, 0, 0x20, 42, 0, 0, 0x06, 0x02, 20, 3, 0, 0, 0, 0] := by
  have hwritable : Draft.Writable
      { direction := .down, address := ⟨7⟩, control := 0x20, counter := 42, port := some 0 }
      [] [.devStatusReq, .linkCheckAns ⟨20, 3⟩] :=
    ⟨by decide, by decide, by decide, by decide⟩
  have h := (Canonical.write_draft (canonical_reading hwritable)).1 (.empty 17) (Nat.le_refl _)
  rw [hwritable.readAs.commands] at h
  exact h

end DataFrame
end LoraLink
