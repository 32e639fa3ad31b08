import LoraLink.Proofs.Grammar
import LoraLink.Proofs.Storage

/-!
# Headers are read as they were written, wherever they stand

The length of the options is kept in three places: it is the sum of the lengths of the commands, it
stands in the lower nibble of the control byte, and it is how far a reader goes. What holds the
three together is that a header never has more than 15 bytes of options. A new header has none, and
every edit keeps to the bound: a command that would break it is not added. So the nibble can hold
the length, and a reader comes to the end of the header, whatever stands before it in a buffer and
behind it on air.

A header can also be filled without regard to the bound. It is then refused as a whole.
-/

namespace LoraLink

namespace FrameHeader

/-! ## Edits -/

/-- What is done to a header before it is written: a field of the control byte is set, or it is
tried to add a command. -/
inductive Edit where
  | adr (b : Bool)
  | adrAckReq (b : Bool)
  | ack (b : Bool)
  /-- "Pending" on a downlink, "class B" on an uplink. -/
  | bit4 (b : Bool)
  | optionsLength (n : Nat)
  | push (c : Command)
deriving DecidableEq

/-- The header after an edit. -/
def edit (h : FrameHeader) : Edit → FrameHeader
  | .adr b => { h with control := h.control.setAdr b }
  | .adrAckReq b => { h with control := h.control.setAdrAckReq b }
  | .ack b => { h with control := h.control.setAck b }
  | .bit4 b => { h with control := h.control.setBit4 b }
  | .optionsLength n => { h with control := h.control.setOptionsLength n }
  | .push c => (h.tryPush c).2

def editAll (h : FrameHeader) (edits : List Edit) : FrameHeader := edits.foldl edit h

/-- The room in the list of options is never what keeps a command out. -/
theorem tryPush_eq_push? (h : FrameHeader) (c : Command) :
    h.tryPush c =
      match h.push? c with
      | some h' => (.ok (), h')
      | none => (.error .optionsTooLong, h) := by
  unfold tryPush push?
  by_cases hshort : Command.sizeAll h.options + c.size ≤ maxOptionsLength
  · -- each command takes a byte, so there is room for one more in the list
    have hroom : h.options.length < maxOptionsLength := by
      have hcount := Command.length_le_sizeAll h.options
      have hone : 1 ≤ c.size := Nat.le_add_right 1 _
      omega
    rw [if_neg (Nat.not_lt.mpr hshort), if_pos hshort, pushUnsized?, if_pos hroom]
  · rw [if_pos (Nat.lt_of_not_le hshort), if_neg hshort]

/-- A command is kept out just if the options with it would be too long. -/
theorem tryPush_eq (h : FrameHeader) (c : Command) :
    h.tryPush c =
      if maxOptionsLength < (Command.encodeAll (h.options ++ [c])).length then
        (.error .optionsTooLong, h)
      else (.ok (), { h with options := h.options ++ [c] }) := by
  have hsize : (Command.encodeAll (h.options ++ [c])).length =
      Command.sizeAll h.options + c.size := by
    rw [Command.length_encodeAll, Command.sizeAll_append]
    rfl
  rw [tryPush_eq_push?, push?, hsize]
  by_cases hshort : Command.sizeAll h.options + c.size ≤ maxOptionsLength
  · rw [if_pos hshort, if_neg (Nat.not_lt.mpr hshort)]
  · rw [if_neg hshort, if_pos (Nat.lt_of_not_le hshort)]

/-- A header as it was made, but for its flags and the commands that were added. -/
structure Edited (address : DeviceAddress) (dir : Direction) (counter : UInt16) (h : FrameHeader) :
    Prop where
  address : h.address = address
  counter : h.counter = counter
  direction : h.control.direction = dir
  directions : ∀ c ∈ h.options, c.direction = dir
  fits : Command.sizeAll h.options ≤ maxOptionsLength

variable {address : DeviceAddress} {dir : Direction} {counter : UInt16} {h : FrameHeader}

theorem edited_init (address : DeviceAddress) (dir : Direction) (counter : UInt16) :
    Edited address dir counter (ofAddress address dir counter) :=
  ⟨rfl, rfl, rfl, nofun, Nat.zero_le _⟩

/-- **Preserved by every edit**, if commands are only those of the header's direction. -/
theorem edited_step (hedited : Edited address dir counter h) (e : Edit)
    (hdir : ∀ c, e = .push c → c.direction = dir) : Edited address dir counter (h.edit e) := by
  obtain ⟨haddress, hcounter, hdirection, hdirections, hfits⟩ := hedited
  cases e with
  | adr | adrAckReq | ack | bit4 | optionsLength =>
    exact ⟨haddress, hcounter, hdirection, hdirections, hfits⟩
  | push c =>
    rw [edit, tryPush_eq]
    -- Only a push touches the options, and it leaves them alone when they would not fit.
    by_cases hlong : maxOptionsLength < (Command.encodeAll (h.options ++ [c])).length
    · rw [if_pos hlong]
      exact ⟨haddress, hcounter, hdirection, hdirections, hfits⟩
    · rw [if_neg hlong]
      refine ⟨haddress, hcounter, hdirection, ?_, ?_⟩
      · intro c' hc'
        rcases List.mem_append.mp hc' with hold | hnew
        · exact hdirections c' hold
        · rw [List.mem_singleton.mp hnew]
          exact hdir c rfl
      · rw [Command.length_encodeAll] at hlong
        exact Nat.not_lt.mp hlong

theorem edited_run (hedited : Edited address dir counter h) (edits : List Edit)
    (hdirs : ∀ c, Edit.push c ∈ edits → c.direction = dir) :
    Edited address dir counter (h.editAll edits) := by
  induction edits generalizing h with
  | nil => exact hedited
  | cons e edits ih =>
    have hone : ∀ c, e = .push c → c.direction = dir := by
      rintro c rfl
      exact hdirs c List.mem_cons_self
    exact ih (edited_step hedited e hone) fun c hc => hdirs c (List.mem_cons_of_mem e hc)

/-! ## Writing -/

/-- Options that are too long are refused, and nothing is written. -/
theorem write_too_long (hlong : maxOptionsLength < (Command.encodeAll h.options).length)
    (buffer : FrameBuffer) : h.write buffer = (.error .optionsTooLong, buffer) := by
  rw [Command.length_encodeAll] at hlong
  unfold write
  rw [pieces?_eq_none hlong]

/-- A header comes behind what a buffer holds, if there is room for it, and is else cut short. -/
theorem write_fitting (hfits : Command.sizeAll h.options ≤ maxOptionsLength)
    (buffer : FrameBuffer) :
    (buffer.bytes.length + h.size ≤ buffer.capacity → ∃ buffer',
      h.write buffer = (.ok (), buffer') ∧ buffer'.bytes = buffer.bytes ++ h.bytes) ∧
    (buffer.capacity < buffer.bytes.length + h.size →
      (h.write buffer).1 = .error .bufferTooSmall) := by
  obtain ⟨pieces, hpieces⟩ := exists_pieces hfits
  have hflatten := (pieces?_eq_some hpieces).2
  have hlen : pieces.flatten.length = h.size := by rw [hflatten, length_bytes]
  unfold write
  rw [hpieces]
  dsimp only
  constructor
  · intro hroom
    rw [← hlen] at hroom
    obtain ⟨buffer', hall, hbytes⟩ := buffer.appendAll_of_fits pieces hroom
    rw [hall, ← hflatten]
    exact ⟨buffer', rfl, hbytes⟩
  · intro hshort
    rcases hall : buffer.appendAll pieces with ⟨_ | _, buffer'⟩
    · rfl
    · -- had all pieces been written, the buffer would hold more than it can
      obtain ⟨hcapacity, hbytes⟩ := FrameBuffer.appendAll_eq_true hall
      have hroom := buffer'.fits
      rw [hbytes, List.length_append, hlen, hcapacity] at hroom
      omega

/-- An array is written to as a buffer with its bytes is, and no copy is a fault. -/
theorem extendHeader_holds (h : FrameHeader) {s : Storage} {b : FrameBuffer} (hholds : s.Holds b) :
    ∃ s', (Writer.extendHeader h).runOn s = .ok ((h.write b).1, s') ∧
      s'.Holds (h.write b).2 := by
  unfold write
  by_cases hfits : Command.sizeAll h.options ≤ maxOptionsLength
  · obtain ⟨pieces, hpieces⟩ := exists_pieces hfits
    obtain ⟨s', hrun, hafter⟩ := hholds.extendAll pieces
    rw [Writer.extendHeader_eq hpieces, hpieces]
    dsimp only
    rcases hall : b.appendAll pieces with ⟨_ | _, b'⟩
    -- Whether the pieces fit is decided by the same code on both sides.
    all_goals
      rw [hall] at hrun hafter
      exact ⟨s', hrun, hafter⟩
  · have hlong : maxOptionsLength < Command.sizeAll h.options := Nat.lt_of_not_le hfits
    rw [pieces?_eq_none hlong]
    unfold Writer.extendHeader
    rw [if_pos hlong]
    exact ⟨s, rfl, hholds⟩

/-! ## Reading -/

/-- A header says what went into it. -/
structure ReadAs (a : DeviceAddress) (dir : Direction) (n : UInt16) (flags : UInt8)
    (cs : List Command) (read : FrameHeader) : Prop where
  address : read.address = a
  direction : read.control.direction = dir
  counter : read.counter = n
  options : read.options = cs
  /-- Of the control byte the upper four bits, whatever the length next to them was. -/
  flags : Byte.highNibble read.control.raw = flags
  optionsLength : read.control.optionsLength = (Command.encodeAll cs).length

/-- A header that was edited is read off its own bytes, and no byte behind them. -/
theorem Edited.read (hedited : Edited address dir counter h) (suffix : List UInt8) :
    ∃ parsed, FrameHeader.read dir (h.bytes ++ suffix) = .ok (some (parsed, h.size)) ∧
      ReadAs address dir counter (Byte.highNibble h.control.raw) h.options parsed := by
  obtain ⟨rfl, rfl, rfl, hdirections, hfits⟩ := hedited
  have hnibble := FrameControl.optionsLength_setOptionsLength h.control hfits
  have hregion : (Command.encodeAll h.options).length =
      (h.control.setOptionsLength (Command.sizeAll h.options)).optionsLength := by
    rw [hnibble, Command.length_encodeAll]
  have hdecode := decode?_bytes h.address (h.control.setOptionsLength (Command.sizeAll h.options))
    h.counter hregion suffix
  -- The options are decoded in the direction of the frame control, which the length leaves alone.
  have hkept : (h.control.setOptionsLength (Command.sizeAll h.options)).direction =
      h.control.direction := rfl
  rw [hkept, Command.decodeAll_written hdirections] at hdecode
  have hbytes : h.bytes ++ suffix = h.address.bytes ++
      (h.control.setOptionsLength (Command.sizeAll h.options)).raw ::
        (littleEndian 2 h.counter.toNat ++ (Command.encodeAll h.options ++ suffix)) := by
    unfold bytes
    rw [List.append_assoc, List.cons_append, List.append_assoc]
  refine ⟨⟨h.address, h.control.setOptionsLength (Command.sizeAll h.options), h.counter,
    h.options⟩, ?_, ?_⟩
  -- The length written into the frame control is the number of bytes the reader takes.
  · rw [read_eq, hbytes, hdecode]
    dsimp only [Option.map]
    rw [hnibble]
    rfl
  · exact
      { address := rfl
        direction := rfl
        counter := rfl
        options := rfl
        flags := FrameControl.highNibble_setOptionsLength _ _
        optionsLength := hregion.symm }

/-! ## Both -/

/--
**Headers are read as they were written, in any context.**

A command is kept out of a header just if its options would take more than 15 bytes, and the header
is then as it was. A header that was filled with more is refused, and the buffer is as it was.
Writing into an array does what writing into a buffer does, and is never a fault.

So however a new header is edited, its options take no more than 15 bytes. It is written behind what
a buffer holds, if there is room for it, as as many bytes as it counts; and whatever follows them,
it is read off these bytes with all that went into it.
-/
theorem edited_round_trip (h : FrameHeader) :
    (∀ c, h.tryPush c =
      if maxOptionsLength < (Command.encodeAll (h.options ++ [c])).length then
        (.error .optionsTooLong, h)
      else (.ok (), { h with options := h.options ++ [c] })) ∧
    (maxOptionsLength < (Command.encodeAll h.options).length →
      ∀ buffer, h.write buffer = (.error .optionsTooLong, buffer)) ∧
    (∀ (s : Storage) (b : FrameBuffer), s.Holds b → ∃ s',
      (Writer.extendHeader h).runOn s = .ok ((h.write b).1, s') ∧ s'.Holds (h.write b).2) ∧
    ∀ (address : DeviceAddress) (dir : Direction) (counter : UInt16) (edits : List Edit),
      (∀ c, Edit.push c ∈ edits → c.direction = dir) →
      (ofAddress address dir counter).editAll edits = h →
      (Command.encodeAll h.options).length ≤ maxOptionsLength ∧ h.bytes.length = h.size ∧
      (∀ buffer : FrameBuffer,
        (buffer.bytes.length + h.size ≤ buffer.capacity → ∃ buffer',
          h.write buffer = (.ok (), buffer') ∧ buffer'.bytes = buffer.bytes ++ h.bytes) ∧
        (buffer.capacity < buffer.bytes.length + h.size →
          (h.write buffer).1 = .error .bufferTooSmall)) ∧
      ∀ suffix, ∃ parsed,
        FrameHeader.read dir (h.bytes ++ suffix) = .ok (some (parsed, h.size)) ∧
          ReadAs address dir counter (Byte.highNibble h.control.raw) h.options parsed := by
  refine ⟨tryPush_eq h, write_too_long, fun s b => extendHeader_holds h, ?_⟩
  intro address dir counter edits hdirs hmade
  have hedited : Edited address dir counter h := by
    rw [← hmade]
    exact edited_run (edited_init address dir counter) edits hdirs
  have hshort : (Command.encodeAll h.options).length ≤ maxOptionsLength := by
    rw [Command.length_encodeAll]
    exact hedited.fits
  exact ⟨hshort, length_bytes h, write_fitting hedited.fits, hedited.read⟩

/--
Of three commands the third is kept out; the flags are set in between. The header goes behind a byte
that was there, and is read with two bytes behind it. With all three commands it would be refused.
-/
theorem edited_round_trip_refused :
    (∃ buffer', write ⟨⟨7⟩, ⟨0xA0, .down⟩, 42,
        [.linkADRReq ⟨0x50, ⟨7, 0⟩, 1⟩, .newChannelReq ⟨3, ⟨1, 2, 3⟩, 0x50⟩]⟩
          ⟨32, [0xFF], by decide⟩ = (.ok (), buffer') ∧
      buffer'.bytes =
        [0xFF, 7, 0, 0, 0, 0xAB, 42, 0, 0x03, 0x50, 7, 0, 1, 0x07, 3, 1, 2, 3, 0x50]) ∧
    (∃ parsed, FrameHeader.read .down
        [7, 0, 0, 0, 0xAB, 42, 0, 0x03, 0x50, 7, 0, 1, 0x07, 3, 1, 2, 3, 0x50, 10, 0xFF] =
          .ok (some (parsed, 18)) ∧
      ReadAs ⟨7⟩ .down 42 0xA [.linkADRReq ⟨0x50, ⟨7, 0⟩, 1⟩, .newChannelReq ⟨3, ⟨1, 2, 3⟩, 0x50⟩]
        parsed) ∧
    write ⟨⟨7⟩, ⟨0xA0, .down⟩, 42, [.linkADRReq ⟨0x50, ⟨7, 0⟩, 1⟩,
        .newChannelReq ⟨3, ⟨1, 2, 3⟩, 0x50⟩, .rxParamSetupReq ⟨0, ⟨1, 2, 3⟩⟩]⟩ (.empty 32) =
      (.error .optionsTooLong, .empty 32) := by
  -- All three are requests of the network, so one direction fits them.
  have hdirs : ∀ c, Edit.push c ∈ [.push (.linkADRReq ⟨0x50, ⟨7, 0⟩, 1⟩), .ack true,
      .push (.newChannelReq ⟨3, ⟨1, 2, 3⟩, 0x50⟩), .adr true,
      .push (.rxParamSetupReq ⟨0, ⟨1, 2, 3⟩⟩)] → c.direction = .down := by
    intro c hc
    simp only [List.mem_cons, Edit.push.injEq, reduceCtorEq, List.not_mem_nil, or_false,
      false_or] at hc
    rcases hc with rfl | rfl | rfl <;> rfl
  obtain ⟨-, -, hwrite, hread⟩ := (edited_round_trip _).2.2.2 ⟨7⟩ .down 42 _ hdirs rfl
  exact ⟨(hwrite _).1 (by decide), hread [10, 0xFF], (edited_round_trip _).2.1 (by decide) _⟩

end FrameHeader

end LoraLink
