import LoraLink.Command.Basic

/-!
# Streams of MAC commands

Commands are written one behind the other, with nothing between them and no count in front. Reading
takes command after command off the bytes and stops at the first it cannot read, since nothing says
where the next would begin.
-/

namespace LoraLink

namespace Command

/-- Why reading a stream stopped before its end. -/
inductive StreamError where
  /-- No command of this direction has the identifier. -/
  | unknown
  /-- The bytes end inside the payload. -/
  | truncated
deriving DecidableEq

/-- The bytes of a command on air. -/
def encode (c : Command) : List UInt8 := c.id :: c.payload

/-- The bytes of commands on air. -/
def encodeAll (cs : List Command) : List UInt8 := cs.flatMap encode

/-- The length of commands on air. -/
def sizeAll : List Command → Nat
  | [] => 0
  | c :: cs => c.size + sizeAll cs

/-- Writes commands over the start of `out`, whose rest stays; nothing if they do not fit. -/
def overwrite? (cs : List Command) (out : List UInt8) : Option (List UInt8) :=
  if sizeAll cs ≤ out.length then some (encodeAll cs ++ out.drop (sizeAll cs)) else none

/-- The command that starts with `id` and goes on with `rest`, and the bytes behind it. -/
def decodeOne (dir : Direction) (id : UInt8) (rest : List UInt8) :
    Except StreamError (Command × List UInt8) :=
  match Kind.ofId? id dir with
  | none => .error .unknown
  | some kind =>
    match ofPayload? kind rest with
    | none => .error .truncated
    | some r => .ok r

theorem length_of_ofPayload? {kind : Kind} {bytes rest : List UInt8} {c : Command}
    (h : ofPayload? kind bytes = some (c, rest)) : rest.length ≤ bytes.length := by
  unfold ofPayload? at h
  split at h <;> simp only [Option.some.injEq, Prod.mk.injEq, reduceCtorEq] at h <;>
    obtain ⟨_, rfl⟩ := h <;> simp <;> omega

theorem length_of_decodeOne {dir : Direction} {id : UInt8} {bytes rest : List UInt8} {c : Command}
    (h : decodeOne dir id bytes = .ok (c, rest)) : rest.length ≤ bytes.length := by
  unfold decodeOne at h
  split at h
  · cases h
  · split at h
    · cases h
    · cases h
      exact length_of_ofPayload? (by assumption)

/-- The commands of a stream up to its end, or up to the first that cannot be read and why. -/
def decodeAll (dir : Direction) (bytes : List UInt8) : List Command × Option StreamError :=
  match bytes with
  | [] => ([], none)
  | id :: rest =>
    match h : decodeOne dir id rest with
    | .error e => ([], some e)
    | .ok (c, rest') =>
      have := length_of_decodeOne h
      let (cs, e) := decodeAll dir rest'
      (c :: cs, e)
termination_by bytes.length
decreasing_by simp only [List.length_cons]; omega

/-! ## Byte by byte -/

/-- A place in a stream, from which on it is still to be read. -/
structure Reader where
  direction : Direction
  bytes : List UInt8
  index : Nat := 0

/--
The next item: a command, or why the stream cannot be read on; nothing at its end. Where it cannot
be read on, the reader goes to the end.
-/
def Reader.next (rd : Reader) : Option (Except StreamError Command × Reader) :=
  match rd.bytes.drop rd.index with
  | [] => none
  | id :: rest =>
    match decodeOne rd.direction id rest with
    | .ok (c, _) => some (.ok c, { rd with index := rd.index + c.size })
    | .error e => some (.error e, { rd with index := rd.bytes.length })

/-- Bytes with a piece written over those from an index on. -/
def patch (bytes : List UInt8) (index : Nat) (piece : List UInt8) : List UInt8 :=
  bytes.take index ++ piece ++ bytes.drop (index + piece.length)

/--
Writes commands from an index on, each identifier and each payload over what was there. Gives the
index behind the last.
-/
def writeFrom (out : List UInt8) (index : Nat) : List Command → Nat × List UInt8
  | [] => (index, out)
  | c :: cs =>
    writeFrom (patch (patch out index [c.id]) (index + 1) c.payload) (index + c.payload.length + 1)
      cs

/-- Writes commands over the start of `out` and counts the bytes; nothing if they do not fit. -/
def writeOver? (cs : List Command) (out : List UInt8) : Option (Nat × List UInt8) :=
  if out.length < sizeAll cs then none else some (writeFrom out 0 cs)

end Command

end LoraLink
