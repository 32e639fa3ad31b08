import LoraLink.Device.Uplink
import LoraLink.Proofs.Frame

/-!
# Every uplink can be written

The frame of an uplink is put together from what is queued and what the caller gave. It can always
be written: the options are cut to what a header can hold, and the buffer is made for the longest
payload behind full options. What the caller must keep to is checked before the uplink is taken.
-/

namespace LoraLink

namespace EndDevice

/-! ## The options -/

theorem fitting_sublist (room : Nat) (queue : List Command) :
    (fitting room queue).Sublist queue := by
  induction queue generalizing room with
  | nil => exact List.Sublist.refl _
  | cons c rest ih =>
    rw [fitting]
    split
    · exact (ih (room - c.size)).cons_cons c
    · exact List.nil_sublist _

theorem sizeAll_fitting (room : Nat) (queue : List Command) :
    Command.sizeAll (fitting room queue) ≤ room := by
  induction queue generalizing room with
  | nil => exact Nat.zero_le room
  | cons c rest ih =>
    rw [fitting]
    split
    · rename_i hfits
      have hrest := ih (room - c.size)
      rw [Command.sizeAll]
      omega
    · exact Nat.zero_le room

theorem fitting_prefix (room : Nat) (queue : List Command) : fitting room queue <+: queue := by
  induction queue generalizing room with
  | nil => exact List.prefix_rfl
  | cons c rest ih =>
    rw [fitting]
    split
    · exact (List.cons_prefix_cons).mpr ⟨rfl, ih (room - c.size)⟩
    · exact List.nil_prefix

/-- No more commands from the start of the queue would fit. -/
theorem prefix_fitting {room : Nat} {cs queue : List Command} (hstart : cs <+: queue)
    (hfits : Command.sizeAll cs ≤ room) : cs <+: fitting room queue := by
  induction cs generalizing room queue with
  | nil => exact List.nil_prefix
  | cons c cs ih =>
    cases queue with
    | nil => cases List.prefix_nil.mp hstart
    | cons c' rest =>
      obtain ⟨rfl, hrest⟩ := List.cons_prefix_cons.mp hstart
      rw [Command.sizeAll] at hfits
      have hc : c.size ≤ room := by omega
      -- The first one fits, and what it leaves is enough for the others.
      have hcs : Command.sizeAll cs ≤ room - c.size := by omega
      rw [fitting, if_pos hc]
      exact List.cons_prefix_cons.mpr ⟨rfl, ih hrest hcs⟩

/-- There are no more options than bytes for them. -/
theorem length_fitting (room : Nat) (queue : List Command) :
    (fitting room queue).length ≤ room :=
  Nat.le_trans (Command.length_le_sizeAll _) (sizeAll_fitting room queue)

/-! ## The frame -/

variable (r : Region)

/-- Only data for the port of commands would put the draft of an uplink on that port. -/
theorem port_draft {d : EndDevice} {u : HeldUplink} (hport : u.port = 0 → u.payload = []) :
    (d.draft r u).port ≠ some 0 := by
  intro hzero
  unfold draft at hzero
  dsimp only at hzero
  split at hzero
  · cases hzero
  · rename_i hne
    exact hne (hport (Option.some.inj hzero))

/-- Nothing is wrong with the draft of an uplink. -/
theorem writable_draft {d : EndDevice} {u : HeldUplink} (hqueue : ∀ c ∈ d.queue, c.direction = .up)
    (hport : u.port = 0 → u.payload = []) :
    (d.draft r u).Writable u.payload d.nextOptions where
  directions := fun c hc => hqueue c ((fitting_sublist _ _).subset hc)
  placed := fun hzero => absurd hzero (port_draft r hport)
  ported := by
    intro hnone
    refine Decidable.byContradiction fun hne => ?_
    unfold draft at hnone
    dsimp only at hnone
    rw [if_neg hne] at hnone
    cases hnone
  fits := by
    unfold Draft.options
    rw [if_neg (port_draft r hport)]
    exact sizeAll_fitting _ _

/-- The buffer holds full options, a port and the longest payload. -/
theorem length_bytes_draft {d : EndDevice} {u : HeldUplink} (hport : u.port = 0 → u.payload = [])
    (hlen : u.payload.length ≤ maxPayload) :
    ((d.draft r u).bytes u.payload d.nextOptions).length ≤ bufferCapacity := by
  have hoptions : Command.sizeAll d.nextOptions ≤ maxOptionsLength := sizeAll_fitting _ _
  have hone : (d.draft r u).port.toList.length ≤ 1 := by
    cases (d.draft r u).port with
    | none => exact Nat.zero_le 1
    | some port => exact Nat.le_refl 1
  have hsize : ((d.draft r u).header d.nextOptions).size = 7 + Command.sizeAll d.nextOptions := rfl
  unfold Draft.bytes Draft.options Draft.content
  rw [if_neg (port_draft r hport), if_neg (port_draft r hport)]
  simp only [List.length_cons, List.length_append, FrameHeader.length_bytes, hsize,
    List.length_replicate]
  unfold maxOptionsLength at hoptions
  unfold maxPayload at hlen
  unfold bufferCapacity minFrameLength maxOptionsLength maxPayload integrityLength
  omega

/--
**Every uplink can be written.**

The commands that go along must be for the network, a payload must not be on port 0, and it must be
no longer than a device can hold.
-/
theorem frame_isOk {d : EndDevice} {u : HeldUplink} (hqueue : ∀ c ∈ d.queue, c.direction = .up)
    (hport : u.port = 0 → u.payload = []) (hlen : u.payload.length ≤ maxPayload) :
    ∃ bytes, d.frame r u = .ok bytes := by
  obtain ⟨buffer, hrun, -⟩ :=
    (writable_draft r hqueue hport).write (.empty bufferCapacity) (length_bytes_draft r hport hlen)
  unfold frame
  rw [hrun]
  exact ⟨buffer.bytes, rfl⟩

/-- A frame is the draft that was written. -/
theorem frame_eq_ok {d : EndDevice} {u : HeldUplink} {bytes : List UInt8}
    (h : d.frame r u = .ok bytes) : (d.draft r u).Writable u.payload d.nextOptions ∧
      bytes = (d.draft r u).bytes u.payload d.nextOptions := by
  unfold frame at h
  split at h
  · rename_i buffer hrun
    cases h
    obtain ⟨hwritable, _, hbytes⟩ := Draft.write_eq_ok hrun
    exact ⟨hwritable, hbytes⟩
  · cases h

end EndDevice

end LoraLink
