import LoraLink.Proofs.Acknowledgement
import LoraLink.Proofs.Closing
import LoraLink.Proofs.Delivery
import Mathlib.Data.List.Forall2

/-!
# Foreign traffic

The air is shared. A device hears other devices, downlinks for other devices, and bytes that are no
frame at all, and whoever sends them may choose them freely. All that such a reception tells the
device is that it has ended, and that it would have been told as well if nothing could be made of
what was heard.

This is a statement about two runs. Where one of them has a foreign frame, the other may have any
other foreign frame, heard as well or as badly as one likes, or a reception in vain; the device and
all that it does are the same.
-/

namespace LoraLink

/-- Bytes that are no downlink for an address. -/
inductive Foreign (address : DeviceAddress) (bytes : List UInt8) : Prop where
  | undecodable {e : DecodeError} (h : DataFrame.decode bytes = .error e)
  | uplink {f : DataFrame} (h : DataFrame.decode bytes = .ok f) (hup : f.isUplink = true)
  | elsewhere {f : DataFrame} (h : DataFrame.decode bytes = .ok f) (hdown : f.isUplink = false)
      (hother : f.header.address ≠ address)

/-- The type of a message tells which way it goes. -/
theorem DataFrame.isUplink_eq {bytes : List UInt8} {f : DataFrame} (h : decode bytes = .ok f) :
    f.isUplink = decide (f.direction = .up) := by
  obtain ⟨body, code, hparts⟩ := exists_parts h
  unfold isUplink MessageType.isUplink
  rw [hparts.direction]
  cases f.direction <;> rfl

/-- A call by which a device learns no more than that a reception has ended. -/
inductive Op.Deaf (address : DeviceAddress) : Op → Prop where
  | failedReception : Deaf address .failedReception
  | receive {bytes : List UInt8} (h : Foreign address bytes) (reception : Reception) :
      Deaf address (.receive bytes reception)

/-- Two calls that differ only in what was heard in vain. -/
structure Turn.Alike {σ : Type} (address : DeviceAddress) (t u : Turn σ) : Prop where
  host : t.host = u.host
  random : t.random = u.random
  op : t.op = u.op ∨ t.op.Deaf address ∧ u.op.Deaf address

namespace EndDevice

/-- **Frames are foreign, or are downlinks for the device.** -/
theorem foreign_iff {d : EndDevice} {bytes : List UInt8} :
    Foreign d.address bytes ↔ d.downlink? bytes = none := by
  constructor
  · intro h
    refine Option.eq_none_iff_forall_ne_some.mpr fun frame hframe => ?_
    obtain ⟨hdecode, hdirection, haddress⟩ := downlink?_eq_some.mp hframe
    -- Each way to be foreign contradicts one part of being a downlink for the device.
    cases h with
    | undecodable h =>
      rw [h] at hdecode
      cases hdecode
    | uplink h hup =>
      rw [h] at hdecode
      cases hdecode
      rw [DataFrame.isUplink_eq h, hdirection] at hup
      cases hup
    | elsewhere h _ hother =>
      rw [h] at hdecode
      cases hdecode
      exact hother haddress
  · intro hnone
    cases hdecode : DataFrame.decode bytes with
    | error e => exact .undecodable hdecode
    | ok f =>
      cases hup : f.isUplink with
      | true => exact .uplink hdecode hup
      | false =>
        refine .elsewhere hdecode hup fun haddress => ?_
        -- A frame that is no uplink can only be a downlink, so it must be for another device.
        have hdirection : f.direction = .down := by
          rw [DataFrame.isUplink_eq hdecode] at hup
          cases hdir : f.direction with
          | up => exact absurd hdir (of_decide_eq_false hup)
          | down => rfl
        rw [downlink?_eq_some.mpr ⟨hdecode, hdirection, haddress⟩] at hnone
        cases hnone

variable {σ : Type} [Host σ]

/-! ## In a call -/

theorem run_receive_foreign (r : Region) {s : Session EndDevice σ} {bytes : List UInt8}
    (h : Foreign s.node.address bytes) (reception : Reception) :
    (receive r bytes reception).run s = (failedReception : Call EndDevice σ Unit).run s := by
  unfold receive
  rw [Call.run_bind_ok (Call.run_get s), foreign_iff.mp h]

/-- When no window waits for the end of a reception, that a reception has ended means nothing. -/
theorem run_failedReception {s : Session EndDevice σ} (hnone : s.node.deferredClose = none) :
    (failedReception : Call EndDevice σ Unit).run s = (.ok (), s) := by
  unfold failedReception
  rw [Call.run_bind_ok (Call.run_node s), hnone]
  rfl

variable {r : Region}

theorem made_of_deaf {t : Turn σ} {d : EndDevice} (h : t.op.Deaf d.address) :
    t.made r d = (failedReception : Call EndDevice σ Unit).run (t.session d) := by
  unfold Turn.made
  generalize t.op = op at h
  cases h with
  | failedReception => rfl
  | receive h reception => exact run_receive_foreign r h reception

theorem made_alike {t u : Turn σ} {d : EndDevice} (h : t.Alike d.address u) :
    t.made r d = u.made r d := by
  have hsession : t.session d = u.session d := by
    unfold Turn.session
    rw [h.host, h.random]
  cases h.op with
  | inl hsame =>
    unfold Turn.made
    rw [hsame, hsession]
  | inr hdeaf => rw [made_of_deaf hdeaf.1, made_of_deaf hdeaf.2, hsession]

/-! ## In a run -/

/-- How each call of a run ends: its result, and the session that it leaves. -/
def history (r : Region) (d : EndDevice) :
    List (Turn σ) → List (Except Failure Unit × Session EndDevice σ)
  | [] => []
  | t :: rest => t.made r d :: (t.after r d).history r rest

/-- By induction on the runs; no call moves the address that tells what is foreign. -/
theorem history_alike {d : EndDevice} {ts us : List (Turn σ)}
    (h : List.Forall₂ (Turn.Alike d.address) ts us) : d.history r ts = d.history r us := by
  induction ts generalizing d us with
  | nil =>
    cases h
    rfl
  | cons t ts ih =>
    cases h with
    | cons hfirst hrest =>
      rename_i u us
      -- What is foreign to the device before the call is foreign to it afterwards.
      have hmade : t.made r d = u.made r d := made_alike hfirst
      have hafter : t.after r d = u.after r d := congrArg (fun m => m.2.node) hmade
      have haddress : (t.after r d).address = d.address := (identity_step t d).1
      rw [← haddress] at hrest
      rw [history, history, hmade, ih hrest, hafter]

/--
**Foreign traffic cannot influence a device.**

Whatever the state of the device, of its host and of its random numbers: bytes that are no downlink
for it, however well they were heard, have the effect of a reception in vain, all of it, down to
the result of the call and what is asked of the radio and of the timer. If no window waits for the
end of the reception there is no effect. So runs that differ only in what was heard in vain have
the same history.
-/
theorem indifferent_to_foreign (r : Region) :
    (∀ (s : Session EndDevice σ) (bytes : List UInt8) (reception : Reception),
      Foreign s.node.address bytes →
        (receive r bytes reception).run s = (failedReception : Call EndDevice σ Unit).run s ∧
        (s.node.deferredClose = none → (receive r bytes reception).run s = (.ok (), s))) ∧
    (∀ (s : Session EndDevice σ) (bytes bytes' : List UInt8) (reception reception' : Reception),
      Foreign s.node.address bytes → Foreign s.node.address bytes' →
        (receive r bytes reception).run s = (receive r bytes' reception').run s) ∧
    ∀ (d : EndDevice) (ts us : List (Turn σ)), List.Forall₂ (Turn.Alike d.address) ts us →
      d.history r ts = d.history r us := by
  refine ⟨?_, ?_, fun d ts us => history_alike⟩
  · intro s bytes reception hforeign
    have hrun := run_receive_foreign r hforeign reception
    exact ⟨hrun, fun hnone => hrun.trans (run_failedReception hnone)⟩
  · intro s bytes bytes' reception reception' hforeign hforeign'
    rw [run_receive_foreign r hforeign, run_receive_foreign r hforeign']

/--
A window should have closed while a frame was being received. The frame is cut short, or it is an
uplink, or it is for another device, or nothing could be made of it: the window is closed just the
same, and the second one opens as it should.
-/
theorem indifferent_to_foreign_deferred :
    let init := initial ⟨5⟩ {} Region.eu868.defaultPlan
    let d := init.afterAll .eu868
      (unansweredRun.take 3 ++ [receivingTurn 4 (.alarm ⟨0⟩ .closeRx1)])
    let run := fun heard => [Turn.onBench 5 heard, .onBench 5 (.alarm ⟨1⟩ .openRx2)]
    let short := Op.receive [0x60, 5, 0] ⟨-80, 5⟩
    let uplink := Op.receive [0x40, 5, 0, 0, 0, 0, 0, 0, 0, 0, 0, 0] ⟨-60, 9⟩
    let elsewhere := Op.receive [0x60, 6, 0, 0, 0, 0, 0, 0, 0, 0, 0, 0] ⟨-120, -10⟩
    d.deferredClose = some .first ∧
      (d.afterAll .eu868 (run short)).deferredClose = none ∧
      d.history .eu868 (run short) = d.history .eu868 (run uplink) ∧
      d.history .eu868 (run elsewhere) = d.history .eu868 (run .failedReception) := by
  intro init d run short uplink elsewhere
  have hshort : short.Deaf d.address := .receive (.undecodable rfl) _
  have huplink : uplink.Deaf d.address := .receive (.uplink rfl rfl) _
  have helsewhere : elsewhere.Deaf d.address := .receive (.elsewhere rfl rfl (by decide +kernel)) _
  -- Two runs are alike if they differ in calls that bring the device nothing.
  have halike : ∀ heard heard' : Op, heard.Deaf d.address → heard'.Deaf d.address →
      List.Forall₂ (Turn.Alike d.address) (run heard) (run heard') := fun heard heard' h h' =>
    .cons ⟨rfl, rfl, .inr ⟨h, h'⟩⟩ (.cons ⟨rfl, rfl, .inl rfl⟩ .nil)
  have hindifferent := (@indifferent_to_foreign Simulation.View _ .eu868).2.2 d
  exact ⟨by decide +kernel, by decide +kernel,
    hindifferent _ _ (halike short uplink hshort huplink),
    hindifferent _ _ (halike elsewhere .failedReception helsewhere .failedReception)⟩

end EndDevice

end LoraLink
