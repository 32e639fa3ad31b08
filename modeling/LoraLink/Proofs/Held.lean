import LoraLink.Proofs.Effect

/-!
# The uplink that is held

An uplink that is held was on air, and has not used up more than the attempts it began with. The
alarm for its next attempt is set only if there is one. Since attempts are counted in a byte, so is
what has become of them: no counter of transmissions runs over.
-/

namespace LoraLink

namespace EndDevice

/-- What can be said of the uplink that is held, whatever has happened to the device. -/
structure Holding (d : EndDevice) : Prop where
  /-- It was on air, and each transmission was an attempt. -/
  counted : ∀ u, d.held = some u → 0 < u.transmissions ∧ u.transmissions + u.attemptsLeft ≤ 255
  /-- The device waits for its next attempt only if there is one. -/
  waiting : d.alarms.retransmit.isSome = true → ∃ u, d.held = some u ∧ 0 < u.attemptsLeft
  /-- It is no data for the port of commands. -/
  placed : ∀ u, d.held = some u → u.port = 0 → u.payload = []
  fits : ∀ u, d.held = some u → u.payload.length ≤ maxPayload

theorem holding_init (address : DeviceAddress) (settings : Settings) (plan : Plan) :
    Holding (initial address settings plan) where
  counted := by
    intro u hu
    cases hu
  waiting := by
    intro h
    cases h
  placed := by
    intro u hu
    cases hu
  fits := by
    intro u hu
    cases hu

theorem holding_of_none {d : EndDevice} (hheld : d.held = none)
    (hretry : d.alarms.retransmit = none) : Holding d := by
  refine ⟨?_, ?_, ?_, ?_⟩
  · intro u hu
    rw [hheld] at hu
    cases hu
  · intro hsome
    rw [hretry] at hsome
    cases hsome
  · intro u hu
    rw [hheld] at hu
    cases hu
  · intro u hu
    rw [hheld] at hu
    cases hu

/-- Once a new uplink is on air, nobody waits for an attempt. -/
theorem Holding.supersede {d : EndDevice} (h : Holding d) (u : HeldUplink) (c : Channel)
    (plan : Plan) : ((d.onAir u c plan).supersede d.held).alarms.retransmit = none := by
  unfold EndDevice.supersede
  dsimp only
  cases hheld : d.held with
  | some previous => rfl
  | none =>
    cases hretry : d.alarms.retransmit with
    | none => exact hretry
    | some id =>
      obtain ⟨v, hv, _⟩ := h.waiting (by rw [hretry]; rfl)
      rw [hheld] at hv
      cases hv

/-- A new uplink begins with at least one attempt and at most as many as a byte can count. -/
theorem newUplink_attempts (r : Region) (d : EndDevice) (payload : List UInt8) (port : UInt8)
    (confirmed : Bool) :
    0 < (d.newUplink r payload port confirmed).attemptsLeft ∧
      (d.newUplink r payload port confirmed).attemptsLeft ≤ 255 := by
  have hbyte : ∀ n : UInt8, 0 < max n.toNat 1 ∧ max n.toNat 1 ≤ 255 := by
    intro n
    have := n.toNat_lt
    omega
  unfold newUplink
  cases confirmed with
  | true => exact hbyte _
  | false => exact hbyte _

variable {σ : Type} [Host σ] {r : Region}

/-- **No call breaks what can be said of the uplink that is held.** -/
theorem holding_step {d : EndDevice} (h : Holding d) (t : Turn σ) : Holding (t.after r d) := by
  have heffect := t.effect r d
  unfold Turn.after
  generalize t.result r d = res at heffect
  generalize (t.made r d).2 = s' at heffect ⊢
  cases heffect with
  | kept _ _ held _ retry =>
    -- If the alarm was set in this call, the uplink had attempts left then.
    refine ⟨?_, ?_, ?_, ?_⟩
    · rw [held]
      exact h.counted
    · intro hsome
      rw [held]
      rcases retry hsome with hold | hagain
      · exact h.waiting hold
      · exact hagain
    · rw [held]
      exact h.placed
    · rw [held]
      exact h.fits
  | released _ _ _ held retry _ _ _ => exact holding_of_none held retry
  | gaveUp _ _ _ _ held retry _ => exact holding_of_none held retry
  | lost _ _ _ _ held retry _ => exact holding_of_none held retry
  | repeated hop hid hheld hair node trace =>
    rename_i id u a
    -- One transmission more has used up one of the attempts that were left.
    obtain ⟨v, hv, hleft⟩ := h.waiting (by rw [hid]; rfl)
    rw [hheld] at hv
    cases hv
    obtain ⟨_, hbudget⟩ := h.counted u hheld
    rw [node]
    refine ⟨?_, ?_, ?_, ?_⟩
    · rintro _ ⟨⟩
      change 0 < u.transmissions + 1 ∧ u.transmissions + 1 + (u.attemptsLeft - 1) ≤ 255
      omega
    · intro hsome
      cases hsome
    · rintro _ ⟨⟩
      exact h.placed u hheld
    · rintro _ ⟨⟩
      exact h.fits u hheld
  | launched hop hclear hair node signals =>
    rename_i payload port confirmed a
    let u := d.newUplink r payload port confirmed
    have hcounted := countUplink_cases r ((d.onAir u a.channel a.plan).supersede d.held)
    have hheld : s'.node.held = some u.next := by
      rw [node, hcounted.held]
      rfl
    have hretry : s'.node.alarms.retransmit = none := by
      rw [node, hcounted.alarms]
      exact h.supersede u a.channel a.plan
    have hattempts : 0 < u.attemptsLeft ∧ u.attemptsLeft ≤ 255 :=
      newUplink_attempts r d payload port confirmed
    refine ⟨?_, ?_, ?_, ?_⟩
    · intro v hv
      rw [hheld] at hv
      cases hv
      change 0 < 0 + 1 ∧ 0 + 1 + (u.attemptsLeft - 1) ≤ 255
      omega
    · intro hsome
      rw [hretry] at hsome
      cases hsome
    · intro v hv
      rw [hheld] at hv
      cases hv
      exact hclear.placed
    · intro v hv
      rw [hheld] at hv
      cases hv
      exact hclear.held

theorem holding_run {d : EndDevice} (h : Holding d) (ts : List (Turn σ)) :
    Holding (d.afterAll r ts) := by
  induction ts generalizing d with
  | nil => exact h
  | cons t rest ih => exact ih (holding_step h t)

end EndDevice

end LoraLink
