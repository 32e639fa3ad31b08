import LoraLink.Device.State

/-!
# Adapting the link

The network chooses data rate and power of a device that lets it. A device that hears nothing for
long cannot know whether anybody still hears it, so step by step it makes itself easier to hear:
full power first, then one data rate after the other, and at the slowest all default channels.
-/

namespace LoraLink

namespace EndDevice

variable (r : Region)

/-- Changes the data rate, and reports it if it is another one. -/
def setDataRate (d : EndDevice) (rate : DataRate) : EndDevice × List Event :=
  let before := d.dataRate r
  ({ d with settings := { d.settings with txDataRate := some rate } },
    if before = rate then [] else [.dataRateChanged before rate])

/-- Changes the power, and reports it if it is another one. -/
def setPower (d : EndDevice) (power : Int) : EndDevice × List Event :=
  let before := d.power r
  ({ d with settings := { d.settings with txPower := some power } },
    if before = power then [] else [.txPowerChanged before power])

/-- Lets those of the first `n` channels that are defined be picked for uplinks. -/
def enableDefaults (p : Plan) (n : Nat) : Plan :=
  (List.range n).foldl
    (fun p i => match p.setEnabled i true with
      | .ok p => p
      | .error _ => p)
    p

/-- All default channels, and each uplink once. -/
def fallBack (d : EndDevice) : EndDevice :=
  { d with
    plan := enableDefaults d.plan r.defaultFrequencies.length
    settings := { d.settings with transmissions := 1 } }

/-- The step towards a more robust link that is due at the present count of uplinks. -/
def backOff (d : EndDevice) : EndDevice × List Event :=
  let limit := r.adrAckLimit
  let delay := r.adrAckDelay
  let count := d.adrAckCount
  if count = limit then (d, [])
  else if count = limit + delay then d.setPower r r.defaultPower
  else if 0 < delay ∧ limit < count ∧ (count - limit) % delay = 0 then
    match (d.dataRate r).lower? with
    | some rate => d.setDataRate r rate
    | none => (d.fallBack r, [])
  else (d, [])

/-- Counts a new uplink, and takes the step that is then due. -/
def countUplink (d : EndDevice) : EndDevice × List Event :=
  if d.settings.adr then
    { d with adrAckCount := min (d.adrAckCount + 1) maxAdrAckCount }.backOff r
  else
    (d, [])

end EndDevice

end LoraLink
