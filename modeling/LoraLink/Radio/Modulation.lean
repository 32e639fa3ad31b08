import LoraLink.Time

/-!
# LoRa modulation

A LoRa signal is a train of chirps. The spreading factor says how many bits one chirp carries, the
bandwidth how fast it sweeps; together they fix the length of a symbol, `2 ^ SF / BW`. The coding
rate says how many bits are sent for every four.

Which factors and bandwidths there are is up to the modem. Here any are taken that keep within the
bounds of all modems.
-/

namespace LoraLink

/-- How many bits one symbol carries. Modems have the factors from 5 to 12. -/
structure SpreadingFactor where
  bits : Nat
  five_le : 5 ≤ bits := by decide
  le_twelve : bits ≤ 12 := by decide
deriving DecidableEq

namespace SpreadingFactor

def sf5 : SpreadingFactor where bits := 5
def sf6 : SpreadingFactor where bits := 6
def sf7 : SpreadingFactor where bits := 7
def sf8 : SpreadingFactor where bits := 8
def sf9 : SpreadingFactor where bits := 9
def sf10 : SpreadingFactor where bits := 10
def sf11 : SpreadingFactor where bits := 11
def sf12 : SpreadingFactor where bits := 12

end SpreadingFactor

/-- The width of a channel. -/
structure Bandwidth where
  /-- The width in Hz. -/
  hertz : Nat
  /-- No modem has a narrower channel. -/
  hertz_ge : 7810 ≤ hertz := by decide
deriving DecidableEq

/-! The channels of the modems in use, named in kHz rounded down. -/

namespace Bandwidth

def khz7 : Bandwidth where hertz := 7810
def khz10 : Bandwidth where hertz := 10420
def khz15 : Bandwidth where hertz := 15630
def khz20 : Bandwidth where hertz := 20830
def khz31 : Bandwidth where hertz := 31250
def khz41 : Bandwidth where hertz := 41670
def khz62 : Bandwidth where hertz := 62500
def khz125 : Bandwidth where hertz := 125000
def khz250 : Bandwidth where hertz := 250000
def khz500 : Bandwidth where hertz := 500000

end Bandwidth

/-- Forward error correction: four bits are sent as five to eight. -/
inductive CodingRate where
  | fourFifths | fourSixths | fourSevenths | fourEighths
deriving DecidableEq

/-- The bits sent for every four. -/
def CodingRate.denominator : CodingRate → Nat
  | fourFifths => 5
  | fourSixths => 6
  | fourSevenths => 7
  | fourEighths => 8

/-- How symbols are formed. -/
structure Modulation where
  spreadingFactor : SpreadingFactor
  bandwidth : Bandwidth
deriving DecidableEq

namespace Modulation

/-- The microseconds one symbol takes, rounded down. -/
def symbolMicros (m : Modulation) : Nat :=
  (1 <<< m.spreadingFactor.bits) * 1000000 / m.bandwidth.hertz

/-- How long one symbol lasts. -/
def symbolTime (m : Modulation) : Duration := .ofMicros m.symbolMicros

/-- Symbols longer than 16 ms need the optimization for low data rates. -/
def needsLowDataRateOptimization (m : Modulation) : Bool := 16000 < m.symbolMicros

end Modulation

end LoraLink
