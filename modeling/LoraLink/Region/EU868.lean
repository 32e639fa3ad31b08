import LoraLink.Region.Basic

/-!
# The European 868 MHz region

Three channels to start with, and three sub-bands with a duty cycle each. Nodes do not listen before
they talk, so the duty cycle alone keeps the sub-bands usable.
-/

namespace LoraLink

namespace Region

/-- The European 868 MHz region. -/
def eu868 : Region where
  defaultFrequencies := [868100000, 868300000, 868500000]
  defaultChannelRates := (0, 5)
  subBands :=
    [ { firstFrequency := 868000000, lastFrequency := 868600000, dutyCycle := .ofFloat 0.01,
        maxPower := 14 },
      { firstFrequency := 868700000, lastFrequency := 869200000, dutyCycle := .ofFloat 0.001,
        maxPower := 14 },
      { firstFrequency := 869400000, lastFrequency := 869650000, dutyCycle := .ofFloat 0.1,
        maxPower := 27 } ]
  uplinkRates := (0, 6)
  modulations :=
    [⟨.sf12, .khz125⟩, ⟨.sf11, .khz125⟩, ⟨.sf10, .khz125⟩, ⟨.sf9, .khz125⟩, ⟨.sf8, .khz125⟩,
      ⟨.sf7, .khz125⟩, ⟨.sf7, .khz250⟩]
  maxPayloads := [59, 59, 59, 123, 230, 230, 230, 230]
  powers := [16, 14, 12, 10, 8, 6, 4, 2]
  rx1Rates :=
    [ [0, 0, 0, 0, 0, 0],
      [1, 0, 0, 0, 0, 0],
      [2, 1, 0, 0, 0, 0],
      [3, 2, 1, 0, 0, 0],
      [4, 3, 2, 1, 0, 0],
      [5, 4, 3, 2, 1, 0],
      [6, 5, 4, 3, 2, 1],
      [7, 6, 5, 4, 3, 2] ]
  defaultRate := 0
  codingRate := .fourFifths
  defaultRx2Frequency := 869525000
  defaultRx2Rate := 0
  defaultPower := 14
  minFrequency := 863000000
  maxFrequency := 870000000
  supportsTxParamSetup := false
  defaultRx1Offset := 0

end Region

end LoraLink
