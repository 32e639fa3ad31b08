import LoraLink.Proofs.Bits

/-!
# What was set is what is read

The fields of a payload share bytes, so a setter might write over its neighbours, and a reader might
see more than its field. It does not come to that. A payload behaves as a record whose fields are
apart from each other: whatever was set in whatever order, a field reads as what was given to it
last, cut to what it can hold, and one to which nothing was given reads as it did at the start.

For each type of payload this comes down to one call of one setter and one reader. The rest is an
induction on the calls that is the same for all of them.
-/

namespace LoraLink

/-! ## Fields and setters -/

/-- A type of payload with fields that can be read and setters that can be called. -/
class Settable (P : Type) where
  /-- What can be read, by the type of what is read. -/
  Field : Type → Type
  /-- A call of a setter, with what it is given. -/
  Call : Type
  /-- The reader of a field. -/
  read {α : Type} : Field α → P → α
  /-- What a call makes of the payload, or why it is refused. -/
  call : Call → P → Except FieldError P
  /-- What a field is to read as after a call: nothing if the call is refused or is about other
  fields. -/
  given {α : Type} : Call → Field α → Option α

namespace Settable

variable {P : Type} [Settable P]

/-- The payload after a call, which is what it was if the call is refused. -/
def after (p : P) (c : Call P) : P :=
  match call c p with
  | .ok p' => p'
  | .error _ => p

theorem after_of_ok {p p' : P} {c : Call P} (h : call c p = .ok p') : after p c = p' := by
  unfold after
  rw [h]

theorem after_of_error {p : P} {c : Call P} {e : FieldError} (h : call c p = .error e) :
    after p c = p := by
  unfold after
  rw [h]

/-- The payload after one call and then the next, to the end of them. -/
def afterAll (p : P) (cs : List (Call P)) : P := cs.foldl after p

/-- What was given to a field last. -/
def lastGiven {α : Type} (cs : List (Call P)) (f : Field P α) : Option α :=
  cs.reverse.findSome? fun c => given c f

variable (P) in
/-- One call of a setter is seen in the fields that it is about, and in no other. -/
def AgreesOnce : Prop :=
  ∀ (p : P) (c : Call P) {α : Type} (f : Field P α),
    read f (after p c) = (given c f).getD (read f p)

variable (P) in
/-- Every field reads as what was given to it last, or else as it did at the start. -/
def Agrees : Prop :=
  ∀ (p : P) (cs : List (Call P)) {α : Type} (f : Field P α),
    read f (afterAll p cs) = (lastGiven cs f).getD (read f p)

/-- By induction on the calls: what is given later is given last. -/
theorem AgreesOnce.agrees (h : AgreesOnce P) : Agrees P := by
  intro p cs α f
  induction cs generalizing p with
  | nil => rfl
  | cons c cs ih =>
    have hlast : lastGiven (c :: cs) f = (lastGiven cs f).or (given c f) := by
      unfold lastGiven
      rw [List.reverse_cons, List.findSome?_append, List.findSome?_cons]
      cases given c f <;> rfl
    change read f (afterAll (after p c) cs) = _
    rw [ih (after p c), hlast, h p c f]
    cases lastGiven cs f <;> rfl

end Settable

open Settable

/-! ## Link check and link adaptation -/

namespace LinkCheckAns

/-- The margin and the number of gateways, each a byte of its own. -/
inductive Field : Type → Type where
  | margin : Field UInt8
  | gatewayCount : Field UInt8

/-- Either byte is set by itself. -/
inductive Call where
  | margin (v : UInt8)
  | gatewayCount (v : UInt8)

instance : Settable LinkCheckAns where
  Field := Field
  Call := Call
  read
    | .margin, p => p.margin
    | .gatewayCount, p => p.gatewayCount
  call
    | .margin v, p => .ok { p with margin := v }
    | .gatewayCount v, p => .ok { p with gatewayCount := v }
  given
    | .margin v, .margin => some v
    | .gatewayCount v, .gatewayCount => some v
    | _, _ => none

theorem agreesOnce : AgreesOnce LinkCheckAns := by
  intro p c α f
  cases c <;> cases f <;> rfl

end LinkCheckAns

namespace LinkADRReq

/-- Five fields in four bytes; the rate shares its byte with the power, the mask control with the
number of transmissions. -/
inductive Field : Type → Type where
  | dataRate : Field UInt8
  | txPower : Field UInt8
  | channelMask : Field ChannelMask
  | maskControl : Field UInt8
  | transmissions : Field UInt8

/-- The byte of the redundancy is set as a whole, so one call gives two fields. -/
inductive Call where
  | dataRate (rate : UInt8)
  | txPower (power : UInt8)
  | channelMask (mask : ChannelMask)
  | redundancy (maskControl transmissions : UInt8)

instance : Settable LinkADRReq where
  Field := Field
  Call := Call
  read
    | .dataRate, p => p.dataRate
    | .txPower, p => p.txPower
    | .channelMask, p => p.channelMask
    | .maskControl, p => p.maskControl
    | .transmissions, p => p.transmissions
  call
    | .dataRate rate, p => .ok (p.setDataRate rate)
    | .txPower power, p => .ok (p.setTxPower power)
    | .channelMask mask, p => .ok (p.setChannelMask mask)
    | .redundancy control transmissions, p => .ok (p.setRedundancy control transmissions)
  given
    | .dataRate rate, .dataRate => some (rate % 16)
    | .txPower power, .txPower => some (power % 16)
    | .channelMask mask, .channelMask => some mask
    | .redundancy control _, .maskControl => some (control % 8)
    | .redundancy _ transmissions, .transmissions => some (transmissions % 16)
    | _, _ => none

theorem agreesOnce : AgreesOnce LinkADRReq := by
  intro p c α f
  -- Both nibbles share a byte, and setting one leaves the other as it was.
  cases c with
  | dataRate rate =>
    cases f with
    | dataRate => exact Byte.highNibble_ofNibbles rate _
    | txPower => exact (Byte.lowNibble_ofNibbles rate _).trans (Byte.lowNibble_mod _)
    | _ => rfl
  | txPower power =>
    cases f with
    | dataRate => exact (Byte.highNibble_ofNibbles _ power).trans (Byte.highNibble_mod _)
    | txPower => exact Byte.lowNibble_ofNibbles _ power
    | _ => rfl
  | channelMask mask => cases f <;> rfl
  | redundancy control transmissions =>
    cases f with
    | maskControl =>
      exact (congrArg (· % 8) (Byte.highNibble_ofNibbles _ _)).trans (Byte.three_bits control)
    | transmissions => exact Byte.lowNibble_ofNibbles _ transmissions
    | _ => rfl

end LinkADRReq

namespace LinkADRAns

/-- One flag for each part of the request. -/
inductive Field : Type → Type where
  | channelMaskAck : Field Bool
  | dataRateAck : Field Bool
  | txPowerAck : Field Bool

/-- Each flag is set by itself. -/
inductive Call where
  | channelMaskAck (b : Bool)
  | dataRateAck (b : Bool)
  | txPowerAck (b : Bool)

instance : Settable LinkADRAns where
  Field := Field
  Call := Call
  read
    | .channelMaskAck, p => p.channelMaskAck
    | .dataRateAck, p => p.dataRateAck
    | .txPowerAck, p => p.txPowerAck
  call
    | .channelMaskAck b, p => .ok (p.setChannelMaskAck b)
    | .dataRateAck b, p => .ok (p.setDataRateAck b)
    | .txPowerAck b, p => .ok (p.setTxPowerAck b)
  given
    | .channelMaskAck b, .channelMaskAck => some b
    | .dataRateAck b, .dataRateAck => some b
    | .txPowerAck b, .txPowerAck => some b
    | _, _ => none

theorem agreesOnce : AgreesOnce LinkADRAns := by
  intro p c α f
  cases c <;> cases f <;> exact Byte.flag_withFlag_eq p.flags (by decide) (by decide) _

end LinkADRAns

/-! ## Duty cycle and receive windows -/

namespace DutyCycleReq

/-- The byte as it is, and the share of time that it stands for. -/
inductive Field : Type → Type where
  | exponent : Field UInt8
  | fraction : Field DutyCycle

/-- There is but one byte to set. -/
inductive Call where
  | maxDutyCycle (exponent : UInt8)

instance : Settable DutyCycleReq where
  Field := Field
  Call := Call
  read
    | .exponent, p => p.exponent
    | .fraction, p => p.fraction
  call
    | .maxDutyCycle exponent, _ => .ok ⟨exponent⟩
  given
    | .maxDutyCycle exponent, .exponent => some exponent
    -- Written out, so that the reader is held to the share and not to what it says itself.
    | .maxDutyCycle exponent, .fraction => some <| .ofFloat <|
      if exponent = 255 then 0.0 else 1.0 / (UInt64.ofNat (2 ^ (exponent.toNat % 16))).toFloat

theorem agreesOnce : AgreesOnce DutyCycleReq := by
  intro p c α f
  cases c with
  | maxDutyCycle exponent =>
    cases f with
    | exponent => rfl
    | fraction => exact fraction_eq ⟨exponent⟩

end DutyCycleReq

namespace RXParamSetupReq

/-- The offset and the rate share the first byte; the frequency has the other three. -/
inductive Field : Type → Type where
  | rx1DataRateOffset : Field UInt8
  | rx2DataRate : Field UInt8
  | frequency : Field Nat

/-- The first byte is set as a whole, so one call gives the offset and the rate. -/
inductive Call where
  | settings (offset rate : UInt8)
  | frequency (hertz : Nat)

instance : Settable RXParamSetupReq where
  Field := Field
  Call := Call
  read
    | .rx1DataRateOffset, p => p.rx1DataRateOffset
    | .rx2DataRate, p => p.rx2DataRate
    | .frequency, p => p.frequency.hertz
  call
    | .settings offset rate, p => .ok (p.setSettings offset rate)
    | .frequency hertz, p => .ok (p.setFrequency hertz)
  given
    | .settings offset _, .rx1DataRateOffset => some (offset % 8)
    | .settings _ rate, .rx2DataRate => some (rate % 16)
    | .frequency hertz, .frequency => some (hertz / 100 % 16777216 * 100)
    | _, _ => none

theorem agreesOnce : AgreesOnce RXParamSetupReq := by
  intro p c α f
  cases c with
  | settings offset rate =>
    cases f with
    | rx1DataRateOffset =>
      exact (congrArg (· % 8) (Byte.highNibble_ofNibbles _ _)).trans (Byte.three_bits offset)
    | rx2DataRate => exact Byte.lowNibble_ofNibbles _ rate
    | frequency => rfl
  | frequency hertz =>
    cases f with
    | frequency => exact WireFrequency.hertz_ofHertz hertz
    | _ => rfl

end RXParamSetupReq

namespace RXParamSetupAns

/-- One flag for each part of the request. -/
inductive Field : Type → Type where
  | channelAck : Field Bool
  | rx2DataRateAck : Field Bool
  | rx1OffsetAck : Field Bool

/-- Each flag is set by itself. -/
inductive Call where
  | channelAck (b : Bool)
  | rx2DataRateAck (b : Bool)
  | rx1OffsetAck (b : Bool)

instance : Settable RXParamSetupAns where
  Field := Field
  Call := Call
  read
    | .channelAck, p => p.channelAck
    | .rx2DataRateAck, p => p.rx2DataRateAck
    | .rx1OffsetAck, p => p.rx1OffsetAck
  call
    | .channelAck b, p => .ok (p.setChannelAck b)
    | .rx2DataRateAck b, p => .ok (p.setRx2DataRateAck b)
    | .rx1OffsetAck b, p => .ok (p.setRx1OffsetAck b)
  given
    | .channelAck b, .channelAck => some b
    | .rx2DataRateAck b, .rx2DataRateAck => some b
    | .rx1OffsetAck b, .rx1OffsetAck => some b
    | _, _ => none

theorem agreesOnce : AgreesOnce RXParamSetupAns := by
  intro p c α f
  cases c <;> cases f <;> exact Byte.flag_withFlag_eq p.flags (by decide) (by decide) _

end RXParamSetupAns

/-! ## Device status -/

namespace DevStatusAns

/-- The battery has a byte, the margin the lower six bits of another. -/
inductive Field : Type → Type where
  | battery : Field UInt8
  | margin : Field Int

/-- A margin that does not fit into six bits is refused. -/
inductive Call where
  | battery (v : UInt8)
  | margin (m : Int)

instance : Settable DevStatusAns where
  Field := Field
  Call := Call
  read
    | .battery, p => p.battery
    | .margin, p => p.margin
  call
    | .battery v, p => .ok { p with battery := v }
    | .margin m, p => p.setMargin m
  given
    | .battery v, .battery => some v
    | .margin m, .margin => if -32 ≤ m ∧ m ≤ 31 then some m else none
    | _, _ => none

theorem agreesOnce : AgreesOnce DevStatusAns := by
  intro p c α f
  cases c with
  | battery v => cases f <;> rfl
  | margin m =>
    by_cases hfits : -32 ≤ m ∧ m ≤ 31
    · rw [after_of_ok (P := DevStatusAns) (c := Call.margin m) (p.setMargin_eq_ok hfits)]
      cases f with
      | battery => rfl
      | margin =>
        change DevStatusAns.margin _ = (if -32 ≤ m ∧ m ≤ 31 then some m else none).getD _
        rw [if_pos hfits]
        exact margin_sixBits p.battery hfits
    · rw [after_of_error (P := DevStatusAns) (c := Call.margin m) (p.setMargin_eq_error hfits)]
      cases f with
      | battery => rfl
      | margin =>
        change p.margin = (if -32 ≤ m ∧ m ≤ 31 then some m else none).getD p.margin
        rw [if_neg hfits]
        rfl

end DevStatusAns

/-! ## Channels -/

namespace NewChannelReq

/-- The two rates share the last of the five bytes. -/
inductive Field : Type → Type where
  | channelIndex : Field UInt8
  | frequency : Field Nat
  | minDataRate : Field UInt8
  | maxDataRate : Field UInt8

/-- Both rates are given by one call. -/
inductive Call where
  | channelIndex (i : UInt8)
  | frequency (hertz : Nat)
  | dataRateRange (lo hi : UInt8)

instance : Settable NewChannelReq where
  Field := Field
  Call := Call
  read
    | .channelIndex, p => p.channelIndex
    | .frequency, p => p.frequency.hertz
    | .minDataRate, p => p.minDataRate
    | .maxDataRate, p => p.maxDataRate
  call
    | .channelIndex i, p => .ok { p with channelIndex := i }
    | .frequency hertz, p => .ok (p.setFrequency hertz)
    | .dataRateRange lo hi, p => .ok (p.setDataRateRange lo hi)
  given
    | .channelIndex i, .channelIndex => some i
    | .frequency hertz, .frequency => some (hertz / 100 % 16777216 * 100)
    | .dataRateRange lo _, .minDataRate => some (lo % 16)
    | .dataRateRange _ hi, .maxDataRate => some (hi % 16)
    | _, _ => none

theorem agreesOnce : AgreesOnce NewChannelReq := by
  intro p c α f
  cases c with
  | channelIndex i => cases f <;> rfl
  | frequency hertz =>
    cases f with
    | frequency => exact WireFrequency.hertz_ofHertz hertz
    | _ => rfl
  | dataRateRange lo hi =>
    cases f with
    | minDataRate => exact Byte.lowNibble_ofNibbles hi lo
    | maxDataRate => exact Byte.highNibble_ofNibbles hi lo
    | _ => rfl

end NewChannelReq

namespace NewChannelAns

/-- One flag for the slot and the frequency, one for the rates. -/
inductive Field : Type → Type where
  | frequencyAck : Field Bool
  | dataRateRangeAck : Field Bool

/-- Each flag is set by itself. -/
inductive Call where
  | frequencyAck (b : Bool)
  | dataRateRangeAck (b : Bool)

instance : Settable NewChannelAns where
  Field := Field
  Call := Call
  read
    | .frequencyAck, p => p.frequencyAck
    | .dataRateRangeAck, p => p.dataRateRangeAck
  call
    | .frequencyAck b, p => .ok (p.setFrequencyAck b)
    | .dataRateRangeAck b, p => .ok (p.setDataRateRangeAck b)
  given
    | .frequencyAck b, .frequencyAck => some b
    | .dataRateRangeAck b, .dataRateRangeAck => some b
    | _, _ => none

theorem agreesOnce : AgreesOnce NewChannelAns := by
  intro p c α f
  cases c <;> cases f <;> exact Byte.flag_withFlag_eq p.flags (by decide) (by decide) _

end NewChannelAns

namespace DlChannelReq

/-- The slot and the frequency of its replies. -/
inductive Field : Type → Type where
  | channelIndex : Field UInt8
  | frequency : Field Nat

/-- Either is set by itself. -/
inductive Call where
  | channelIndex (i : UInt8)
  | frequency (hertz : Nat)

instance : Settable DlChannelReq where
  Field := Field
  Call := Call
  read
    | .channelIndex, p => p.channelIndex
    | .frequency, p => p.frequency.hertz
  call
    | .channelIndex i, p => .ok { p with channelIndex := i }
    | .frequency hertz, p => .ok (p.setFrequency hertz)
  given
    | .channelIndex i, .channelIndex => some i
    | .frequency hertz, .frequency => some (hertz / 100 % 16777216 * 100)
    | _, _ => none

theorem agreesOnce : AgreesOnce DlChannelReq := by
  intro p c α f
  cases c with
  | channelIndex i => cases f <;> rfl
  | frequency hertz =>
    cases f with
    | channelIndex => rfl
    | frequency => exact WireFrequency.hertz_ofHertz hertz

end DlChannelReq

namespace DlChannelAns

/-- One flag for the frequency, one for the slot. -/
inductive Field : Type → Type where
  | frequencyAck : Field Bool
  | uplinkFrequencyAck : Field Bool

/-- Each flag is set by itself. -/
inductive Call where
  | frequencyAck (b : Bool)
  | uplinkFrequencyAck (b : Bool)

instance : Settable DlChannelAns where
  Field := Field
  Call := Call
  read
    | .frequencyAck, p => p.frequencyAck
    | .uplinkFrequencyAck, p => p.uplinkFrequencyAck
  call
    | .frequencyAck b, p => .ok (p.setFrequencyAck b)
    | .uplinkFrequencyAck b, p => .ok (p.setUplinkFrequencyAck b)
  given
    | .frequencyAck b, .frequencyAck => some b
    | .uplinkFrequencyAck b, .uplinkFrequencyAck => some b
    | _, _ => none

theorem agreesOnce : AgreesOnce DlChannelAns := by
  intro p c α f
  cases c <;> cases f <;> exact Byte.flag_withFlag_eq p.flags (by decide) (by decide) _

end DlChannelAns

/-! ## Timing -/

namespace RXTimingSetupReq

/-- The lower half of the only byte. -/
inductive Field : Type → Type where
  | delay : Field UInt8

/-- A delay that does not fit into four bits is refused. -/
inductive Call where
  | delay (seconds : UInt8)

instance : Settable RXTimingSetupReq where
  Field := Field
  Call := Call
  read
    | .delay, p => p.delay
  call
    | .delay seconds, p => p.setDelay seconds
  given
    | .delay seconds, .delay => if seconds ≤ 15 then some seconds else none

theorem setDelay_eq_ok (p : RXTimingSetupReq) {seconds : UInt8} (h : seconds ≤ 15) :
    p.setDelay seconds = .ok { p with settings := seconds } := if_pos h

theorem setDelay_eq_error (p : RXTimingSetupReq) {seconds : UInt8} (h : ¬seconds ≤ 15) :
    p.setDelay seconds = .error .delayOutOfRange := if_neg h

theorem agreesOnce : AgreesOnce RXTimingSetupReq := by
  intro p c α f
  cases c with
  | delay seconds =>
    cases f
    change RXTimingSetupReq.delay _ = (if seconds ≤ 15 then some seconds else none).getD p.delay
    by_cases hfits : seconds ≤ 15
    · rw [after_of_ok (P := RXTimingSetupReq) (c := Call.delay seconds) (p.setDelay_eq_ok hfits),
        if_pos hfits]
      exact UInt8.mod_eq_of_lt (UInt8.lt_of_le_of_lt hfits (by decide))
    · rw [after_of_error (P := RXTimingSetupReq) (c := Call.delay seconds)
        (p.setDelay_eq_error hfits), if_neg hfits]
      rfl

end RXTimingSetupReq

/-! ## All of them -/

namespace Settable

/--
**What was set is what is read**, for every type of payload that has setters.

Whatever the bytes were and whatever was called in whatever order, a field reads as what it was
given last, or as it did at the start; a call that is refused changes nothing. An answer accepts
what it answers just if all its flags are set. A limit of the duty cycle reads as its byte and as
the share of time that it stands for. Frequencies are kept to 100 Hz, as far as three bytes go. And
of a channel mask the bytes, the statuses and the bit of each channel say the same.
-/
theorem setters_agree :
    Agrees LinkCheckAns ∧ Agrees LinkADRReq ∧ Agrees LinkADRAns ∧ Agrees DutyCycleReq ∧
    Agrees RXParamSetupReq ∧ Agrees RXParamSetupAns ∧ Agrees DevStatusAns ∧
    Agrees NewChannelReq ∧ Agrees NewChannelAns ∧ Agrees RXTimingSetupReq ∧
    Agrees DlChannelReq ∧ Agrees DlChannelAns ∧
    (∀ p : LinkADRAns, p.ack = (p.flags &&& 0x07 == 0x07)) ∧
    (∀ p : RXParamSetupAns, p.ack = (p.flags &&& 0x07 == 0x07)) ∧
    (∀ p : NewChannelAns, p.ack = (p.flags &&& 0x03 == 0x03)) ∧
    (∀ p : DlChannelAns, p.ack = (p.flags &&& 0x03 == 0x03)) ∧
    (∀ (p : DevStatusAns) (m : Int), ¬(-32 ≤ m ∧ m ≤ 31) →
      p.setMargin m = .error .marginOutOfRange ∧ after p (DevStatusAns.Call.margin m) = p) ∧
    (∀ (p : RXTimingSetupReq) (seconds : UInt8), ¬seconds ≤ 15 →
      p.setDelay seconds = .error .delayOutOfRange ∧
        after p (RXTimingSetupReq.Call.delay seconds) = p) ∧
    (∀ hertz : Nat, (WireFrequency.ofHertz hertz).hertz = hertz / 100 % 16777216 * 100 ∧
      (hertz < 1677721600 → (WireFrequency.ofHertz hertz).hertz = hertz - hertz % 100)) ∧
    (∀ f : WireFrequency, f.hertz < 4294967296) ∧
    (∀ m : ChannelMask, m.statuses = (List.range 16).map m.word.testBit ∧
      (∀ i, m.isEnabled? i = if i < 16 then some (m.word.testBit i) else none) ∧
      ∀ m' : ChannelMask, m.statuses = m'.statuses → m.bytes = m'.bytes) ∧
    ∀ n < 65536, (ChannelMask.ofNat n).word = n := by
  refine ⟨LinkCheckAns.agreesOnce.agrees, LinkADRReq.agreesOnce.agrees,
    LinkADRAns.agreesOnce.agrees, DutyCycleReq.agreesOnce.agrees,
    RXParamSetupReq.agreesOnce.agrees, RXParamSetupAns.agreesOnce.agrees,
    DevStatusAns.agreesOnce.agrees, NewChannelReq.agreesOnce.agrees,
    NewChannelAns.agreesOnce.agrees, RXTimingSetupReq.agreesOnce.agrees,
    DlChannelReq.agreesOnce.agrees, DlChannelAns.agreesOnce.agrees,
    fun p => Byte.flags_three p.flags, fun p => Byte.flags_three p.flags,
    fun p => Byte.flags_two p.flags, fun p => Byte.flags_two p.flags, ?_, ?_, ?_, ?_, ?_, ?_⟩
  · intro p m h
    have hset := p.setMargin_eq_error h
    exact ⟨hset, after_of_error (P := DevStatusAns) hset⟩
  · intro p seconds h
    have hset := p.setDelay_eq_error h
    exact ⟨hset, after_of_error (P := RXTimingSetupReq) hset⟩
  · exact fun hertz => ⟨WireFrequency.hertz_ofHertz hertz, WireFrequency.hertz_ofHertz_of_lt⟩
  -- The largest number of three bytes, in steps of a hundred hertz, still fits into a word.
  · exact fun f => Nat.lt_of_le_of_lt f.hertz_le (by decide)
  · intro m
    exact ⟨m.statuses_eq_bits, m.isEnabled?_eq,
      fun _ h => congrArg ChannelMask.bytes (ChannelMask.eq_of_statuses h)⟩
  · exact fun n => ChannelMask.word_ofNat

/-- Calls to neighbours in between, arguments that are too wide, and calls that are refused. -/
theorem setters_agree_interleaved :
    (afterAll (LinkADRReq.mk 0xFF ⟨1, 2⟩ 0xFF) [LinkADRReq.Call.dataRate 5, .redundancy 9 0x13,
      .txPower 7, .dataRate 0x23]).dataRate = 3 ∧
    (afterAll (LinkADRReq.mk 0xFF ⟨1, 2⟩ 0xFF) [LinkADRReq.Call.dataRate 5, .redundancy 9 0x13,
      .txPower 7, .dataRate 0x23]).maskControl = 1 ∧
    (afterAll (DevStatusAns.mk 9 0xFF) [DevStatusAns.Call.margin (-5), .battery 3,
      .margin 32]).margin = -5 ∧
    DevStatusAns.setMargin ⟨3, 0xFF⟩ 32 = .error .marginOutOfRange ∧
    (afterAll (DutyCycleReq.mk 3) [DutyCycleReq.Call.maxDutyCycle 255]).fraction = .ofFloat 0.0 ∧
    (afterAll (DutyCycleReq.mk 3) [DutyCycleReq.Call.maxDutyCycle 255,
      .maxDutyCycle 0x1A]).fraction = .ofFloat (1.0 / (UInt64.ofNat 1024).toFloat) ∧
    RXTimingSetupReq.setDelay ⟨3⟩ 16 = .error .delayOutOfRange ∧
    (WireFrequency.ofHertz 868100050).hertz = 868100000 ∧
    (ChannelMask.ofNat 0x8001).word = 0x8001 := by
  obtain ⟨-, hadr, -, hduty, -, -, hstatus, -, -, -, -, -, -, -, -, -, hmargin, hdelay, hfrequency, -,
    -, hmask⟩ := setters_agree
  exact ⟨hadr _ _ LinkADRReq.Field.dataRate, hadr _ _ LinkADRReq.Field.maskControl,
    hstatus _ _ DevStatusAns.Field.margin, (hmargin _ 32 (by decide)).1,
    hduty _ _ DutyCycleReq.Field.fraction, hduty _ _ DutyCycleReq.Field.fraction,
    (hdelay _ 16 (by decide)).1, (hfrequency 868100050).2 (by decide), hmask 0x8001 (by decide)⟩

end Settable

end LoraLink
