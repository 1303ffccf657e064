import CanDecoder.Ecu
import Mathlib.Data.List.Basic

/-! The compiled decoder of a frame, read against the payload bytes themselves. A
channel's raw value is its byte, or its high byte times 256 plus its low byte, in two's
complement when the channel is signed; a channel is read exactly when all its offsets lie
inside the payload. A channel built from a definition entry converts tenths of a kelvin to
degrees Celsius exactly when its unit is `K`, and otherwise follows its formula. -/

namespace CanDecoder

/-- The raw value of a channel read straight off the payload bytes (a byte past the end
counts as zero). -/
def Channel.rawValue (c : Channel) (p : Payload) : Int :=
  match c.field with
  | .byte i =>
    let b := (p.getD i 0).toNat
    if c.signed ∧ 128 ≤ b then (b : Int) - 256 else b
  | .word m l =>
    let w := 256 * (p.getD m 0).toNat + (p.getD l 0).toNat
    if c.signed ∧ 32768 ≤ w then (w : Int) - 65536 else w

namespace Payload

theorem byte?_of_lt (p : Payload) {i : Nat} (h : i < p.length) :
    p.byte? i = some (p.getD i 0).toNat := by
  simp [byte?, List.getElem?_eq_getElem h, List.getD_eq_getElem?_getD]

theorem word?_of_lt (p : Payload) {m l : Nat} (hm : m < p.length) (hl : l < p.length) :
    p.word? m l = some (256 * (p.getD m 0).toNat + (p.getD l 0).toNat) := by
  simp [word?, byte?_of_lt p hm, byte?_of_lt p hl]

end Payload

theorem signed8_eq (n : Nat) : signed8 n = if 128 ≤ n then (n : Int) - 256 else n := by
  unfold signed8
  split <;> split <;> omega

theorem signed16_eq (n : Nat) : signed16 n = if 32768 ≤ n then (n : Int) - 65536 else n := by
  unfold signed16
  split <;> split <;> omega

namespace Channel

theorem maxOffset_lt_iff (c : Channel) (n : Nat) :
    c.maxOffset < n ↔ ∀ i ∈ c.offsets, i < n := by
  cases hf : c.field with
  | byte i => simp [maxOffset, offsets, hf, Field.maxOffset, Field.offsets]
  | word m l =>
    simp only [maxOffset, offsets, hf, Field.maxOffset, Field.offsets]
    rw [Nat.max_lt]
    simp

/-- Reading a field that fits the payload gives the raw value read off its bytes. -/
theorem read?_of_fits (c : Channel) (p : Payload) (h : c.maxOffset < p.length) :
    c.field.read? c.signed p = some (c.rawValue p) := by
  unfold rawValue
  cases hf : c.field with
  | byte i =>
    have hi : i < p.length := by simpa [maxOffset, hf, Field.maxOffset] using h
    cases hs : c.signed <;>
      simp [Field.read?, Payload.signedByte?, Payload.byte?_of_lt p hi, signed8_eq]
  | word m l =>
    have hm : m < p.length := by
      simp only [maxOffset, hf, Field.maxOffset] at h
      omega
    have hl : l < p.length := by
      simp only [maxOffset, hf, Field.maxOffset] at h
      omega
    cases hs : c.signed <;> simp [Field.read?, Payload.word?_of_lt p hm hl, signed16_eq]

/-- A channel gives a raw value exactly when all its offsets lie in the payload, and the
value is the one read off the bytes. -/
theorem raw?_eq (c : Channel) (p : Payload) :
    c.raw? p = if ∀ i ∈ c.offsets, i < p.length then some (Float.ofInt (c.rawValue p)) else none := by
  by_cases h : c.maxOffset < p.length
  · rw [if_pos ((maxOffset_lt_iff c p.length).mp h)]
    simp only [raw?, if_pos h, read?_of_fits c p h, Option.map_some]
  · rw [if_neg (mt (maxOffset_lt_iff c p.length).mpr h)]
    simp only [raw?, if_neg h]

theorem read?_eq (c : Channel) (p : Payload) :
    c.read? p = if ∀ i ∈ c.offsets, i < p.length then
      some ⟨c.key, c.conversion.apply (Float.ofInt (c.rawValue p)), c.outputUnit⟩ else none := by
  unfold read?
  rw [raw?_eq]
  split <;> rfl

end Channel

/-- Compiling a frame changes nothing it decodes. -/
theorem CompiledFrame.decode_ofFrame (f : Frame) (p : Payload) :
    (CompiledFrame.ofFrame f).decode p = f.decode p := by
  simp only [CompiledFrame.decode, CompiledFrame.ofFrame, Frame.decode, List.filterMap_map]
  rfl

namespace Conversion

/-- No formula describes the kelvin conversion: only a unit of `K` selects it. -/
theorem ofFormula_ne_kelvinToCelsius (formula : String) : ofFormula formula ≠ .kelvinToCelsius := by
  unfold ofFormula ofNormal
  split_ifs <;> nofun

theorem resolve_eq (units formula : String) :
    resolve units formula = if units = "K" then .kelvinToCelsius else ofFormula formula := rfl

theorem resolve_eq_kelvinToCelsius_iff (units formula : String) :
    resolve units formula = .kelvinToCelsius ↔ units = "K" := by
  by_cases h : units = "K"
  · simp [resolve, h]
  · simp [resolve, h, ofFormula_ne_kelvinToCelsius]

theorem outputUnit_resolve (units formula : String) :
    (resolve units formula).outputUnit units = if units = "K" then "°C" else units := by
  by_cases h : units = "K"
  · simp [resolve, h, outputUnit]
  · have hk := ofFormula_ne_kelvinToCelsius formula
    simp only [resolve, h, if_false]
    cases hc : ofFormula formula with
    | kelvinToCelsius => exact absurd hc hk
    | _ => rfl

end Conversion

theorem Field.offsets_of_ofOffsets? :
    ∀ {os : List Nat} {f : Field}, Field.ofOffsets? os = some f → f.offsets = os
  | [_], _, h => by cases h; rfl
  | [_, _], _, h => by cases h; rfl
  | [], _, h => by cases h
  | _ :: _ :: _ :: _, _, h => by cases h

/-- A channel built from a definition entry keeps the entry's name, offsets, sign and
unit, and takes the conversion the unit and formula resolve to. -/
theorem ChannelEntry.toChannel?_eq_some {e : ChannelEntry} {c : Channel}
    (h : e.toChannel? = some c) :
    c.name = e.name ∧ c.offsets = e.offsets ∧ c.signed = e.signed ∧ c.units = e.units ∧
      c.conversion = Conversion.resolve e.units e.formula := by
  unfold toChannel? Channel.make? at h
  cases ho : Field.ofOffsets? e.offsets with
  | none => simp [ho] at h
  | some fld =>
    simp only [ho, Option.map_some, Option.some.injEq] at h
    subst h
    exact ⟨rfl, Field.offsets_of_ofOffsets? ho, rfl, rfl, rfl⟩

/-- The decoder compiled for a frame gives, in channel order, one reading for each channel
whose offsets all lie inside the payload: its key, its conversion applied to the value read
off the bytes, and its output unit. A channel built from an entry converts kelvin exactly
when the entry's unit is `K`, and its readings then carry `°C`; otherwise it follows the
formula and carries the entry's unit. -/
theorem compiled_frame_decode (f : Frame) (p : Payload) :
    (CompiledFrame.ofFrame f).decode p =
      f.channels.filterMap (fun c =>
        if ∀ i ∈ c.offsets, i < p.length then
          some ⟨c.key, c.conversion.apply (Float.ofInt (c.rawValue p)), c.outputUnit⟩
        else none) ∧
    ∀ (e : ChannelEntry) (c : Channel), e.toChannel? = some c →
      c.offsets = e.offsets ∧ c.key = camelKey e.name ∧ c.signed = e.signed ∧
      c.conversion = (if e.units = "K" then .kelvinToCelsius else Conversion.ofFormula e.formula) ∧
      (c.conversion = .kelvinToCelsius ↔ e.units = "K") ∧
      c.outputUnit = (if e.units = "K" then "°C" else e.units) := by
  refine ⟨?_, ?_⟩
  · rw [CompiledFrame.decode_ofFrame]
    exact List.filterMap_congr fun c _ => Channel.read?_eq c p
  · intro e c h
    obtain ⟨hname, hoff, hsigned, hunits, hconv⟩ := ChannelEntry.toChannel?_eq_some h
    refine ⟨hoff, by rw [Channel.key, hname], hsigned, by rw [hconv, Conversion.resolve_eq], ?_, ?_⟩
    · rw [hconv]
      exact Conversion.resolve_eq_kelvinToCelsius_iff e.units e.formula
    · rw [Channel.outputUnit, hconv, hunits]
      exact Conversion.outputUnit_resolve e.units e.formula

end CanDecoder
