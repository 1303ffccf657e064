import CanDecoder.Proofs.PowerModuleLayouts
import CanDecoder.Proofs.FrameDecode

/-! The fixed extractors of the ECU decoder against channels. Engine speed, temperature and
pressure read the big-endian word at an offset through the offset-checked word reader and
apply a fixed conversion, zero when the word is absent. A channel defined on the same two
offsets reads through its own path: the conversion resolved from its unit and formula, a
check of its highest offset, then the two bytes. Both paths read the same word and apply
the same conversion, and the word is absent exactly when the payload ends before the byte
after the offset. At the last machine offset the next offset does not exist, so the
extractors answer zero there whatever the payload. -/

namespace CanDecoder

/-- An unsigned channel on the bytes at `o` and `o + 1` reads the big-endian word at `o`,
as long as the offset after `o` fits a machine word. -/
theorem Channel.raw?_wordAt {c : Channel} {o : Nat} (ho : o < Payload.offsetMax)
    (hfield : c.field = .word o (o + 1)) (hsigned : c.signed = false) (p : Payload) :
    c.raw? p = (p.wordAt? o).map Float.ofNat := by
  have hoffsets : c.offsets = [o, o + 1] := by simp [offsets, hfield, Field.offsets]
  rw [Channel.raw?_eq, p.wordAt?_eq ho, hoffsets]
  by_cases hlen : o + 2 ≤ p.length
  · have hraw : c.rawValue p = (p.beWord o : Int) := by
      simp [rawValue, hfield, hsigned, Payload.beWord, Payload.byteAt]
    rw [if_pos (by simp; omega), if_pos hlen, hraw]
    rfl
  · rw [if_neg (by simp; omega), if_neg hlen]
    rfl

/-- The unsigned channel a definition gives for the bytes at `o` and `o + 1`. -/
theorem Channel.make?_word (name units formula : String) (o : Nat) :
    Channel.make? name [o, o + 1] false units formula =
      some ⟨name, .word o (o + 1), false, units, Conversion.resolve units formula⟩ := rfl

/-- The channel defined on the bytes at `o` and `o + 1` reads exactly when the payload holds
the byte after `o`, and what it reads, converted, is the word at `o` under the conversion its
unit and formula resolve to; where there is no word a default stands for both. -/
theorem channel_reads_wordAt (name units formula : String) {o : Nat} (ho : o < Payload.offsetMax)
    (p : Payload) (zero : Float) :
    ∃ c, Channel.make? name [o, o + 1] false units formula = some c ∧
      ((c.raw? p).isSome ↔ o + 1 < p.length) ∧
      (((p.wordAt? o).map Float.ofNat).map (Conversion.resolve units formula).apply).getD zero =
        ((c.raw? p).map c.conversion.apply).getD zero := by
  refine ⟨_, Channel.make?_word name units formula o, ?_, ?_⟩
  · rw [Channel.raw?_wordAt ho rfl rfl p, p.wordAt?_eq ho]
    split <;> simp <;> omega
  · rw [Channel.raw?_wordAt ho rfl rfl p]

namespace Ecu

theorem temperature_eq (p : Payload) (o : Nat) :
    temperature p o = (((p.wordAt? o).map Float.ofNat).map Conversion.kelvinToCelsius.apply).getD 0.0 := by
  unfold temperature
  cases p.wordAt? o <;> rfl

theorem pressure_eq (p : Payload) (o : Nat) :
    pressure p o = (((p.wordAt? o).map Float.ofNat).map Conversion.divideBy10.apply).getD 0.0 := by
  unfold pressure
  cases p.wordAt? o <;> rfl

theorem rpm_eq (p : Payload) :
    rpm p = (((p.wordAt? 0).map Float.ofNat).map Conversion.identity.apply).getD 0 := by
  unfold rpm Payload.wordOrZero
  cases p.wordAt? 0 <;> rfl

end Ecu

/-- Each fixed extractor reads what a channel on its two bytes reads, converted alike: the
temperature at any offset below the last is the channel with unit `K` (whatever its name and
formula), the pressure the channel with formula `x / 10` and another unit, and engine speed
the channel on bytes 0 and 1 with formula `x` and another unit. The channel reads exactly when
the payload holds the byte after the offset, and the extractor reads zero when it does not.
At the last machine offset the temperature and the pressure are zero. -/
theorem extractors_read_as_channels (p : Payload) (name formula units : String)
    (hunits : units ≠ "K") :
    (∀ o < Payload.offsetMax, ∃ c, Channel.make? name [o, o + 1] false "K" formula = some c ∧
      ((c.raw? p).isSome ↔ o + 1 < p.length) ∧
      Ecu.temperature p o = ((c.raw? p).map c.conversion.apply).getD 0.0) ∧
    (∀ o < Payload.offsetMax, ∃ c, Channel.make? name [o, o + 1] false units "x / 10" = some c ∧
      ((c.raw? p).isSome ↔ o + 1 < p.length) ∧
      Ecu.pressure p o = ((c.raw? p).map c.conversion.apply).getD 0.0) ∧
    (∃ c, Channel.make? name [0, 1] false units "x" = some c ∧
      ((c.raw? p).isSome ↔ 1 < p.length) ∧
      Ecu.rpm p = ((c.raw? p).map c.conversion.apply).getD 0) ∧
    Ecu.temperature p Payload.offsetMax = 0.0 ∧ Ecu.pressure p Payload.offsetMax = 0.0 := by
  have hdiv : Conversion.resolve units "x / 10" = .divideBy10 := by
    rw [Conversion.resolve_eq, if_neg hunits]
    decide
  have hid : Conversion.resolve units "x" = .identity := by
    rw [Conversion.resolve_eq, if_neg hunits]
    decide
  have hkelvin : Conversion.resolve "K" formula = .kelvinToCelsius := by
    rw [Conversion.resolve_eq, if_pos rfl]
  refine ⟨fun o ho => ?_, fun o ho => ?_, ?_, ?_, ?_⟩
  · rw [Ecu.temperature_eq, ← hkelvin]
    exact channel_reads_wordAt name "K" formula ho p 0.0
  · rw [Ecu.pressure_eq, ← hdiv]
    exact channel_reads_wordAt name units "x / 10" ho p 0.0
  · rw [Ecu.rpm_eq, ← hid]
    exact channel_reads_wordAt name units "x" (by decide) p 0
  · rw [Ecu.temperature_eq, p.wordAt?_offsetMax]
    rfl
  · rw [Ecu.pressure_eq, p.wordAt?_offsetMax]
    rfl

/-- A three-byte payload, a pressure channel declared in `kPa`: the extractors and the
channels agree, and the word at offset 1 is the last one present. -/
theorem short_payload_extractors_read_as_channels :
    "kPa" ≠ "K" ∧
    ((∀ o < Payload.offsetMax, ∃ c, Channel.make? "MAP" [o, o + 1] false "K" "x" = some c ∧
      ((c.raw? [0x0E, 0x2F, 0x01]).isSome ↔ o + 1 < 3) ∧
      Ecu.temperature [0x0E, 0x2F, 0x01] o = ((c.raw? [0x0E, 0x2F, 0x01]).map c.conversion.apply).getD 0.0) ∧
    (∀ o < Payload.offsetMax, ∃ c, Channel.make? "MAP" [o, o + 1] false "kPa" "x / 10" = some c ∧
      ((c.raw? [0x0E, 0x2F, 0x01]).isSome ↔ o + 1 < 3) ∧
      Ecu.pressure [0x0E, 0x2F, 0x01] o = ((c.raw? [0x0E, 0x2F, 0x01]).map c.conversion.apply).getD 0.0) ∧
    (∃ c, Channel.make? "MAP" [0, 1] false "kPa" "x" = some c ∧
      ((c.raw? [0x0E, 0x2F, 0x01]).isSome ↔ 1 < 3) ∧
      Ecu.rpm [0x0E, 0x2F, 0x01] = ((c.raw? [0x0E, 0x2F, 0x01]).map c.conversion.apply).getD 0) ∧
    Ecu.temperature [0x0E, 0x2F, 0x01] Payload.offsetMax = 0.0 ∧
      Ecu.pressure [0x0E, 0x2F, 0x01] Payload.offsetMax = 0.0) :=
  ⟨by decide, extractors_read_as_channels [0x0E, 0x2F, 0x01] "MAP" "x" "kPa" (by decide)⟩

end CanDecoder
