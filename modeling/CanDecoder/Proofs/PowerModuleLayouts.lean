import CanDecoder.Proofs.PayloadDecoding
import Mathlib.Tactic.IntervalCases

/-! The byte layouts of PD16 frames. The frames of a module are listed here as tables of
fields: each field has a name, a unit, a value computed from the payload's bytes with
plain shifts, masks and big-endian words, and the number of bytes a payload needs for the
field to be present. A frame's readings are the present fields of its table, in order.
The decoder finds the same readings through its tables of offsets and pin kinds, reading
bytes directly, through masks and through checked word readers; the main result says that
for every module, identifier and payload it gives exactly the readings of the layout
tables. -/

namespace CanDecoder

/-! ### Layout tables -/

namespace Payload

/-- The byte at `i` as a number, zero past the end. -/
def byteAt (p : Payload) (i : Nat) : Nat := (p.getD i 0).toNat

/-- The big-endian word of the bytes at `i` and `i + 1`. -/
def beWord (p : Payload) (i : Nat) : Nat := 256 * p.byteAt i + p.byteAt (i + 1)

end Payload

/-- A field of a frame layout: its name, the bytes a payload needs for it to be present, its
value and its unit. -/
structure FieldLayout where
  field : String
  bytes : Nat
  value : Payload → Float
  unit : String

namespace FieldLayout

/-- The reading of a field, named from `stem`. -/
def reading (f : FieldLayout) (stem : String) (p : Payload) : Reading :=
  ⟨stem ++ "_" ++ f.field, f.value p, f.unit⟩

/-- The readings of a table of fields: those whose bytes are present, in the table's order. -/
def readings (stem : String) (fields : List FieldLayout) (p : Payload) : List Reading :=
  (fields.filter fun f => f.bytes ≤ p.length).map (·.reading stem p)

end FieldLayout

namespace Module.Layout

/-- The pin state: the low bit of byte 1. -/
def state : FieldLayout := ⟨"state", 2, fun p => Float.ofNat (p.byteAt 1 &&& 1), ""⟩

/-- The pin voltage: the word at byte 2, in millivolts. -/
def voltage : FieldLayout := ⟨"voltage", 4, fun p => Float.ofNat (p.beWord 2) / 1000.0, "V"⟩

/-- A speed input: state, voltage, duty cycle in tenths of a percent, frequency. -/
def speedInput : List FieldLayout :=
  [state, voltage, ⟨"dutyCycle", 6, fun p => Float.ofNat (p.beWord 4) / 10.0, "%"⟩,
   ⟨"frequency", 8, fun p => Float.ofNat (p.beWord 6), "Hz"⟩]

/-- An analog input: state and voltage. -/
def analogInput : List FieldLayout := [state, voltage]

/-- A 25 A output: load from byte 1, voltage, current in milliamperes as a word at byte 4
and as byte 6, then retries and pin state from the high and low nibble of byte 7. -/
def output25A : List FieldLayout :=
  [⟨"load", 2, fun p => Float.ofNat (p.byteAt 1), "%"⟩, voltage,
   ⟨"currentLow", 6, fun p => Float.ofNat (p.beWord 4) / 1000.0, "A"⟩,
   ⟨"currentHigh", 7, fun p => Float.ofNat (p.byteAt 6) / 1000.0, "A"⟩,
   ⟨"retries", 8, fun p => Float.ofNat (p.byteAt 7 >>> 4), ""⟩,
   ⟨"pinState", 8, fun p => Float.ofNat (p.byteAt 7 &&& 0x0F), ""⟩]

/-- An 8 A output: retries and pin state from the top five and low three bits of byte 1,
voltage, current in milliamperes as a word at byte 4, load from byte 6. -/
def output8A : List FieldLayout :=
  [⟨"retries", 2, fun p => Float.ofNat (p.byteAt 1 >>> 3), ""⟩,
   ⟨"pinState", 2, fun p => Float.ofNat (p.byteAt 1 &&& 7), ""⟩, voltage,
   ⟨"current", 6, fun p => Float.ofNat (p.beWord 4) / 1000.0, "A"⟩,
   ⟨"load", 7, fun p => Float.ofNat (p.byteAt 6), "%"⟩]

/-- A module status: the high nibble of byte 0, then the firmware version
`major + minor / 100 + patch / 10000` from bytes 1 to 3, of whose first only the low two
bits count. -/
def status : List FieldLayout :=
  [⟨"status", 1, fun p => Float.ofNat (p.byteAt 0 >>> 4), ""⟩,
   ⟨"firmwareVersion", 4, fun p => Float.ofNat (p.byteAt 1 &&& 3) +
      Float.ofNat (p.byteAt 2) / 100.0 + Float.ofNat (p.byteAt 3) / 10000.0, ""⟩]

/-- The pins reported at a block offset, by the kind code of the mux byte: speed (3) and
analog (4) inputs at offset 3, 25 A (0) and 8 A (1) outputs at offset 4. Each comes with
the short name of its kind and its fields. -/
def pins : Nat → Nat → Option (String × List FieldLayout)
  | 3, 3 => some ("SPI", speedInput)
  | 3, 4 => some ("AVI", analogInput)
  | 4, 0 => some ("25A", output25A)
  | 4, 1 => some ("8A", output8A)
  | _, _ => none

end Module.Layout

namespace Module

/-- The readings of the pin that a muxed frame at `offset` reports: the kind is the top three
bits of the mux byte and the pin number its low four. -/
def pinReadings (m : Module) (offset : Nat) (p : Payload) : List Reading :=
  match Layout.pins offset (p.byteAt 0 >>> 5) with
  | some (kind, fields) =>
    FieldLayout.readings
      ("pd16_" ++ m.letter.toString ++ "_" ++ kind ++ "_" ++ toString (p.byteAt 0 &&& 0x0F)) fields p
  | none => []

/-- The readings of a frame at `offset` in the module's block: the module status at 5, and
the pin of a muxed frame of two bytes or more elsewhere. -/
def offsetReadings (m : Module) (offset : Nat) (p : Payload) : List Reading :=
  if offset = 5 then FieldLayout.readings ("pd16_" ++ m.letter.toString) Layout.status p
  else if p.length < 2 then []
  else m.pinReadings offset p

/-- The readings of a frame by the layout tables: none for an empty payload or an identifier
outside the eight from `0x6D0 + 8 * index`, else those of its offset in the block. -/
def layoutReadings (m : Module) (id : FrameId) (p : Payload) : List Reading :=
  if p = [] ∨ id.toNat < 0x6D0 + 8 * m.index ∨ 0x6D0 + 8 * m.index + 8 ≤ id.toNat then []
  else m.offsetReadings (id.toNat - (0x6D0 + 8 * m.index)) p

end Module

/-! ### Reading fields -/

namespace FieldLayout

variable (stem : String) (p : Payload)

@[simp] theorem readings_nil : readings stem [] p = [] := rfl

theorem readings_cons (f : FieldLayout) (fs : List FieldLayout) :
    readings stem (f :: fs) p =
      (if f.bytes ≤ p.length then [f.reading stem p] else []) ++ readings stem fs p := by
  unfold readings
  rw [List.filter_cons]
  split <;> simp_all

end FieldLayout

namespace Payload

variable (p : Payload)

theorem byteAt_lt (i : Nat) : p.byteAt i < 256 := UInt8.toNat_lt _

theorem index_eq_byteAt {i : Nat} (h : i < p.length) : p.index i = .ok (p.byteAt i) :=
  p.index_of_lt h

theorem byte?_eq (i : Nat) : p.byte? i = if i < p.length then some (p.byteAt i) else none := by
  split
  · simp [byte?, byteAt, List.getElem?_eq_getElem ‹i < p.length›, List.getD_eq_getElem?_getD]
  · simp [byte?, List.getElem?_eq_none (by omega : p.length ≤ i)]

/-- A word away from the last machine offset is present exactly when both its bytes are. -/
theorem wordAt?_eq {i : Nat} (hi : i < offsetMax) :
    p.wordAt? i = if i + 2 ≤ p.length then some (p.beWord i) else none := by
  simp only [wordAt?, nextOffset?, if_pos hi, Option.bind_eq_bind, Option.bind_some, word?,
    byte?_eq]
  by_cases h : i + 2 ≤ p.length
  · rw [if_pos (by omega : i < p.length), if_pos (by omega : i + 1 < p.length), if_pos h]
    rfl
  · -- one of the two bytes is missing
    by_cases h1 : i < p.length
    · rw [if_pos h1, if_neg (by omega : ¬ i + 1 < p.length), if_neg h]
      rfl
    · rw [if_neg h1, if_neg h]
      rfl

end Payload

/-- Masking the bits a byte has above a shift keeps the shifted byte whole. -/
theorem bitField_byte {b : Nat} (hb : b < 256) {shift k mask : Nat} (hk : shift + k = 8)
    (hmask : mask + 1 = 2 ^ k) : bitField b shift mask = b >>> shift := by
  have hmask' : mask = 2 ^ k - 1 := by omega
  have hlt : b >>> shift < 2 ^ k := by
    rw [Nat.shiftRight_eq_div_pow, Nat.div_lt_iff_lt_mul (Nat.two_pow_pos shift), ← Nat.pow_add,
      Nat.add_comm, hk]
    exact hb
  rw [bitField, hmask', Nat.and_two_pow_sub_one_eq_mod, Nat.mod_eq_of_lt hlt]

theorem bitField_zero (b mask : Nat) : bitField b 0 mask = b &&& mask := by
  simp [bitField]

namespace Module

/-- A field that is present with the word at `i` is present exactly when the word's bytes
are. -/
theorem optional_wordAt (stem field unit : String) (g : Nat → Float) (p : Payload) {i : Nat}
    (hi : i < Payload.offsetMax) :
    optional stem field ((p.wordAt? i).map g) unit =
      if i + 2 ≤ p.length then [reading stem field (g (p.beWord i)) unit] else [] := by
  rw [p.wordAt?_eq hi]
  split <;> rfl

theorem optional_byte (stem field unit : String) (g : Nat → Float) (p : Payload) (i : Nat) :
    optional stem field ((p.byte? i).map g) unit =
      if i + 1 ≤ p.length then [reading stem field (g (p.byteAt i)) unit] else [] := by
  rw [p.byte?_eq i]
  by_cases h : i < p.length
  · rw [if_pos h, if_pos (by omega)]
    rfl
  · rw [if_neg h, if_neg (by omega)]
    rfl

end Module

/-! ### The pin handlers -/

namespace PinHandler

open CanDecoder.Module

variable (stem : String) {p : Payload}

theorem speedInput_eq (hp : 2 ≤ p.length) :
    speedInput stem p = .ok (FieldLayout.readings stem Layout.speedInput p) := by
  simp (disch := decide) only [speedInput, pinState, p.index_eq_byteAt (show 1 < p.length by omega),
    bind, Except.bind, pure, Except.pure, voltage_eq, optional_wordAt]
  simp [FieldLayout.readings_cons, Layout.speedInput, Layout.state, Layout.voltage,
    FieldLayout.reading, reading, hp]

theorem analogInput_eq (hp : 2 ≤ p.length) :
    analogInput stem p = .ok (FieldLayout.readings stem Layout.analogInput p) := by
  simp (disch := decide) only [analogInput, pinState,
    p.index_eq_byteAt (show 1 < p.length by omega), bind, Except.bind, pure, Except.pure,
    voltage_eq, optional_wordAt]
  simp [FieldLayout.readings_cons, Layout.analogInput, Layout.state, Layout.voltage,
    FieldLayout.reading, reading, hp]

theorem output25A_eq (hp : 2 ≤ p.length) :
    output25A stem p = .ok (FieldLayout.readings stem Layout.output25A p) := by
  simp (disch := decide) only [output25A, p.index_eq_byteAt (show 1 < p.length by omega), bind,
    Except.bind, pure, Except.pure, voltage_eq, optional_wordAt, optional_byte, p.byte?_eq 7]
  -- the two nibbles of byte 7 are present together, with the eighth byte
  by_cases h8 : 8 ≤ p.length
  · simp [FieldLayout.readings_cons, Layout.output25A, Layout.voltage, FieldLayout.reading,
      reading, hp, h8, show 7 < p.length by omega, show 7 ≤ p.length by omega, bitField_zero,
      bitField_byte (p.byteAt_lt 7) (show 4 + 4 = 8 from rfl) (show 15 + 1 = 2 ^ 4 from rfl)]
  · simp [FieldLayout.readings_cons, Layout.output25A, Layout.voltage, FieldLayout.reading,
      reading, hp, h8, show ¬ 7 < p.length by omega]

theorem output8A_eq (hp : 2 ≤ p.length) :
    output8A stem p = .ok (FieldLayout.readings stem Layout.output8A p) := by
  simp (disch := decide) only [output8A, p.index_eq_byteAt (show 1 < p.length by omega), bind,
    Except.bind, pure, Except.pure, voltage_eq, optional_wordAt, optional_byte, bitField_zero,
    bitField_byte (p.byteAt_lt 1) (show 3 + 5 = 8 from rfl) (show 31 + 1 = 2 ^ 5 from rfl)]
  simp [FieldLayout.readings_cons, Layout.output8A, Layout.voltage, FieldLayout.reading, reading,
    hp]

end PinHandler

/-! ### Muxed frames, the module status and the block -/

/-- Only the inputs at offset 3 and the outputs at offset 4 are muxed pins. -/
theorem Module.Layout.pins_of_ne {offset : Nat} (h3 : offset ≠ 3) (h4 : offset ≠ 4) (code : Nat) :
    pins offset code = none := by
  unfold pins
  split <;> simp_all

theorem muxKind?_byte {b : Nat} (hb : b < 256) : muxKind? b = PinKind.ofCode? (b >>> 5) := by
  rw [muxKind?, bitField_byte hb (show 5 + 3 = 8 from rfl) (show 7 + 1 = 2 ^ 3 from rfl)]

theorem muxPin_eq (b : Nat) : muxPin b = b &&& 0x0F := bitField_zero b 0x0F

theorem kindCode_lt (p : Payload) : p.byteAt 0 >>> 5 < 8 := by
  have := p.byteAt_lt 0
  rw [Nat.shiftRight_eq_div_pow]
  omega

namespace Module

variable (m : Module) {p : Payload}

theorem muxed_inputs :
    m.muxed PinHandler.inputs p = .ok (if p.length < 2 then [] else m.pinReadings 3 p) := by
  by_cases hshort : p.length < 2
  · rw [if_pos hshort, m.muxed_of_short _ hshort]
  have hp : 2 ≤ p.length := by omega
  simp only [muxed, hshort, if_false, p.index_eq_byteAt (by omega : 0 < p.length), bind,
    Except.bind, muxKind?_byte (p.byteAt_lt 0), muxPin_eq]
  have hcode := kindCode_lt p
  unfold pinReadings
  generalize p.byteAt 0 >>> 5 = code at hcode ⊢
  interval_cases code <;>
    simp [PinKind.ofCode?, Layout.pins, PinHandler.inputs, PinHandler.speedInput_eq _ hp,
      PinHandler.analogInput_eq _ hp, namePrefix, PinKind.shortName, pure, Except.pure]

theorem muxed_outputs :
    m.muxed PinHandler.outputs p = .ok (if p.length < 2 then [] else m.pinReadings 4 p) := by
  by_cases hshort : p.length < 2
  · rw [if_pos hshort, m.muxed_of_short _ hshort]
  have hp : 2 ≤ p.length := by omega
  simp only [muxed, hshort, if_false, p.index_eq_byteAt (by omega : 0 < p.length), bind,
    Except.bind, muxKind?_byte (p.byteAt_lt 0), muxPin_eq]
  have hcode := kindCode_lt p
  unfold pinReadings
  generalize p.byteAt 0 >>> 5 = code at hcode ⊢
  interval_cases code <;>
    simp [PinKind.ofCode?, Layout.pins, PinHandler.outputs, PinHandler.output25A_eq _ hp,
      PinHandler.output8A_eq _ hp, namePrefix, PinKind.shortName, pure, Except.pure]

theorem statusNibble_eq (hp : p ≠ []) :
    m.statusNibble p = [⟨m.namePrefix ++ "_status", Float.ofNat (p.byteAt 0 >>> 4), ""⟩] := by
  simp [statusNibble, p.byte?_eq 0, List.length_pos_iff.mpr hp,
    bitField_byte (p.byteAt_lt 0) (show 4 + 4 = 8 from rfl) (show 15 + 1 = 2 ^ 4 from rfl)]

theorem status_eq (hp : p ≠ []) :
    m.status p = .ok (FieldLayout.readings ("pd16_" ++ m.letter.toString) Layout.status p) := by
  have h1 : 1 ≤ p.length := List.length_pos_iff.mpr hp
  by_cases h4 : 4 ≤ p.length
  · rw [m.status_of_long h4, m.statusNibble_eq hp]
    simp [FieldLayout.readings_cons, Layout.status, FieldLayout.reading, namePrefix, Payload.byteAt,
      String.append_assoc, h1, h4]
  · rw [m.status_of_short (by omega), m.statusNibble_eq hp]
    simp [FieldLayout.readings_cons, Layout.status, FieldLayout.reading, namePrefix,
      String.append_assoc, h1, h4]

/-- The decoder an offset of the block has gives the readings of the offset's layout. -/
theorem offsetHandlers_eq (offset : Nat) (hp : p ≠ []) :
    ((offsetHandlers.find? (·.1 == offset)).map fun e => e.2 m p).getD (pure []) =
      .ok (m.offsetReadings offset p) := by
  by_cases h5 : offset = 5
  · subst h5
    simp [offsetHandlers, offsetReadings, m.status_eq hp]
  by_cases h3 : offset = 3
  · subst h3
    simp [offsetHandlers, offsetReadings, m.muxed_inputs]
  by_cases h4 : offset = 4
  · subst h4
    simp [offsetHandlers, offsetReadings, m.muxed_outputs]
  -- no other offset has a decoder, nor pins in the layout
  simp [offsetHandlers, offsetReadings, pinReadings, Layout.pins_of_ne h3 h4, h5, Ne.symm h3,
    Ne.symm h4, Ne.symm h5, pure, Except.pure]

theorem checkedDecode_eq_layout (id : FrameId) (p : Payload) :
    m.checkedDecode id p = .ok (m.layoutReadings id p) := by
  have hbase : m.baseId = 0x6D0 + 8 * m.index := rfl
  by_cases hp : p = []
  · subst hp
    simp [checkedDecode, layoutReadings, pure, Except.pure]
  rw [m.checkedDecode_of_ne_nil id hp, layoutReadings, ← hbase]
  by_cases hin : m.baseId ≤ id.toNat ∧ id.toNat < m.baseId + 8
  · rw [if_pos hin, if_neg (by simp only [hp, false_or, not_or]; omega), m.offsetHandlers_eq _ hp]
  · rw [if_neg hin, if_pos (by omega)]
    rfl

/-- A PD16 module decodes every frame by the layout tables: whatever the identifier and the
payload, its readings are those the tables list, in their order, with their names, values
and units. So nothing comes of an empty payload, an identifier outside the module's block
or an offset other than 3, 4 and 5; the status frame gives the status nibble and, from four
bytes, the firmware version; a muxed frame of two bytes or more gives the fields of the pin
its mux byte names, when the kind is one its offset reports, each field present exactly
when its bytes are. -/
theorem decode_eq_layoutReadings (id : FrameId) (p : Payload) :
    m.decode id p = m.layoutReadings id p := by
  have h := m.checkedDecode_eq id p
  rw [m.checkedDecode_eq_layout id p] at h
  exact (Except.ok.inj h).symm

example : (Module.a.layoutReadings 0x6D3 [0x61, 0x01, 0x13, 0x88, 0x02]).map (·.name) =
    ["pd16_A_SPI_1_state", "pd16_A_SPI_1_voltage"] := by decide

end Module

end CanDecoder
