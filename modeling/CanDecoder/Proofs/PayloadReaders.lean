import CanDecoder.Proofs.FrameDecode
import CanDecoder.Proofs.PowerModuleLayouts

/-! The payload readers against the bytes. Every reader checks its bounds: the byte reader
answers exactly inside the payload, and the 16-bit reader on two arbitrary offsets answers,
high byte times 256 plus low byte, exactly when both bytes lie inside. The big-endian word at
an offset reads that offset and the next one, and there is none at the last machine offset,
which has no next one. The signed readers are the machine's two's-complement
reinterpretations of the unsigned ones: a word of 32768 or more stands for itself less 65536,
a byte of 128 or more for itself less 256. The defaulting decoders answer zero where a reader
answers nothing. -/

namespace CanDecoder

/-! ### Two's complement -/

/-- Reading a 16-bit word as signed is reinterpreting its bits as a signed machine word. -/
theorem signed16_eq_toInt16 {v : Nat} (hv : v < 65536) :
    signed16 v = (UInt16.ofNat v).toInt16.toInt := by
  have hbits : (UInt16.ofNat v).toBitVec.toNat = v := by simp [Nat.mod_eq_of_lt hv]
  rw [← Int16.toInt_toBitVec, UInt16.toBitVec_toInt16, BitVec.toInt_eq_toNat_cond, hbits, signed16]
  split <;> split <;> omega

/-- Reading a byte as signed is reinterpreting its bits as a signed machine byte. -/
theorem signed8_eq_toInt8 {v : Nat} (hv : v < 256) : signed8 v = (UInt8.ofNat v).toInt8.toInt := by
  have hbits : (UInt8.ofNat v).toBitVec.toNat = v := by simp [Nat.mod_eq_of_lt hv]
  rw [← Int8.toInt_toBitVec, UInt8.toBitVec_toInt8, BitVec.toInt_eq_toNat_cond, hbits, signed8]
  split <;> split <;> omega

namespace Payload

/-! ### Unsigned readers -/

/-- The byte reader answers exactly inside the payload. -/
theorem byte?_eq_getElem (p : Payload) (o : Nat) :
    p.byte? o = if h : o < p.length then some p[o].toNat else none := by
  by_cases h : o < p.length
  · rw [dif_pos h, byte?, List.getElem?_eq_getElem h, Option.map_some]
  · rw [dif_neg h, byte?, List.getElem?_eq_none (by omega), Option.map_none]

/-- The 16-bit reader answers exactly when both its bytes lie inside the payload. -/
theorem word?_eq_getElem (p : Payload) (msb lsb : Nat) :
    p.word? msb lsb = if h : msb < p.length ∧ lsb < p.length then
      some (256 * p[msb].toNat + p[lsb].toNat) else none := by
  simp only [word?, byte?_eq_getElem]
  by_cases hm : msb < p.length
  · by_cases hl : lsb < p.length
    · simp [hm, hl]
    · simp [hm, hl]
  · simp [hm]

/-- The big-endian word at an offset reads the offset and the next one, where there is one. -/
theorem wordAt?_eq_word? (p : Payload) (o : Nat) :
    p.wordAt? o = if o < offsetMax then p.word? o (o + 1) else none := by
  simp only [wordAt?, nextOffset?]
  split <;> rfl

theorem lt_of_byte?_eq_some {p : Payload} {o v : Nat} (h : p.byte? o = some v) : v < 256 := by
  rw [byte?_eq_getElem] at h
  split at h
  · obtain rfl := Option.some.inj h
    exact UInt8.toNat_lt _
  · cases h

/-- A word read from two bytes fits in 16 bits. -/
theorem lt_of_word?_eq_some {p : Payload} {msb lsb v : Nat} (h : p.word? msb lsb = some v) :
    v < 65536 := by
  rw [word?_eq_getElem] at h
  split at h
  · obtain rfl := Option.some.inj h
    have hhi : p[msb].toNat < 256 := UInt8.toNat_lt _
    have hlo : p[lsb].toNat < 256 := UInt8.toNat_lt _
    omega
  · cases h

theorem lt_of_wordAt?_eq_some {p : Payload} {o v : Nat} (h : p.wordAt? o = some v) :
    v < 65536 := by
  rw [wordAt?_eq_word?] at h
  split at h
  · exact lt_of_word?_eq_some h
  · cases h

/-! ### Signed readers -/

/-- The signed word reader reinterprets the bits of the unsigned one. -/
theorem signedWordAt?_eq_toInt16 (p : Payload) (o : Nat) :
    p.signedWordAt? o = (p.wordAt? o).map fun v => (UInt16.ofNat v).toInt16.toInt :=
  Option.map_congr fun _ hv => signed16_eq_toInt16 (lt_of_wordAt?_eq_some hv)

/-- The signed byte reader reinterprets the bits of the unsigned one. -/
theorem signedByte?_eq_toInt8 (p : Payload) (o : Nat) :
    p.signedByte? o = (p.byte? o).map fun v => (UInt8.ofNat v).toInt8.toInt :=
  Option.map_congr fun _ hv => signed8_eq_toInt8 (lt_of_byte?_eq_some hv)

/-- The readers of a payload: the byte and the 16-bit reader answer exactly inside the
payload, high byte first; the word at an offset is the 16-bit reader on it and the next
offset, and there is none at the last machine offset; the signed readers are the
two's-complement reinterpretations of the unsigned ones; and the decoders default to zero. -/
theorem readers_big_endian_twos_complement (p : Payload) (m l o : Nat) :
    p.byte? o = (if h : o < p.length then some p[o].toNat else none) ∧
    p.word? m l = (if h : m < p.length ∧ l < p.length then
      some (256 * p[m].toNat + p[l].toNat) else none) ∧
    p.wordAt? o = (if o < offsetMax then p.word? o (o + 1) else none) ∧
    p.signedWordAt? o =
      (p.wordAt? o).map (fun (v : Nat) => if 32768 ≤ v then (v : Int) - 65536 else v) ∧
    p.signedWordAt? o = (p.wordAt? o).map (fun v => (UInt16.ofNat v).toInt16.toInt) ∧
    p.signedByte? o =
      (p.byte? o).map (fun (v : Nat) => if 128 ≤ v then (v : Int) - 256 else v) ∧
    p.signedByte? o = (p.byte? o).map (fun v => (UInt8.ofNat v).toInt8.toInt) ∧
    p.wordOrZero o = (p.wordAt? o).getD 0 ∧
    p.signedWordOrZero o = (p.signedWordAt? o).getD 0 := by
  refine ⟨byte?_eq_getElem p o, word?_eq_getElem p m l, wordAt?_eq_word? p o, ?_,
    signedWordAt?_eq_toInt16 p o, ?_, signedByte?_eq_toInt8 p o, rfl, rfl⟩
  · exact congrArg (Option.map · (p.wordAt? o)) (funext signed16_eq)
  · exact congrArg (Option.map · (p.byte? o)) (funext signed8_eq)

end Payload

end CanDecoder
