import CanDecoder.Error
import Mathlib.Data.List.Induction

/-! Frame identifiers as text. A hex digit is read the same in either case, so a run of
digits reads as `n` exactly when, in upper case, it is zeros followed by the hex numeral
of `n`. Reading therefore accepts exactly the spellings of an identifier: blanks around,
an optional `0x` or `0X`, an optional `+`, then the digits; anything else is refused,
named as given. Writing gives `0x` and the numeral padded to three digits (eight past
`0x7FF`), which reads back as the identifier it came from. -/

namespace CanDecoder

/-! ### Hex digits -/

theorem toNat_toUpper (c : Char) :
    c.toUpper.toNat = if 97 ≤ c.toNat ∧ c.toNat ≤ 122 then c.toNat - 32 else c.toNat := by
  have ha : ('a'.val).toNat = 97 := rfl
  have hz : ('z'.val).toNat = 122 := rfl
  have hv : c.val.toNat = c.toNat := rfl
  unfold Char.toUpper
  split_ifs with hlow hrange hrange
  · -- a lower-case letter moves down by 32, modulo `2 ^ 32`
    show (c.val + ('A'.val - 'a'.val)).toNat = _
    rw [UInt32.toNat_add, show ('A'.val - 'a'.val).toNat = 4294967264 by decide]
    omega
  · simp only [UInt32.le_iff_toNat_le] at hlow
    omega
  · simp only [UInt32.le_iff_toNat_le] at hlow
    omega
  · rfl

theorem toUpper_toUpper (c : Char) : c.toUpper.toUpper = c.toUpper := by
  apply Char.toNat_inj.mp
  rw [toNat_toUpper, toNat_toUpper c]
  split_ifs <;> omega

theorem hexValue?_eq_some_iff_toNat (c : Char) (d : Nat) : hexValue? c = some d ↔
    48 ≤ c.toNat ∧ c.toNat ≤ 57 ∧ c.toNat = 48 + d ∨
    97 ≤ c.toNat ∧ c.toNat ≤ 102 ∧ c.toNat = 87 + d ∨
    65 ≤ c.toNat ∧ c.toNat ≤ 70 ∧ c.toNat = 55 + d := by
  have hbounds : hexValue? c =
      if 48 ≤ c.toNat ∧ c.toNat ≤ 57 then some (c.toNat - 48)
      else if 97 ≤ c.toNat ∧ c.toNat ≤ 102 then some (c.toNat - 87)
      else if 65 ≤ c.toNat ∧ c.toNat ≤ 70 then some (c.toNat - 55)
      else none := by
    simp only [hexValue?, Char.le_def, UInt32.le_iff_toNat_le]
    rfl
  rw [hbounds]
  split_ifs <;> simp <;> omega

theorem toNat_toUpper_digitChar : ∀ d < 16,
    (Nat.digitChar d).toUpper.toNat = if d < 10 then 48 + d else 55 + d := by
  decide

/-- A character is a hex digit of value `d` exactly when, in upper case, it is the digit
`Nat.digitChar d` writes. -/
theorem hexValue?_eq_some_iff (c : Char) (d : Nat) :
    hexValue? c = some d ↔ d < 16 ∧ c.toUpper = (Nat.digitChar d).toUpper := by
  rw [hexValue?_eq_some_iff_toNat]
  constructor
  · intro h
    have hd : d < 16 := by omega
    refine ⟨hd, Char.toNat_inj.mp ?_⟩
    rw [toNat_toUpper, toNat_toUpper_digitChar d hd]
    split_ifs <;> omega
  · rintro ⟨hd, hc⟩
    have hcode := congrArg Char.toNat hc
    rw [toNat_toUpper, toNat_toUpper_digitChar d hd] at hcode
    split_ifs at hcode <;> omega

theorem hexValue?_toUpper (c : Char) : hexValue? c.toUpper = hexValue? c :=
  Option.ext fun d => by rw [hexValue?_eq_some_iff, hexValue?_eq_some_iff, toUpper_toUpper]

theorem hexValue?_digitChar {d : Nat} (hd : d < 16) : hexValue? (Nat.digitChar d) = some d :=
  (hexValue?_eq_some_iff _ _).mpr ⟨hd, rfl⟩

/-- Facts about the sixteen upper-case digits, checked one by one. -/
theorem upperDigit_facts : ∀ d < 16,
    ((Nat.digitChar d).toUpper.isHexDigit ∧ (Nat.digitChar d).toUpper.isLower = false) ∧
    (Nat.digitChar d).toUpper ≠ '+' ∧ (Nat.digitChar d).toUpper ≠ 'X' ∧
    Text.isBlank (Nat.digitChar d).toUpper = false := by
  decide

/-! ### Hex numerals -/

/-- The upper-case hex numeral of `n`, without leading zeros. -/
def hexNumeral (n : Nat) : List Char := (Nat.toDigits 16 n).map Char.toUpper

theorem hexNumeral_of_lt {d : Nat} (hd : d < 16) : hexNumeral d = [(Nat.digitChar d).toUpper] := by
  rw [hexNumeral, Nat.toDigits_of_lt_base hd, List.map_singleton]

/-- A numeral followed by one more digit is the numeral of sixteen times its value plus
that digit. -/
theorem hexNumeral_push {m d : Nat} (hm : 0 < m) (hd : d < 16) :
    hexNumeral (16 * m + d) = hexNumeral m ++ [(Nat.digitChar d).toUpper] := by
  rw [hexNumeral, ← Nat.toDigits_append_toDigits (by decide) hm hd, List.map_append,
    ← hexNumeral, ← hexNumeral, hexNumeral_of_lt hd]

theorem hexNumeral_ne_nil (n : Nat) : hexNumeral n ≠ [] := by
  simp [hexNumeral, Nat.toDigits_ne_nil]

theorem mem_hexNumeral {n : Nat} {c : Char} (hc : c ∈ hexNumeral n) :
    ∃ d < 16, c = (Nat.digitChar d).toUpper := by
  induction n using Nat.strongRecOn with
  | ind n ih =>
    by_cases hn : n < 16
    · rw [hexNumeral_of_lt hn, List.mem_singleton] at hc
      exact ⟨n, hn, hc⟩
    · have hsplit : n = 16 * (n / 16) + n % 16 := (Nat.div_add_mod n 16).symm
      rw [hsplit, hexNumeral_push (by omega) (Nat.mod_lt n (by decide)), List.mem_append,
        List.mem_singleton] at hc
      rcases hc with hc | rfl
      · exact ih (n / 16) (by omega) hc
      · exact ⟨n % 16, Nat.mod_lt n (by decide), rfl⟩

theorem hexNumeral_length_le {n k : Nat} (hk : 0 < k) (hn : n < Nat.pow 16 k) :
    (hexNumeral n).length ≤ k := by
  rw [hexNumeral, List.length_map]
  exact (Nat.length_toDigits_le_iff (by decide) hk).mpr hn

/-! ### Runs of digits -/

/-- Reading digits one at a time: the value so far times sixteen, plus the next digit. -/
theorem hexDigitsValue?_append_singleton (cs : List Char) (c : Char) :
    hexDigitsValue? (cs ++ [c]) =
      (hexDigitsValue? cs).bind fun n => (hexValue? c).map fun d => 16 * n + d := by
  simp only [hexDigitsValue?, List.foldl_append, List.foldl_cons, List.foldl_nil]

theorem hexDigitsValue?_map_toUpper (cs : List Char) :
    hexDigitsValue? (cs.map Char.toUpper) = hexDigitsValue? cs := by
  simp only [hexDigitsValue?, List.foldl_map, hexValue?_toUpper]

theorem hexDigitsValue?_zeros_append (k : Nat) (cs : List Char) :
    hexDigitsValue? (List.replicate k '0' ++ cs) = hexDigitsValue? cs := by
  have hzeros : ∀ k, hexDigitsValue? (List.replicate k '0') = some 0 := by
    intro k
    induction k with
    | zero => rfl
    | succ k ih =>
      rw [List.replicate_succ', hexDigitsValue?_append_singleton, ih]
      rfl
  unfold hexDigitsValue?
  rw [List.foldl_append]
  exact congrArg (fun acc => cs.foldl _ acc) (hzeros k)

theorem hexDigitsValue?_hexNumeral (n : Nat) : hexDigitsValue? (hexNumeral n) = some n := by
  induction n using Nat.strongRecOn with
  | ind n ih =>
    by_cases hn : n < 16
    · rw [hexNumeral_of_lt hn, ← List.nil_append [_], hexDigitsValue?_append_singleton,
        hexValue?_toUpper, hexValue?_digitChar hn]
      simp [hexDigitsValue?]
    · have hsplit : n = 16 * (n / 16) + n % 16 := (Nat.div_add_mod n 16).symm
      have hd : n % 16 < 16 := Nat.mod_lt n (by decide)
      rw [hsplit, hexNumeral_push (by omega) hd, hexDigitsValue?_append_singleton,
        ih (n / 16) (by omega), hexValue?_toUpper, hexValue?_digitChar hd]
      rfl

/-- A run of digits that reads as `n` is, in upper case, zeros followed by the numeral of
`n`. -/
theorem spelling_of_hexDigitsValue? {cs : List Char} (hcs : cs ≠ []) {n : Nat}
    (h : hexDigitsValue? cs = some n) :
    ∃ k, cs.map Char.toUpper = List.replicate k '0' ++ hexNumeral n := by
  induction cs using List.reverseRecOn generalizing n with
  | nil => exact absurd rfl hcs
  | append_singleton cs c ih =>
    rw [hexDigitsValue?_append_singleton] at h
    obtain ⟨m, hm, hmd⟩ := Option.bind_eq_some_iff.mp h
    obtain ⟨d, hd, rfl⟩ := Option.map_eq_some_iff.mp hmd
    obtain ⟨hd16, hcu⟩ := (hexValue?_eq_some_iff c d).mp hd
    rw [List.map_append, List.map_singleton, hcu]
    by_cases hnil : cs = []
    · subst hnil
      cases hm
      exact ⟨0, by rw [Nat.mul_zero, Nat.zero_add, hexNumeral_of_lt hd16]; rfl⟩
    · obtain ⟨k, hk⟩ := ih hnil hm
      rw [hk]
      by_cases hm0 : m = 0
      · -- a leading zero so far: the zeros grow by one
        subst hm0
        refine ⟨k + 1, ?_⟩
        rw [Nat.mul_zero, Nat.zero_add, hexNumeral_of_lt hd16,
          hexNumeral_of_lt (show 0 < 16 by decide), List.replicate_succ']
        rfl
      · exact ⟨k, by rw [hexNumeral_push (Nat.pos_of_ne_zero hm0) hd16, List.append_assoc]⟩

/-- A non-empty run of characters reads as `n` exactly when, in upper case, it is zeros
followed by the numeral of `n`. -/
theorem hexDigitsValue?_eq_some_iff {cs : List Char} (hcs : cs ≠ []) {n : Nat} :
    hexDigitsValue? cs = some n ↔
      ∃ k, cs.map Char.toUpper = List.replicate k '0' ++ hexNumeral n := by
  refine ⟨spelling_of_hexDigitsValue? hcs, fun ⟨k, hk⟩ => ?_⟩
  rw [← hexDigitsValue?_map_toUpper, hk, hexDigitsValue?_zeros_append, hexDigitsValue?_hexNumeral]

/-- Every character of a spelling is, in upper case, an upper-case digit. -/
theorem toUpper_of_spelling {cs : List Char} {k n : Nat}
    (h : cs.map Char.toUpper = List.replicate k '0' ++ hexNumeral n) {c : Char} (hc : c ∈ cs) :
    ∃ d < 16, c.toUpper = (Nat.digitChar d).toUpper := by
  have hmem : c.toUpper ∈ List.replicate k '0' ++ hexNumeral n := h ▸ List.mem_map_of_mem hc
  rcases List.mem_append.mp hmem with hz | hnum
  · exact ⟨0, by decide, (List.eq_of_mem_replicate hz).trans rfl⟩
  · exact mem_hexNumeral hnum

theorem spelling_ne_nil {cs : List Char} {k n : Nat}
    (h : cs.map Char.toUpper = List.replicate k '0' ++ hexNumeral n) : cs ≠ [] := by
  rintro rfl
  exact hexNumeral_ne_nil n (List.append_eq_nil_iff.mp h.symm).2

/-! ### Reading an unsigned 32-bit number -/

theorem readHex32?_plus (rest : List Char) : readHex32? ('+' :: rest) =
    if rest = [] then none
    else (hexDigitsValue? rest).bind fun n => if n < Nat.pow 2 32 then some n else none := by
  simp only [readHex32?, List.isEmpty_iff]
  split
  · rfl
  · cases hexDigitsValue? rest <;> rfl

theorem readHex32?_unsigned {cs : List Char} (h : ∀ rest, cs ≠ '+' :: rest) : readHex32? cs =
    if cs = [] then none
    else (hexDigitsValue? cs).bind fun n => if n < Nat.pow 2 32 then some n else none := by
  unfold readHex32?
  split
  · exact absurd rfl (h _)
  · simp only [List.isEmpty_iff]
    split
    · rfl
    · cases hexDigitsValue? cs <;> rfl

theorem digits32_eq_some_iff {ds : List Char} {v : Nat} :
    (if ds = [] then none
      else (hexDigitsValue? ds).bind fun n => if n < Nat.pow 2 32 then some n else none) = some v ↔
      v < Nat.pow 2 32 ∧ ∃ k, ds.map Char.toUpper = List.replicate k '0' ++ hexNumeral v := by
  constructor
  · intro h
    split_ifs at h with hds
    obtain ⟨w, hw, hlt⟩ := Option.bind_eq_some_iff.mp h
    split_ifs at hlt with hw32
    cases hlt
    exact ⟨hw32, spelling_of_hexDigitsValue? hds hw⟩
  · rintro ⟨hv, k, hk⟩
    have hds := spelling_ne_nil hk
    rw [if_neg hds, (hexDigitsValue?_eq_some_iff hds).mpr ⟨k, hk⟩, Option.bind_some, if_pos hv]

/-- A sign is no digit, so a spelling never starts with `+`. -/
theorem spelling_ne_plus {ds rest : List Char} {k n : Nat}
    (h : ds.map Char.toUpper = List.replicate k '0' ++ hexNumeral n) : ds ≠ '+' :: rest := by
  rintro rfl
  obtain ⟨d, hd, hplus⟩ := toUpper_of_spelling h List.mem_cons_self
  exact (upperDigit_facts d hd).2.1 hplus.symm

theorem readHex32?_eq_some_iff {cs : List Char} {v : Nat} :
    readHex32? cs = some v ↔ v < Nat.pow 2 32 ∧ ∃ sign ds k, cs = sign ++ ds ∧
      (sign = [] ∨ sign = ['+']) ∧ ds.map Char.toUpper = List.replicate k '0' ++ hexNumeral v := by
  by_cases hplus : ∃ rest, cs = '+' :: rest
  · obtain ⟨rest, rfl⟩ := hplus
    rw [readHex32?_plus, digits32_eq_some_iff]
    constructor
    · rintro ⟨hv, k, hk⟩
      exact ⟨hv, ['+'], rest, k, rfl, .inr rfl, hk⟩
    · rintro ⟨hv, sign, ds, k, hcs, hsign | hsign, hk⟩
      · subst hsign
        exact absurd hcs.symm (spelling_ne_plus hk)
      · subst hsign
        cases hcs
        exact ⟨hv, k, hk⟩
  · have hunsigned : ∀ rest, cs ≠ '+' :: rest := fun rest h => hplus ⟨rest, h⟩
    rw [readHex32?_unsigned hunsigned, digits32_eq_some_iff]
    constructor
    · rintro ⟨hv, k, hk⟩
      exact ⟨hv, [], cs, k, rfl, .inl rfl, hk⟩
    · rintro ⟨hv, sign, ds, k, rfl, hsign | hsign, hk⟩
      · subst hsign
        exact ⟨hv, k, hk⟩
      · subst hsign
        exact absurd ⟨ds, rfl⟩ hplus

/-! ### Reading a frame identifier -/

theorem readHex32?_guarded (ds : List Char) :
    (if ds.isEmpty = true then none else (readHex32? ds).map Nat.toUInt32) =
      (readHex32? ds).map Nat.toUInt32 := by
  split
  · rename_i h
    rw [List.isEmpty_iff.mp h]
    rfl
  · rfl

theorem parse?_of_hexPrefix {s : String} {rest : List Char}
    (h : Text.trimChars s.toList = '0' :: 'x' :: rest ∨
      Text.trimChars s.toList = '0' :: 'X' :: rest) :
    FrameId.parse? s = (readHex32? rest).map Nat.toUInt32 := by
  unfold FrameId.parse?
  dsimp only
  rcases h with h | h <;> rw [h] <;> exact readHex32?_guarded rest

theorem parse?_of_no_hexPrefix {s : String}
    (h : ∀ rest, Text.trimChars s.toList ≠ '0' :: 'x' :: rest ∧
      Text.trimChars s.toList ≠ '0' :: 'X' :: rest) :
    FrameId.parse? s = (readHex32? (Text.trimChars s.toList)).map Nat.toUInt32 := by
  unfold FrameId.parse?
  dsimp only
  split
  · exact absurd ‹_› (h _).1
  · exact absurd ‹_› (h _).2
  · exact readHex32?_guarded _

/-- `s` spells the identifier `n`: within blanks, an optional `0x` or `0X`, an optional `+`,
then digits of either case that, in upper case, are zeros followed by the numeral of `n`. -/
def FrameId.Spells (s : String) (n : FrameId) : Prop :=
  ∃ pre sign digits zeros, Text.trimChars s.toList = pre ++ sign ++ digits ∧
    (pre = [] ∨ pre = ['0', 'x'] ∨ pre = ['0', 'X']) ∧ (sign = [] ∨ sign = ['+']) ∧
    digits.map Char.toUpper = List.replicate zeros '0' ++ hexNumeral n.toNat

/-- A signed spelling never starts with `0x` or `0X`: the `x` is no digit. -/
theorem signed_spelling_no_hexPrefix {sign ds : List Char} {k n : Nat} (hsign : sign = [] ∨ sign = ['+'])
    (hk : ds.map Char.toUpper = List.replicate k '0' ++ hexNumeral n) (rest : List Char) :
    sign ++ ds ≠ '0' :: 'x' :: rest ∧ sign ++ ds ≠ '0' :: 'X' :: rest := by
  rcases hsign with rfl | rfl
  · have hx : ∀ x : Char, x.toUpper = 'X' → ds ≠ '0' :: x :: rest := by
      rintro x hxX rfl
      obtain ⟨d, hd, hdx⟩ := toUpper_of_spelling hk (List.mem_cons_of_mem _ List.mem_cons_self)
      exact (upperDigit_facts d hd).2.2.1 (hdx ▸ hxX)
    exact ⟨hx 'x' rfl, hx 'X' rfl⟩
  · simp

theorem toNat_toUInt32 {v : Nat} (hv : v < Nat.pow 2 32) : v.toUInt32.toNat = v := by
  simp only [Nat.toUInt32]
  exact Nat.mod_eq_of_lt hv

/-- Reading accepts exactly the spellings of an identifier. -/
theorem parse?_eq_some_iff (s : String) (n : FrameId) :
    FrameId.parse? s = some n ↔ FrameId.Spells s n := by
  have hn : n.toNat < Nat.pow 2 32 := n.toNat_lt
  by_cases hpre : ∃ rest, Text.trimChars s.toList = '0' :: 'x' :: rest ∨
      Text.trimChars s.toList = '0' :: 'X' :: rest
  · obtain ⟨rest, hrest⟩ := hpre
    rw [parse?_of_hexPrefix hrest, Option.map_eq_some_iff]
    constructor
    · rintro ⟨v, hv, hvn⟩
      obtain ⟨hv32, sign, ds, k, rfl, hsign, hk⟩ := readHex32?_eq_some_iff.mp hv
      rw [← toNat_toUInt32 hv32, hvn] at hk
      rcases hrest with hrest | hrest
      · exact ⟨['0', 'x'], sign, ds, k, by rw [hrest]; rfl, .inr (.inl rfl), hsign, hk⟩
      · exact ⟨['0', 'X'], sign, ds, k, by rw [hrest]; rfl, .inr (.inr rfl), hsign, hk⟩
    · rintro ⟨pre, sign, ds, k, htrim, hpre, hsign, hk⟩
      refine ⟨n.toNat, readHex32?_eq_some_iff.mpr ⟨hn, sign, ds, k, ?_, hsign, hk⟩,
        UInt32.ofNat_toNat⟩
      -- the prefix read is the one spelled: a spelling without one has no `x` to strip
      rcases hpre with rfl | rfl | rfl
      · have := signed_spelling_no_hexPrefix hsign hk rest
        rw [List.nil_append] at htrim
        rcases hrest with h | h
        · exact absurd (htrim.symm.trans h) this.1
        · exact absurd (htrim.symm.trans h) this.2
      -- a spelled prefix is the one stripped; the other case letter cannot stand there
      · rcases hrest with h | h
        · simpa [h] using htrim
        · simp [h] at htrim
      · rcases hrest with h | h
        · simp [h] at htrim
        · simpa [h] using htrim
  · have hno : ∀ rest, Text.trimChars s.toList ≠ '0' :: 'x' :: rest ∧
        Text.trimChars s.toList ≠ '0' :: 'X' :: rest :=
      fun rest => ⟨fun h => hpre ⟨rest, .inl h⟩, fun h => hpre ⟨rest, .inr h⟩⟩
    rw [parse?_of_no_hexPrefix hno, Option.map_eq_some_iff]
    constructor
    · rintro ⟨v, hv, hvn⟩
      obtain ⟨hv32, sign, ds, k, htrim, hsign, hk⟩ := readHex32?_eq_some_iff.mp hv
      rw [← toNat_toUInt32 hv32, hvn] at hk
      exact ⟨[], sign, ds, k, htrim, .inl rfl, hsign, hk⟩
    · rintro ⟨pre, sign, ds, k, htrim, hpre, hsign, hk⟩
      refine ⟨n.toNat, readHex32?_eq_some_iff.mpr ⟨hn, sign, ds, k, ?_, hsign, hk⟩,
        UInt32.ofNat_toNat⟩
      rcases hpre with rfl | rfl | rfl
      · exact htrim
      · exact absurd htrim (hno _).1
      · exact absurd htrim (hno _).2

example : FrameId.parse? " 0X+00360 " = some 0x360 ∧ FrameId.parse? "0x0x360" = none := by
  decide

theorem read_eq_ok_iff (s : String) (n : FrameId) :
    FrameId.read s = .ok n ↔ FrameId.parse? s = some n := by
  unfold FrameId.read
  cases FrameId.parse? s <;> simp

theorem read_eq_error {s : String} (h : ∀ n, FrameId.parse? s ≠ some n) :
    FrameId.read s = .error (.invalidFrameId s) := by
  unfold FrameId.read
  cases hs : FrameId.parse? s with
  | none => rfl
  | some n => exact absurd hs (h n)

/-! ### Writing a frame identifier -/

theorem Text.trimChars_eq_self {cs : List Char} (h : ∀ c ∈ cs, Text.isBlank c = false) :
    Text.trimChars cs = cs := by
  have hfront : ∀ l : List Char, (∀ c ∈ l, Text.isBlank c = false) →
      l.dropWhile Text.isBlank = l := by
    intro l hl
    cases l with
    | nil => rfl
    | cons c l => exact List.dropWhile_cons_of_neg (by simp [hl c List.mem_cons_self])
  unfold Text.trimChars
  rw [hfront cs h, hfront cs.reverse (fun c hc => h c (List.mem_reverse.mp hc)), List.reverse_reverse]

theorem hexNumeral_map_toUpper (n : Nat) : (hexNumeral n).map Char.toUpper = hexNumeral n := by
  simp only [hexNumeral, List.map_map, Function.comp_def, toUpper_toUpper]

/-- The width `format` pads to holds the numeral: three digits up to `0x7FF`, eight above. -/
theorem hexNumeral_length_le_width (n : FrameId) :
    (hexNumeral n.toNat).length ≤ if n.toNat ≤ 0x7FF then 3 else 8 := by
  split
  · exact hexNumeral_length_le (by decide) (show n.toNat < 4096 by omega)
  · exact hexNumeral_length_le (by decide) (show n.toNat < 4294967296 from n.toNat_lt)

theorem format_toList (n : FrameId) : (FrameId.format n).toList = '0' :: 'x' ::
    (List.replicate ((if n.toNat ≤ 0x7FF then 3 else 8) - (hexNumeral n.toNat).length) '0' ++
      hexNumeral n.toNat) := by
  simp [FrameId.format, FrameId.hexPadded, hexNumeral]

/-- Every digit `format` writes is an upper-case hex digit, and none is a blank. -/
theorem format_digit {n : FrameId} {c : Char}
    (hc : c ∈ List.replicate ((if n.toNat ≤ 0x7FF then 3 else 8) - (hexNumeral n.toNat).length) '0' ++
      hexNumeral n.toNat) :
    (c.isHexDigit ∧ c.isLower = false) ∧ Text.isBlank c = false := by
  obtain ⟨d, hd, rfl⟩ : ∃ d < 16, c = (Nat.digitChar d).toUpper := by
    rcases List.mem_append.mp hc with hz | hnum
    · exact ⟨0, by decide, List.eq_of_mem_replicate hz⟩
    · exact mem_hexNumeral hnum
  have facts := upperDigit_facts d hd
  exact ⟨facts.1, facts.2.2.2⟩

theorem format_spells (n : FrameId) : FrameId.Spells (FrameId.format n) n := by
  refine ⟨['0', 'x'], [], List.replicate ((if n.toNat ≤ 0x7FF then 3 else 8) -
    (hexNumeral n.toNat).length) '0' ++ hexNumeral n.toNat, (if n.toNat ≤ 0x7FF then 3 else 8) -
    (hexNumeral n.toNat).length, ?_, .inr (.inl rfl), .inl rfl, ?_⟩
  · rw [Text.trimChars_eq_self, format_toList]
    · rfl
    rw [format_toList]
    intro c hc
    rcases List.mem_cons.mp hc with rfl | hc
    · rfl
    rcases List.mem_cons.mp hc with rfl | hc
    · rfl
    exact (format_digit hc).2
  · rw [List.map_append, List.map_replicate, hexNumeral_map_toUpper]
    rfl

theorem parse?_format (n : FrameId) : FrameId.parse? (FrameId.format n) = some n :=
  (parse?_eq_some_iff _ n).mpr (format_spells n)

/-- Frame identifiers as text: writing gives `0x` and exactly three upper-case hex digits up
to `0x7FF`, eight above, and reads back as the identifier written, so no two identifiers are
written alike; reading accepts exactly the spellings of an identifier, and refuses any
other text with an error naming that text as given. -/
theorem FrameId.format_roundtrip_and_read_grammar :
    (∀ n : FrameId, FrameId.read (FrameId.format n) = .ok n ∧
      ∃ digits, (FrameId.format n).toList = '0' :: 'x' :: digits ∧
        digits.length = (if n.toNat ≤ 0x7FF then 3 else 8) ∧
        ∀ c ∈ digits, c.isHexDigit ∧ c.isLower = false) ∧
    Function.Injective FrameId.format ∧
    ∀ s : String, (∀ n, FrameId.read s = .ok n ↔ FrameId.Spells s n) ∧
      ((∀ n, ¬ FrameId.Spells s n) → FrameId.read s = .error (.invalidFrameId s)) := by
  refine ⟨fun n => ⟨(read_eq_ok_iff _ n).mpr (parse?_format n), _, format_toList n, ?_,
    fun c hc => (format_digit hc).1⟩, fun a b hab => ?_, fun s => ⟨fun n => ?_, fun hs => ?_⟩⟩
  · rw [List.length_append, List.length_replicate]
    have := hexNumeral_length_le_width n
    omega
  · exact Option.some.inj ((parse?_format a).symm.trans (hab ▸ parse?_format b))
  · rw [read_eq_ok_iff, parse?_eq_some_iff]
  · exact read_eq_error fun n hn => hs n ((parse?_eq_some_iff s n).mp hn)

end CanDecoder
