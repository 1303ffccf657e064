import CanDecoder.Log.Report
import Mathlib.Data.List.Basic

/-! Reading the bytes of a log line by line. A byte below 128 in the UTF-8 form of a
character is the whole form, and the character's code: so the bytes of a text split at line
feeds exactly where its characters do, a carriage return ends a piece of bytes exactly when
it ends the line of characters, and each piece is the UTF-8 form of its line. Reading a
UTF-8 text line by line therefore never fails and gives the lines of the text. -/

namespace CanDecoder

theorem ByteArray.toList_loop_eq (bs : ByteArray) (i : Nat) (r : List UInt8) :
    ByteArray.toList.loop bs i r = r.reverse ++ bs.data.toList.drop i := by
  fun_induction ByteArray.toList.loop bs i r with
  | case1 i r h ih =>
    have hi : i < bs.data.toList.length := by simpa using h
    rw [ih, List.drop_eq_getElem_cons hi]
    simp [ByteArray.get!, h]
  | case2 i r h =>
    rw [List.drop_eq_nil_of_le (by simpa using Nat.le_of_not_lt h)]
    simp

theorem ByteArray.toList_toByteArray (l : List UInt8) : l.toByteArray.toList = l := by
  simp [ByteArray.toList, ByteArray.toList_loop_eq]

/-- The UTF-8 bytes of a text are those of its characters in turn. -/
theorem toUTF8_toList (s : String) :
    s.toUTF8.toList = s.toList.flatMap String.utf8EncodeChar := by
  rw [String.toUTF8, ← String.ofList_toList (s := s), String.toByteArray_ofList, List.utf8Encode,
    ByteArray.toList_toByteArray, String.toList_ofList]

/-- A byte below 128 in the UTF-8 form of a character is the whole form, and the
character's code. -/
theorem utf8EncodeChar_of_ascii {c : Char} {b : UInt8} (hb : b ∈ String.utf8EncodeChar c)
    (hlt : b.toNat < 128) : String.utf8EncodeChar c = [b] ∧ c.toNat = b.toNat := by
  unfold String.utf8EncodeChar at hb ⊢
  dsimp only at hb ⊢
  split_ifs at hb ⊢
  · simp only [List.mem_singleton] at hb
    subst hb
    refine ⟨rfl, ?_⟩
    have : (UInt8.ofNat c.val.toNat).toNat = c.val.toNat % 256 := by simp
    rw [Char.toNat, this]
    omega
  -- every byte of a longer form is at least 128
  · simp only [List.mem_cons, List.not_mem_nil, or_false] at hb
    rcases hb with rfl | rfl <;> simp [UInt8.toNat_ofNat] at hlt <;> omega
  · simp only [List.mem_cons, List.not_mem_nil, or_false] at hb
    rcases hb with rfl | rfl | rfl <;> simp [UInt8.toNat_ofNat] at hlt <;> omega
  · simp only [List.mem_cons, List.not_mem_nil, or_false] at hb
    rcases hb with rfl | rfl | rfl | rfl <;> simp [UInt8.toNat_ofNat] at hlt <;> omega

theorem utf8EncodeChar_newline : String.utf8EncodeChar '\n' = [10] := by decide

theorem utf8EncodeChar_return : String.utf8EncodeChar '\r' = [13] := by decide

theorem newline_not_mem_utf8EncodeChar {c : Char} (hc : c ≠ '\n') :
    (10 : UInt8) ∉ String.utf8EncodeChar c := fun h => by
  obtain ⟨-, hcode⟩ := utf8EncodeChar_of_ascii h (by decide)
  exact hc (Char.toNat_inj.mp hcode)

/-- The UTF-8 form of a character ends in a carriage return exactly when the character
is one. -/
theorem utf8EncodeChar_reverse_head {c : Char} :
    (String.utf8EncodeChar c).reverse.head? = some 13 ↔ c = '\r' := by
  constructor
  · intro h
    have hmem : (13 : UInt8) ∈ String.utf8EncodeChar c :=
      List.mem_reverse.mp (List.mem_of_mem_head? h)
    exact Char.toNat_inj.mp (utf8EncodeChar_of_ascii hmem (by decide)).2
  · rintro rfl
    rw [utf8EncodeChar_return]
    rfl

namespace Log

variable {α : Type} [DecidableEq α] {newline carriageReturn : α}

/-- The line a line feed ends, from the items read so far, newest first: less a carriage
return just before the line feed. -/
def lineEnd (carriageReturn : α) : List α → List α
  | y :: ys => if y = carriageReturn then ys else y :: ys
  | [] => []

theorem splitLinesFrom_cons (cur : List α) (x : α) (xs : List α) :
    splitLinesFrom newline carriageReturn cur (x :: xs) =
      if x = newline then
        (lineEnd carriageReturn cur).reverse :: splitLinesFrom newline carriageReturn [] xs
      else splitLinesFrom newline carriageReturn (x :: cur) xs := by
  cases cur <;> rfl

/-- A run of items without a line end joins the current line. -/
theorem splitLinesFrom_append {cur xs rest : List α} (h : ∀ x ∈ xs, x ≠ newline) :
    splitLinesFrom newline carriageReturn cur (xs ++ rest) =
      splitLinesFrom newline carriageReturn (xs.reverse ++ cur) rest := by
  induction xs generalizing cur with
  | nil => rfl
  | cons x xs ih =>
    rw [List.cons_append, splitLinesFrom_cons, if_neg (h x List.mem_cons_self),
      ih fun y hy => h y (List.mem_cons_of_mem x hy)]
    simp

/-- The UTF-8 bytes of characters split into the UTF-8 bytes of their lines; `cur`, the
current line reversed, is carried as its bytes reversed. -/
theorem splitLinesFrom_utf8 (cur xs : List Char) :
    splitLinesFrom 10 13 (cur.reverse.flatMap String.utf8EncodeChar).reverse
        (xs.flatMap String.utf8EncodeChar) =
      (splitLinesFrom '\n' '\r' cur xs).map (·.flatMap String.utf8EncodeChar) := by
  induction xs generalizing cur with
  | nil =>
    cases cur with
    | nil => rfl
    | cons c cs =>
      simp [splitLinesFrom, String.utf8EncodeChar_ne_nil]
  | cons x xs ih =>
    rw [List.flatMap_cons]
    by_cases hx : x = '\n'
    · subst hx
      rw [utf8EncodeChar_newline, List.singleton_append, splitLinesFrom_cons, if_pos rfl,
        splitLinesFrom_cons, if_pos rfl, List.map_cons, ← ih []]
      congr 1
      -- the line's bytes end in a carriage return exactly when its characters do
      cases cur with
      | nil => rfl
      | cons c cs =>
        have hbytes : (((c :: cs).reverse.flatMap String.utf8EncodeChar).reverse) =
            (String.utf8EncodeChar c).reverse ++ (cs.reverse.flatMap String.utf8EncodeChar).reverse := by
          simp
        rw [hbytes]
        by_cases hc : c = '\r'
        · subst hc
          simp [utf8EncodeChar_return, lineEnd]
        · have hlast : (String.utf8EncodeChar c).reverse.head? ≠ some 13 :=
            fun h => hc (utf8EncodeChar_reverse_head.mp h)
          cases henc : (String.utf8EncodeChar c).reverse with
          | nil => exact absurd (List.reverse_eq_nil_iff.mp henc) String.utf8EncodeChar_ne_nil
          | cons y ys =>
            have hy : y ≠ 13 := fun hy => hlast (by rw [henc, hy]; rfl)
            have hform : String.utf8EncodeChar c = (y :: ys).reverse := by
              rw [← henc, List.reverse_reverse]
            simp [lineEnd, hy, hc, hform]
    · rw [splitLinesFrom_append fun b hb => by
          rintro rfl
          exact newline_not_mem_utf8EncodeChar hx hb,
        splitLinesFrom_cons, if_neg hx, ← ih (x :: cur)]
      simp

/-- The UTF-8 bytes of characters read back as the text of those characters. -/
theorem fromUTF8?_flatMap (l : List Char) :
    String.fromUTF8? ⟨(l.flatMap String.utf8EncodeChar).toArray⟩ = some (String.ofList l) := by
  have hbytes : (⟨(l.flatMap String.utf8EncodeChar).toArray⟩ : ByteArray) = l.utf8Encode := by
    rw [List.utf8Encode]
    exact ByteArray.ext List.data_toByteArray.symm
  rw [hbytes, String.fromUTF8?, dif_pos ByteArray.isValidUTF8_utf8Encode, Option.some.injEq]
  exact String.toByteArray_inj.mp String.toByteArray_ofList.symm

/-- Numbered lines of bytes, each read back as the text it encodes. -/
theorem mapM_zipIdx_utf8 {f : List UInt8 × Nat → Except Failure String}
    (hf : ∀ l k, f (l.flatMap String.utf8EncodeChar, k) = .ok (String.ofList l))
    (lines : List (List Char)) (n : Nat) :
    ((lines.map (·.flatMap String.utf8EncodeChar)).zipIdx n).mapM f =
      .ok (lines.map String.ofList) := by
  induction lines generalizing n with
  | nil => rfl
  | cons l ls ih =>
    simp only [List.map_cons, List.zipIdx_cons, List.mapM_cons, hf, ih]
    rfl

/-- Reading the UTF-8 bytes of a text line by line never fails and gives the lines of the
text. -/
theorem byteLines_toUTF8 (s : String) : byteLines s.toUTF8.toList = .ok (textLines s) := by
  have hsplit := splitLinesFrom_utf8 [] s.toList
  simp only [List.reverse_nil, List.flatMap_nil] at hsplit
  rw [byteLines, toUTF8_toList, hsplit]
  exact mapM_zipIdx_utf8 (fun l k => by simp only [fromUTF8?_flatMap]) _ 1

end Log

end CanDecoder
