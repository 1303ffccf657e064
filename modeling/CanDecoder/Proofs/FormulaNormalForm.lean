import CanDecoder.Proofs.FrameDecode
import CanDecoder.Proofs.LogLayouts
import CanDecoder.Proofs.LowerCase

/-! Formulas in normal form. A formula is classified by its normal form: its words joined by
single spaces, then lowercased. Since lowercasing stops at a space, the normal form is the
formula's words, each lowercased, joined by single spaces; so the class of a formula depends
only on its lowercased words, and blanks of any kind or number around or between the words,
and letter case as far as lowercasing forgets it, never change it. Lowercasing is idempotent
and makes no blank, so the words of a normal form are its own words: a normal form is its own
normal form and is classified as the formula it came from. Only a unit of exactly `K` selects
the kelvin conversion, and no formula does. -/

namespace CanDecoder

namespace Text

/-! ### Words -/

/-- A word of no blanks continues the word being read. -/
theorem wordsFrom_append_word (cur : List Char) {w : List Char} (hw : ∀ c ∈ w, isBlank c = false)
    (rest : List Char) : wordsFrom cur (w ++ rest) = wordsFrom (w.reverse ++ cur) rest := by
  induction w generalizing cur with
  | nil => rfl
  | cons c w ih =>
    rw [List.cons_append, wordsFrom, if_neg (by simp [hw c List.mem_cons_self]),
      ih _ fun x hx => hw x (List.mem_cons_of_mem c hx)]
    simp

/-- A word read off a text is never empty. -/
theorem ne_nil_of_mem_wordsFrom {cur cs w : List Char} (hw : w ∈ wordsFrom cur cs) : w ≠ [] := by
  induction cs generalizing cur with
  | nil =>
    unfold wordsFrom at hw
    split at hw
    · simp at hw
    · rename_i hcur
      rw [List.mem_singleton] at hw
      subst hw
      simpa using hcur
  | cons c cs ih =>
    unfold wordsFrom at hw
    split at hw
    · split at hw
      · exact ih hw
      · rename_i hcur
        rcases List.mem_cons.mp hw with rfl | hw
        · simpa using hcur
        · exact ih hw
    · exact ih hw

/-- Every word of a text is nonempty and free of blanks. -/
theorem mem_wordsOf {cs w : List Char} (hw : w ∈ wordsOf cs) :
    w ≠ [] ∧ ∀ c ∈ w, isBlank c = false :=
  ⟨ne_nil_of_mem_wordsFrom hw, fun _ hc => not_blank_of_mem_wordsOf hw hc⟩

/-- Nonempty words of no blanks joined by spaces are read back as those words. -/
theorem wordsOf_intercalate_space {ws : List (List Char)}
    (h : ∀ w ∈ ws, w ≠ [] ∧ ∀ c ∈ w, isBlank c = false) : wordsOf ([' '].intercalate ws) = ws := by
  induction ws with
  | nil => rfl
  | cons w ws ih =>
    obtain ⟨hne, hw⟩ := h w List.mem_cons_self
    cases ws with
    | nil =>
      rw [List.intercalate_singleton, wordsOf, ← List.append_nil w, wordsFrom_append_word [] hw,
        wordsFrom, if_neg (by simpa using hne)]
      simp
    | cons v vs =>
      rw [List.intercalate_cons_cons, List.append_assoc, List.singleton_append, wordsOf,
        wordsFrom_append_word [] hw, wordsFrom, if_pos (by decide), if_neg (by simpa using hne),
        ← wordsOf, ih fun x hx => h x (List.mem_cons_of_mem w hx)]
      simp

end Text

namespace Conversion

/-- The normal form of a formula is its words, each lowercased, joined by single spaces. -/
theorem normalize_eq (formula : String) :
    normalize formula =
      [' '].intercalate ((Text.wordsOf formula.toList).map Text.lowerChars) := by
  rw [normalize, show " ".toList = [' '] from rfl, Text.lowerChars_intercalate_space]

/-- A normal form is its own normal form. -/
theorem normalize_normalize (formula : String) :
    normalize (String.ofList (normalize formula)) = normalize formula := by
  -- the words of the normal form are the lowercased words of the formula
  have hwords : Text.wordsOf (normalize formula) =
      (Text.wordsOf formula.toList).map Text.lowerChars := by
    rw [normalize_eq]
    refine Text.wordsOf_intercalate_space fun w hw => ?_
    obtain ⟨v, hv, rfl⟩ := List.mem_map.mp hw
    obtain ⟨hne, hblank⟩ := Text.mem_wordsOf hv
    exact ⟨Text.lowerChars_ne_nil hne, Text.lowerChars_not_blank hblank⟩
  rw [normalize_eq (String.ofList _), String.toList_ofList, hwords, List.map_map, normalize_eq]
  simp only [Function.comp_def, Text.lowerChars_lowerChars]

/-- The lowercased words of a text, as character lists. -/
theorem lower_words_toList (s : String) :
    ((Text.words s).map Text.lower).map String.toList =
      (Text.wordsOf s.toList).map Text.lowerChars := by
  simp [Text.words, Text.lower, Function.comp_def]

/-- A unit of exactly `K` selects the kelvin conversion and no formula does; a formula's class
depends only on its words, each lowercased, and the words of a formula joined by single spaces
and lowercased are classified as the formula. -/
theorem resolve_classification_laws (units f g : String) :
    (resolve units f = .kelvinToCelsius ↔ units = "K") ∧
    ofFormula f ≠ .kelvinToCelsius ∧
    ((Text.words f).map Text.lower = (Text.words g).map Text.lower → ofFormula f = ofFormula g) ∧
    ofFormula (Text.lower (" ".intercalate (Text.words f))) = ofFormula f := by
  refine ⟨resolve_eq_kelvinToCelsius_iff units f, ofFormula_ne_kelvinToCelsius f, fun h => ?_, ?_⟩
  · rw [ofFormula, ofFormula, normalize_eq, normalize_eq, ← lower_words_toList,
      ← lower_words_toList, h]
  · -- the joined lowercased words are the normal form itself
    have hnormal : Text.lower (" ".intercalate (Text.words f)) = String.ofList (normalize f) := by
      simp [Text.lower, Text.words, normalize, Function.comp_def]
    rw [hnormal, ofFormula, ofFormula, normalize_normalize]

/-- Other blanks, more of them, and capitals leave the class of `x / 10` alone. -/
theorem spaced_capital_formula_same_class :
    (Text.words "  X \u3000/  10 ").map Text.lower = (Text.words "x / 10").map Text.lower ∧
      ofFormula "  X \u3000/  10 " = ofFormula "x / 10" := by
  have h : (Text.words "  X \u3000/  10 ").map Text.lower = (Text.words "x / 10").map Text.lower := by
    decide
  exact ⟨h, (resolve_classification_laws "" _ _).2.2.1 h⟩

end Conversion

end CanDecoder
