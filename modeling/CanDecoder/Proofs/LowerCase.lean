import CanDecoder.Text.Blank
import CanDecoder.Text.Lower

/-! Laws of the lowercase mapping. Every character that lowercasing writes is in its final
form: it lowercases to itself, and it is a blank only when it is the character it came from.
The lowercase runs bear this out target by target: each target lowercases to itself and
falls outside the blank ranges. Hence lowercasing a text is idempotent, and it keeps the
blanks of the text where they were and adds none. The final-sigma rule, the one rule that
looks at neighbours, looks past case-ignorable characters only, so it stops at a character
that is neither cased nor case-ignorable, such as a space: lowercasing words joined by
spaces joins the lowercased words. -/

namespace CanDecoder

namespace Text

/-! ### Range tables -/

namespace RangeTable

/-- A hit of the halving search lies in a range of the table. -/
theorem searchIn_true {t : RangeTable} {n : Nat} :
    ∀ {fuel lo hi : Nat}, t.searchIn n fuel lo hi = true → ∃ q ∈ t.toList, q.1 ≤ n ∧ n ≤ q.2
  | 0, _, _, h => nomatch h
  | fuel + 1, lo, hi, h => by
    rw [searchIn] at h
    split at h
    case isFalse => cases h
    case isTrue =>
      dsimp only at h
      split at h
      case h_2 => cases h
      case h_1 a b hmid =>
        split at h
        case isTrue => exact searchIn_true h
        case isFalse hna =>
          split at h
          case isTrue => exact searchIn_true h
          case isFalse hbn =>
            exact ⟨(a, b), Array.mem_toList_iff.mpr (Array.mem_of_getElem? hmid),
              by dsimp only; omega, by dsimp only; omega⟩

/-- A number outside every range of a table is not in it. -/
theorem contains_eq_false {t : RangeTable} {n : Nat} (h : ∀ q ∈ t.toList, n < q.1 ∨ q.2 < n) :
    t.contains n = false := by
  cases hc : t.contains n with
  | false => rfl
  | true =>
    obtain ⟨q, hq, hlo, hhi⟩ := searchIn_true hc
    have := h q hq
    omega

end RangeTable

/-! ### The lowercase runs -/

/-- A hit of the binary search over runs lies in a run, at a multiple of the run's step,
and maps to the run's target shifted alike. -/
theorem runSearch_some {runs : Array (Nat × Nat × Nat × Nat)} {n m : Nat} :
    ∀ {fuel lo hi : Nat}, runSearch runs n fuel lo hi = some m →
      ∃ r ∈ runs.toList, r.1 ≤ n ∧ n ≤ r.2.1 ∧ (n - r.1) % r.2.2.2 = 0 ∧ m = r.2.2.1 + (n - r.1)
  | 0, _, _, h => nomatch h
  | fuel + 1, lo, hi, h => by
    rw [runSearch] at h
    split at h
    case isFalse => cases h
    case isTrue =>
      dsimp only at h
      split at h
      case h_2 => cases h
      case h_1 a b t st hmid =>
        have hmem : (a, b, t, st) ∈ runs.toList :=
          Array.mem_toList_iff.mpr (Array.mem_of_getElem? hmid)
        split at h
        case isTrue => exact runSearch_some h
        case isFalse hna =>
          split at h
          case isTrue => exact runSearch_some h
          case isFalse hbn =>
            split at h
            case isTrue hmod =>
              cases h
              exact ⟨(a, b, t, st), hmem, by dsimp only; omega, by dsimp only; omega, hmod, rfl⟩
            case isFalse => cases h

/-- Every target of the lowercase runs lowercases to itself. -/
theorem lowerRuns_targets :
    ∀ r ∈ lowerRuns.toList, ∀ k ≤ (r.2.1 - r.1) / r.2.2.2,
      lowerChar (Char.ofNat (r.2.2.1 + k * r.2.2.2)) = [Char.ofNat (r.2.2.1 + k * r.2.2.2)] := by
  decide +kernel

/-- The targets of each lowercase run lie below or above every blank range. -/
theorem lowerRuns_targets_avoid_blanks :
    ∀ r ∈ lowerRuns.toList, ∀ q ∈ blankTable.toList,
      r.2.2.1 + (r.2.1 - r.1) < q.1 ∨ q.2 < r.2.2.1 := by
  decide +kernel

/-- What the lowercase runs map a character to lowercases to itself. -/
theorem lowerRuns_search_some {n fuel lo hi m : Nat} (h : runSearch lowerRuns n fuel lo hi = some m) :
    lowerChar (Char.ofNat m) = [Char.ofNat m] := by
  obtain ⟨⟨a, b, t, st⟩, hmem, hna, hnb, hmod, rfl⟩ := runSearch_some h
  dsimp only at hna hnb hmod ⊢
  -- the offset into the run is a whole number of steps, at most the run's last
  have hsteps : n - a = (n - a) / st * st := (Nat.div_mul_cancel (Nat.dvd_of_mod_eq_zero hmod)).symm
  have hk : (n - a) / st ≤ (b - a) / st := Nat.div_le_div_right (by omega)
  rw [hsteps]
  exact lowerRuns_targets _ hmem _ hk

/-- A code that is no character stands for the null character. -/
theorem toNat_ofNat_cases (n : Nat) : (Char.ofNat n).toNat = n ∨ (Char.ofNat n).toNat = 0 := by
  by_cases h : n.isValidChar
  · rw [Char.ofNat, dif_pos h]
    exact .inl rfl
  · rw [Char.ofNat, dif_neg h]
    exact .inr rfl

/-- What the lowercase runs map a character to is no blank. -/
theorem lowerRuns_search_not_blank {n fuel lo hi m : Nat}
    (h : runSearch lowerRuns n fuel lo hi = some m) : isBlank (Char.ofNat m) = false := by
  obtain ⟨⟨a, b, t, st⟩, hmem, -, hnb, -, rfl⟩ := runSearch_some h
  dsimp only at hnb
  unfold isBlank
  rcases toNat_ofNat_cases (t + (n - a)) with hnat | hnat <;> rw [hnat]
  · refine RangeTable.contains_eq_false fun q hq => ?_
    have havoid := lowerRuns_targets_avoid_blanks _ hmem q hq
    dsimp only at havoid
    omega
  · decide

/-! ### Lowercasing one character -/

-- stated with `List.all`: a bound `∀ d : Char` would be decided over every character
theorem ascii_lowerChar_fixed :
    ∀ n < 128, ((lowerChar (Char.ofNat n)).all fun d =>
      lowerChar d == [d] && (!isBlank d || d == Char.ofNat n)) = true := by
  decide

/-- Every character that lowercasing a character writes lowercases to itself, and it is a
blank only if it is that character. -/
theorem mem_lowerChar {c d : Char} (hd : d ∈ lowerChar c) :
    lowerChar d = [d] ∧ (isBlank d = true → d = c) := by
  by_cases hascii : c.toNat < 128
  · have hall := ascii_lowerChar_fixed c.toNat hascii
    rw [Char.ofNat_toNat, List.all_eq_true] at hall
    have hdd := hall d hd
    simp only [Bool.and_eq_true, beq_iff_eq, Bool.or_eq_true, Bool.not_eq_true'] at hdd
    exact ⟨hdd.1, fun hblank => hdd.2.resolve_left (by simp [hblank])⟩
  by_cases hdot : c = 'İ'
  · subst hdot
    have hlower : lowerChar 'İ' = ['i', '\u0307'] := by decide +kernel
    rw [hlower, List.mem_cons, List.mem_singleton] at hd
    rcases hd with rfl | rfl
    · exact ⟨by decide +kernel, fun h => absurd h (by decide)⟩
    · exact ⟨by decide +kernel, fun h => absurd h (by decide)⟩
  cases hsearch : runSearch lowerRuns c.toNat (lowerRuns.size.log2 + 2) 0 lowerRuns.size with
  | some m =>
    rw [lowerChar, if_neg hascii, if_neg hdot, hsearch, List.mem_singleton] at hd
    subst hd
    refine ⟨lowerRuns_search_some hsearch, fun h => ?_⟩
    rw [lowerRuns_search_not_blank hsearch] at h
    cases h
  | none =>
    have hlower : lowerChar c = [c] := by rw [lowerChar, if_neg hascii, if_neg hdot, hsearch]
    rw [hlower, List.mem_singleton] at hd
    subst hd
    exact ⟨hlower, fun _ => rfl⟩

theorem lowerChar_ne_nil (c : Char) : lowerChar c ≠ [] := by
  rw [lowerChar]
  split
  · simp
  · split
    · simp
    · split <;> simp

/-! ### Lowercasing text -/

/-- Every character of a lowercased text lowercases to itself, and it is a blank only if it
is a character of the text: the final-sigma rule writes `ς` or `σ`, both fixed and no
blanks. -/
theorem mem_lowerFrom {before cs : List Char} {d : Char} (hd : d ∈ lowerFrom before cs) :
    lowerChar d = [d] ∧ (isBlank d = true → d ∈ cs) := by
  induction cs generalizing before with
  | nil => simp [lowerFrom] at hd
  | cons c cs ih =>
    simp only [lowerFrom, List.mem_append] at hd
    rcases hd with hhere | hrest
    · split at hhere
      · have hsigma : d = 'ς' ∨ d = 'σ' := by split at hhere <;> simp_all
        rcases hsigma with rfl | rfl
        · exact ⟨by decide +kernel, fun h => absurd h (by decide)⟩
        · exact ⟨by decide +kernel, fun h => absurd h (by decide)⟩
      · obtain ⟨hfixed, hblank⟩ := mem_lowerChar hhere
        exact ⟨hfixed, fun h => hblank h ▸ List.mem_cons_self⟩
    · obtain ⟨hfixed, hblank⟩ := ih hrest
      exact ⟨hfixed, fun h => List.mem_cons_of_mem c (hblank h)⟩

/-- A text whose characters all lowercase to themselves is its own lowercase. -/
theorem lowerFrom_of_fixed (before : List Char) {cs : List Char}
    (h : ∀ d ∈ cs, lowerChar d = [d]) : lowerFrom before cs = cs := by
  induction cs generalizing before with
  | nil => rfl
  | cons d ds ih =>
    have hd := h d List.mem_cons_self
    -- a capital sigma lowercases to a small one, so it is not among them
    have hsigma : d ≠ 'Σ' := by
      rintro rfl
      exact absurd hd (by decide +kernel)
    simp only [lowerFrom, if_neg hsigma, hd, ih _ fun x hx => h x (List.mem_cons_of_mem d hx),
      List.singleton_append]

/-- Lowercasing is idempotent. -/
theorem lowerChars_lowerChars (cs : List Char) : lowerChars (lowerChars cs) = lowerChars cs :=
  lowerFrom_of_fixed [] fun _ hd => (mem_lowerFrom hd).1

theorem lowerChars_not_blank {cs : List Char} (h : ∀ c ∈ cs, isBlank c = false) :
    ∀ d ∈ lowerChars cs, isBlank d = false := by
  intro d hd
  cases hblank : isBlank d with
  | false => rfl
  | true =>
    -- a blank of the lowercased text is a character of the text, and it has none
    rw [h d ((mem_lowerFrom hd).2 hblank)] at hblank
    cases hblank

/-- The first character of a lowercased word: a capital sigma opens a word as `σ`. -/
theorem head?_lowerChars (c : Char) (cs : List Char) :
    (lowerChars (c :: cs)).head? = if c = 'Σ' then some 'σ' else (lowerChar c).head? := by
  unfold lowerChars
  rw [lowerFrom]
  split
  · have hnil : casedAfterIgnorable [] = false := rfl
    simp [hnil]
  · obtain ⟨d, ds, hd⟩ := List.exists_cons_of_ne_nil (lowerChar_ne_nil c)
    simp [hd]

theorem lowerChars_ne_nil {cs : List Char} (h : cs ≠ []) : lowerChars cs ≠ [] := by
  obtain ⟨c, cs, rfl⟩ := List.exists_cons_of_ne_nil h
  intro hnil
  have hhead := head?_lowerChars c cs
  rw [hnil, List.head?_nil] at hhead
  split at hhead
  · cases hhead
  · exact lowerChar_ne_nil c (List.head?_eq_none_iff.mp hhead.symm)

/-! ### A space stops the final-sigma rule -/

section Wall

variable {b : Char}

/-- Looking past case-ignorable characters stops at a character that is neither cased nor
case-ignorable. -/
theorem casedAfterIgnorable_append_cons (hignorable : isCaseIgnorable b = false)
    (hcased : isCased b = false) (xs ys : List Char) :
    casedAfterIgnorable (xs ++ b :: ys) = casedAfterIgnorable xs := by
  induction xs with
  | nil => simp [casedAfterIgnorable, hignorable, hcased]
  | cons x xs ih =>
    by_cases hx : isCaseIgnorable x = true
    · simpa [casedAfterIgnorable, hx] using ih
    · simp [casedAfterIgnorable, hx]

/-- What lies beyond such a character never matters to the characters after it. -/
theorem lowerFrom_wall (hignorable : isCaseIgnorable b = false) (hcased : isCased b = false)
    (before r ys : List Char) : lowerFrom (before ++ b :: r) ys = lowerFrom before ys := by
  induction ys generalizing before with
  | nil => rfl
  | cons y ys ih =>
    have hrest := ih (y :: before)
    rw [List.cons_append] at hrest
    simp only [lowerFrom, casedAfterIgnorable_append_cons hignorable hcased, hrest]

/-- Lowercasing a text split at such a character lowercases the two sides on their own. -/
theorem lowerFrom_append_wall (hignorable : isCaseIgnorable b = false)
    (hcased : isCased b = false) (hsigma : b ≠ 'Σ') (before xs ys : List Char) :
    lowerFrom before (xs ++ b :: ys) = lowerFrom before xs ++ lowerChar b ++ lowerChars ys := by
  induction xs generalizing before with
  | nil =>
    have hwall := lowerFrom_wall hignorable hcased [] before ys
    rw [List.nil_append] at hwall
    simp only [List.nil_append, lowerFrom, if_neg hsigma, hwall, lowerChars]
  | cons x xs ih =>
    simp only [List.cons_append, lowerFrom, casedAfterIgnorable_append_cons hignorable hcased, ih,
      List.append_assoc]

theorem lowerChars_append_wall (hignorable : isCaseIgnorable b = false)
    (hcased : isCased b = false) (hsigma : b ≠ 'Σ') (xs ys : List Char) :
    lowerChars (xs ++ b :: ys) = lowerChars xs ++ lowerChar b ++ lowerChars ys :=
  lowerFrom_append_wall hignorable hcased hsigma [] xs ys

end Wall

/-- Lowercasing words joined by spaces joins the lowercased words. -/
theorem lowerChars_intercalate_space (ws : List (List Char)) :
    lowerChars ([' '].intercalate ws) = [' '].intercalate (ws.map lowerChars) := by
  induction ws with
  | nil => rfl
  | cons w ws ih =>
    cases ws with
    | nil => simp
    | cons v vs =>
      have hspace : lowerChar ' ' = [' '] := by decide
      rw [List.intercalate_cons_cons, List.append_assoc, List.singleton_append,
        lowerChars_append_wall (by decide) (by decide) (by decide), ih, hspace]
      simp only [List.map_cons, List.intercalate_cons_cons]

end Text

end CanDecoder
