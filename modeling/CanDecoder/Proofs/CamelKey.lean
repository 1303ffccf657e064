import CanDecoder.Channel
import CanDecoder.Proofs.LowerCase

/-! Camel-case keys read back as display names. A key holds no space, so read back as a
name it is one word, and the whole key goes through the acronym test. Lowercasing puts a
character in its final form: the first character of a lowercased character lowercases to
itself, and no space comes in. So a key that is not an acronym maps
to itself, while a key that is one, such as `2STEP` from `2 STEP` (a first word without
letters, then a capitalised one), is lowercased whole. -/

namespace CanDecoder

namespace Text

/-- The first character of a lowercased character other than a space is no space and
lowercases to itself, and no space comes in. -/
theorem lowerChar_spec {c : Char} (hc : c ≠ ' ') :
    ' ' ∉ lowerChar c ∧ ∀ d ∈ (lowerChar c).head?, lowerChar d = [d] := by
  refine ⟨fun hspace => hc ((mem_lowerChar hspace).2 (by decide)).symm, fun d hd => ?_⟩
  exact (mem_lowerChar (List.mem_of_mem_head? hd)).1

theorem space_not_mem_lowerFrom (before : List Char) {cs : List Char} (hcs : ' ' ∉ cs) :
    ' ' ∉ lowerFrom before cs :=
  fun hspace => hcs ((mem_lowerFrom hspace).2 (by decide))

end Text

theorem space_not_mem_of_mem_splitOn {xs w : List Char} (h : w ∈ xs.splitOn ' ') : ' ' ∉ w := by
  induction xs generalizing w with
  | nil => simp_all
  | cons x xs ih =>
    rw [List.splitOn_cons_eq_if_modifyHead] at h
    split at h
    case isTrue => rcases List.mem_cons.mp h with rfl | h <;> simp_all
    case isFalse hx =>
      obtain ⟨l, ls, hls⟩ := List.exists_cons_of_ne_nil (List.splitOn_ne_nil ' ' xs)
      rw [hls, List.modifyHead_cons] at h
      rcases List.mem_cons.mp h with rfl | h
      · have hl := ih (hls ▸ List.mem_cons_self)
        simp only [beq_iff_eq] at hx
        simp [Ne.symm hx, hl]
      · exact ih (hls ▸ List.mem_cons_of_mem _ h)

theorem mem_nameWords {name : String} {w : List Char} (h : w ∈ nameWords name) :
    ' ' ∉ w ∧ w ≠ [] := by
  unfold nameWords at h
  rw [List.mem_filter] at h
  exact ⟨space_not_mem_of_mem_splitOn h.1, by simpa using h.2⟩

/-- A name of one word is that word. -/
theorem nameWords_word {w : List Char} (hw : w ≠ []) (hsp : ' ' ∉ w) :
    nameWords (String.ofList w) = [w] := by
  rw [nameWords, String.toList_ofList, List.splitOn_eq_singleton hsp]
  simp [hw]

/-- The start of a key made from a word with no space opens with a character that
lowercases to itself. -/
theorem head?_keyHead {c : Char} {cs : List Char} (hsp : ' ' ∉ c :: cs) :
    ∃ d, (keyHead (c :: cs)).head? = some d ∧ Text.lowerChar d = [d] := by
  obtain ⟨d, ds, hd⟩ := List.exists_cons_of_ne_nil (Text.lowerChar_ne_nil c)
  have hlow : Text.lowerChar d = [d] :=
    (Text.lowerChar_spec (List.ne_of_not_mem_cons hsp).symm).2 d (by simp [hd])
  unfold keyHead
  split
  · rw [Text.head?_lowerChars]
    split
    · exact ⟨'σ', rfl, by decide +kernel⟩
    · exact ⟨d, by simp [hd], hlow⟩
  · exact ⟨d, by simp [hd], hlow⟩

theorem space_not_mem_keyHead {w : List Char} (hsp : ' ' ∉ w) : ' ' ∉ keyHead w := by
  unfold keyHead
  split
  · exact Text.space_not_mem_lowerFrom [] hsp
  · split
    · rw [List.mem_append, not_or]
      exact ⟨(Text.lowerChar_spec (List.ne_of_not_mem_cons hsp).symm).1,
        List.not_mem_of_not_mem_cons hsp⟩
    · simp

theorem keyHead_of_acronym {k : List Char} (hk : isAcronym k = true) :
    keyHead k = Text.lowerChars k := by
  unfold keyHead
  rw [if_pos hk]

/-- A word of no space that is not an acronym is its own start of a key once its first
character is in lowercase form. -/
theorem keyHead_of_not_acronym {k : List Char} (hk : isAcronym k = false)
    (hhead : ∀ d ∈ k.head?, Text.lowerChar d = [d]) : keyHead k = k := by
  unfold keyHead
  rw [if_neg (by simp [hk])]
  cases k with
  | nil => rfl
  | cons d ds => simp [hhead d rfl]

/-- Reading a key back as a name: a key that is an acronym is lowercased whole, and any
other key maps to itself. -/
theorem camelKey_camelKey (s : String) :
    camelKey (camelKey s) =
      if isAcronym (camelKey s).toList then Text.lower (camelKey s) else camelKey s := by
  cases hwords : nameWords s with
  | nil =>
    have hkey : camelKey s = "" := by rw [camelKey, hwords]
    rw [hkey]
    rfl
  | cons first rest =>
    have hkey : camelKey s = String.ofList (keyHead first ++ rest.flatten) := by
      rw [camelKey, hwords]
    obtain ⟨hfirst, hne⟩ := mem_nameWords (hwords ▸ List.mem_cons_self : first ∈ nameWords s)
    obtain ⟨c, cs, rfl⟩ := List.exists_cons_of_ne_nil hne
    obtain ⟨d, hd, hfixed⟩ := head?_keyHead hfirst
    -- the key opens with `d` and holds no space: neither its start nor the later words do
    have hhead : (keyHead (c :: cs) ++ rest.flatten).head? = some d := by
      rw [List.head?_append, hd]
      rfl
    have hsp : ' ' ∉ keyHead (c :: cs) ++ rest.flatten := by
      rw [List.mem_append, not_or, List.mem_flatten, not_exists]
      refine ⟨space_not_mem_keyHead hfirst, fun w ⟨hw, hspw⟩ => ?_⟩
      exact (mem_nameWords (hwords ▸ List.mem_cons_of_mem _ hw : w ∈ nameWords s)).1 hspw
    have hkne : keyHead (c :: cs) ++ rest.flatten ≠ [] := by
      intro h
      rw [h] at hhead
      cases hhead
    have hagain : camelKey (camelKey s) =
        String.ofList (keyHead (keyHead (c :: cs) ++ rest.flatten)) := by
      rw [hkey, camelKey, nameWords_word hkne hsp]
      simp only [List.flatten_nil, List.append_nil]
    rw [hagain, hkey, String.toList_ofList]
    split
    case isTrue hacr => rw [keyHead_of_acronym hacr, Text.lower, String.toList_ofList]
    case isFalse hacr =>
      rw [keyHead_of_not_acronym (by simpa using hacr) (by rw [hhead]; rintro _ ⟨⟩; exact hfixed)]

/-- The key of `2 STEP` is `2STEP`, itself an acronym: read back as a name it becomes
`2step`, so a key need not map to itself. -/
theorem acronym_key_not_fixed :
    camelKey "2 STEP" = "2STEP" ∧ camelKey (camelKey "2 STEP") = "2step" ∧
      camelKey (camelKey "2 STEP") ≠ camelKey "2 STEP" := by
  decide

end CanDecoder
