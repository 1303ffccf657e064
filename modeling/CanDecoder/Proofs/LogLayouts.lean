import CanDecoder.Proofs.FrameIdText
import CanDecoder.Proofs.LogLines

/-! The two layouts of a capture log line. A frame is written either as one word `H#D`, the
identifier and the payload's hex joined by a `#`, or as spaced words `H [k] B1 … Bm`, with
the byte count in brackets and the payload's hex split into words. Either may follow a
timestamp in parentheses and an interface word. Reading a line splits it into its words at
blanks, so only the words matter; both layouts then read as the same frame. The proof
follows the reader: the words of a line, the hex payload word by word, the decimal byte
count, and then the two branches of the word reader. -/

namespace CanDecoder

/-! ### Words of a line -/

namespace Text

theorem wordsFrom_append_blank (cur cs : List Char) {b : Char} (hb : isBlank b = true) :
    wordsFrom cur (cs ++ [b]) = wordsFrom cur cs := by
  induction cs generalizing cur with
  | nil => cases cur <;> simp [wordsFrom, hb]
  | cons c cs ih =>
    simp only [List.cons_append, wordsFrom]
    split
    · split <;> rw [ih]
    · exact ih (c :: cur)

/-- Blanks at the end of a line end no word of their own. -/
theorem wordsFrom_append_blanks (cur cs : List Char) {t : List Char}
    (ht : ∀ b ∈ t, isBlank b = true) : wordsFrom cur (cs ++ t) = wordsFrom cur cs := by
  induction t using List.reverseRecOn with
  | nil => rw [List.append_nil]
  | append_singleton t b ih =>
    rw [← List.append_assoc, wordsFrom_append_blank _ _ (ht b (by simp)),
      ih fun b' hb' => ht b' (by simp [hb'])]

/-- Blanks at the start of a line end no word either. -/
theorem wordsOf_dropWhile (cs : List Char) : wordsOf (cs.dropWhile isBlank) = wordsOf cs := by
  induction cs with
  | nil => rfl
  | cons c cs ih =>
    by_cases hc : isBlank c = true
    · rw [List.dropWhile_cons_of_pos hc, ih]
      simp [wordsOf, wordsFrom, hc]
    · rw [List.dropWhile_cons_of_neg hc]

theorem wordsOf_trimChars (cs : List Char) : wordsOf (trimChars cs) = wordsOf cs := by
  -- without its leading blanks, the line is the trimmed line followed by trailing blanks
  have hsplit := congrArg List.reverse
    (List.takeWhile_append_dropWhile (p := isBlank) (l := (cs.dropWhile isBlank).reverse))
  rw [List.reverse_append, List.reverse_reverse] at hsplit
  have htrail : ∀ b ∈ ((cs.dropWhile isBlank).reverse.takeWhile isBlank).reverse, isBlank b = true :=
    fun b hb => List.all_eq_true.mp List.all_takeWhile b (List.mem_reverse.mp hb)
  rw [← wordsOf_dropWhile cs, ← hsplit, wordsOf, wordsOf, wordsFrom_append_blanks _ _ htrail]
  rfl

/-- A word begun before the rest of the line is read keeps its start. -/
theorem wordsFrom_of_ne_nil {cur : List Char} (hcur : cur ≠ []) (cs : List Char) :
    ∃ w ws, wordsFrom cur cs = (cur.reverse ++ w) :: ws := by
  induction cs generalizing cur with
  | nil => exact ⟨[], [], by simp [wordsFrom, hcur]⟩
  | cons c cs ih =>
    unfold wordsFrom
    split
    · exact ⟨[], wordsFrom [] cs, by simp [hcur]⟩
    · obtain ⟨w, ws, h⟩ := ih (List.cons_ne_nil c cur)
      exact ⟨c :: w, ws, by simp [h]⟩

theorem wordsFrom_not_blank {cur : List Char} (hcur : ∀ c ∈ cur, isBlank c = false) (cs : List Char) :
    ∀ w ∈ wordsFrom cur cs, ∀ c ∈ w, isBlank c = false := by
  induction cs generalizing cur with
  | nil =>
    unfold wordsFrom
    split
    · simp
    · simpa using hcur
  | cons c cs ih =>
    unfold wordsFrom
    split
    · have hnil := @ih [] (by simp)
      split
      · exact hnil
      · simp only [List.mem_cons, forall_eq_or_imp, List.mem_reverse]
        exact ⟨hcur, hnil⟩
    · rename_i hc
      exact ih fun x hx => (List.mem_cons.mp hx).elim (· ▸ by simpa using hc) (hcur x)

/-- Every word of a text is free of blanks. -/
theorem not_blank_of_mem_wordsOf {cs w : List Char} (hw : w ∈ wordsOf cs) {c : Char}
    (hc : c ∈ w) : isBlank c = false :=
  wordsFrom_not_blank (by simp) cs w hw c hc

theorem wordsOf_eq_of_words {s : String} {ws : List String} (h : words s = ws) :
    wordsOf s.toList = ws.map String.toList := by
  rw [← h, words, List.map_map]
  simp

end Text

/-! ### Hex payload text -/

theorem toNat_ofNat_of_lt {n : Nat} (h : n < 256) : (Char.ofNat n).toNat = n := by
  rw [Char.ofNat, dif_pos (by unfold Nat.isValidChar; omega)]
  rfl

/-- A byte that is a hex digit is an ASCII byte. -/
theorem lt_of_hexByteValue? {b : UInt8} {v : Nat} (h : hexByteValue? b = some v) : b.toNat < 128 := by
  have hcode := (hexValue?_eq_some_iff_toNat _ v).mp h
  rw [toNat_ofNat_of_lt b.toNat_lt] at hcode
  omega

theorem hexPairs_digits {bs : List UInt8} {i : Nat} {d : Payload} (h : hexPairs bs i = .ok d)
    (heven : bs.length % 2 = 0) : ∀ b ∈ bs, ∃ v, hexByteValue? b = some v := by
  fun_induction hexPairs bs i generalizing d with
  | case1 hi lo rest i vh vl hl hh ih =>
    cases hrest : hexPairs rest (i + 2) with
    | error e =>
      rw [hrest] at h
      cases h
    | ok d' =>
      intro b hb
      rcases List.mem_cons.mp hb with rfl | hb
      · exact ⟨vh, hh⟩
      rcases List.mem_cons.mp hb with rfl | hb
      · exact ⟨vl, hl⟩
      exact ih hrest (by simp at heven; omega) b hb
  | case2 => cases h
  | case3 => cases h
  | case4 t i hshort =>
    -- fewer than two bytes, and an even count: none at all
    rcases t with _ | ⟨x, _ | ⟨y, rest⟩⟩
    · simp
    · simp at heven
    · exact absurd rfl (hshort x y rest)

/-- Where a run of pairs starts counts only for the position an error names. -/
theorem hexPairs_shift {bs : List UInt8} {i : Nat} {d : Payload} (h : hexPairs bs i = .ok d)
    (j : Nat) : hexPairs bs j = .ok d := by
  fun_induction hexPairs bs i generalizing d j with
  | case1 hi lo rest i vh vl hl hh ih =>
    cases hrest : hexPairs rest (i + 2) with
    | error e =>
      rw [hrest] at h
      cases h
    | ok d' =>
      rw [hrest] at h
      cases h
      simp only [hexPairs, hh, hl, ih hrest (j + 2)]
      rfl
  | case2 => cases h
  | case3 => cases h
  | case4 t i hshort =>
    cases h
    rcases t with _ | ⟨x, _ | ⟨y, rest⟩⟩
    · rfl
    · rfl
    · exact absurd rfl (hshort x y rest)

theorem hexPairs_append {xs ys : List UInt8} {i : Nat} {a b : Payload} (hx : hexPairs xs i = .ok a)
    (heven : xs.length % 2 = 0) (hy : hexPairs ys 0 = .ok b) : hexPairs (xs ++ ys) i = .ok (a ++ b) := by
  fun_induction hexPairs xs i generalizing a with
  | case1 hi lo rest i vh vl hl hh ih =>
    cases hrest : hexPairs rest (i + 2) with
    | error e =>
      rw [hrest] at hx
      cases hx
    | ok a' =>
      rw [hrest] at hx
      cases hx
      simp only [List.cons_append, hexPairs, hh, hl, ih hrest (by simp at heven; omega)]
      rfl
  | case2 => cases hx
  | case3 => cases hx
  | case4 t i hshort =>
    cases hx
    rcases t with _ | ⟨x, _ | ⟨y, rest⟩⟩
    · exact hexPairs_shift hy i
    · simp at heven
    · exact absurd rfl (hshort x y rest)

theorem decodeHex_eq_ok {s : String} {d : Payload} :
    decodeHex s = .ok d ↔ s.toUTF8.toList.length % 2 = 0 ∧ hexPairs s.toUTF8.toList 0 = .ok d := by
  unfold decodeHex
  dsimp only
  split
  · rename_i hodd
    constructor
    · intro h
      cases h
    · intro h
      exact absurd h.1 (by omega)
  · rename_i hodd
    exact ⟨fun h => ⟨by omega, h⟩, And.right⟩

/-- Two hex texts written one after the other read as their payloads one after the other. -/
theorem decodeHex_append {s t : String} {a b : Payload} (hs : decodeHex s = .ok a)
    (ht : decodeHex t = .ok b) : decodeHex (s ++ t) = .ok (a ++ b) := by
  obtain ⟨hse, hsp⟩ := decodeHex_eq_ok.mp hs
  obtain ⟨hte, htp⟩ := decodeHex_eq_ok.mp ht
  have hbytes : (s ++ t).toUTF8.toList = s.toUTF8.toList ++ t.toUTF8.toList := by
    rw [toUTF8_toList, String.toList_append, List.flatMap_append, ← toUTF8_toList, ← toUTF8_toList]
  rw [decodeHex_eq_ok, hbytes, List.length_append]
  exact ⟨by omega, hexPairs_append hsp hse htp⟩

/-- Every character of a hex text is a hex digit. -/
theorem hexValue?_of_decodeHex {s : String} {d : Payload} (h : decodeHex s = .ok d) :
    ∀ c ∈ s.toList, ∃ v, hexValue? c = some v := by
  obtain ⟨heven, hpairs⟩ := decodeHex_eq_ok.mp h
  intro c hc
  obtain ⟨b, hb⟩ := List.exists_mem_of_ne_nil _ String.utf8EncodeChar_ne_nil
  obtain ⟨v, hv⟩ := hexPairs_digits hpairs heven b
    (by rw [toUTF8_toList]; exact List.mem_flatMap.mpr ⟨c, hc, hb⟩)
  -- the character's form is that one byte, an ASCII digit
  obtain ⟨-, hcode⟩ := utf8EncodeChar_of_ascii hb (lt_of_hexByteValue? hv)
  refine ⟨v, ?_⟩
  rw [← Char.ofNat_toNat c, hcode]
  exact hv

namespace Log

theorem readHex_of_decodeHex (what : String) {s : String} {d : Payload} (h : decodeHex s = .ok d) :
    readHex what s.toList = .ok d := by
  rw [readHex, String.ofList_toList, h]
  rfl

/-- Hex words that each read on their own read, one after another, as their joined text. -/
theorem mapM_readHex (what : String) {bs : List String} (h : ∀ b ∈ bs, ∃ e, decodeHex b = .ok e) :
    ∃ es, (bs.map String.toList).mapM (readHex what) = .ok es ∧
      decodeHex (String.join bs) = .ok es.flatten := by
  induction bs with
  | nil =>
    have hempty : (String.join []).toUTF8.toList = [] := by
      rw [toUTF8_toList, String.join_nil]
      rfl
    exact ⟨[], rfl, decodeHex_eq_ok.mpr ⟨by rw [hempty]; rfl, by rw [hempty]; rfl⟩⟩
  | cons b bs ih =>
    obtain ⟨e, he⟩ := h b List.mem_cons_self
    obtain ⟨es, hmap, hjoin⟩ := ih fun b' hb' => h b' (List.mem_cons_of_mem b hb')
    refine ⟨e :: es, ?_, ?_⟩
    · rw [List.map_cons, List.mapM_cons, readHex_of_decodeHex what he, hmap]
      rfl
    · rw [String.join_cons, List.flatten_cons]
      exact decodeHex_append he hjoin

end Log

/-! ### Length fields -/

namespace Decimal

theorem readDigits_append (bound acc : Nat) (cs : List Char) (c : Char) :
    readDigits bound acc (cs ++ [c]) =
      (readDigits bound acc cs).bind fun v => readDigits bound v [c] := by
  induction cs generalizing acc with
  | nil => rfl
  | cons c' cs ih =>
    simp only [List.cons_append, readDigits]
    split
    · split
      · exact ih _
      · rfl
    · rfl

theorem readDigits_toDigits {bound n : Nat} (h : n < bound) :
    readDigits bound 0 (Nat.toDigits 10 n) = .ok n := by
  induction n using Nat.strongRecOn with
  | ind n ih =>
    rw [Nat.toDigits_eq_if (by decide)]
    split
    · rename_i hn
      simp [readDigits, Nat.isDigit_digitChar, hn, Nat.toNat_digitChar_sub_48_of_lt_ten hn, h]
    · rename_i hn
      have hd : n % 10 < 10 := Nat.mod_lt n (by decide)
      rw [readDigits_append, ih (n / 10) (by omega) (by omega)]
      simp only [Except.bind, readDigits, Nat.isDigit_digitChar, hd, decide_true, if_true,
        Nat.toNat_digitChar_sub_48_of_lt_ten hd, Nat.div_add_mod, h]

/-- A count written in decimal reads back, as long as it fits the bound. -/
theorem readNatural_toString {bound n : Nat} (h : n < bound) :
    readNatural bound (toString n) = .ok n := by
  have hdigits : (toString n).toList = Nat.toDigits 10 n := by
    rw [Nat.toString_eq_ofList_toDigits, String.toList_ofList]
  have hplus : '+' ∉ Nat.toDigits 10 n := fun hmem =>
    absurd (Nat.isDigit_of_mem_toDigits (by decide) (by decide) hmem) (by decide)
  unfold readNatural
  rw [hdigits]
  split
  · exact absurd ‹_› Nat.toDigits_ne_nil
  · exact absurd (‹_› ▸ List.mem_singleton_self '+') hplus
  · exact absurd (‹_› ▸ List.mem_cons_self) hplus
  · exact readDigits_toDigits h

end Decimal

/-! ### Reading a line -/

namespace Log

/-- A line whose first word does not start with `#` is, once trimmed, neither empty nor a
comment. -/
theorem trimChars_ne_comment {line : String} {first : List Char} {rest : List (List Char)}
    (h : Text.wordsOf line.toList = first :: rest) (hhash : first.head? ≠ some '#') :
    Text.trimChars line.toList ≠ [] ∧ ∀ r, Text.trimChars line.toList ≠ '#' :: r := by
  have htrim := Text.wordsOf_trimChars line.toList
  constructor
  · intro hnil
    rw [hnil, h] at htrim
    cases htrim
  · -- the first word of a trimmed line starting with `#` starts with `#`
    intro r hhead
    obtain ⟨w, ws, hw⟩ := @Text.wordsFrom_of_ne_nil ['#'] (by simp) r
    rw [hhead, h, Text.wordsOf, Text.wordsFrom, if_neg (by decide), hw] at htrim
    cases htrim
    exact hhash rfl

/-- A line whose first word is no comment and no timestamp is read from all its words. -/
theorem parseLine_unstamped {line : String} {first : List Char} {rest : List (List Char)}
    (h : Text.wordsOf line.toList = first :: rest) (hhash : first.head? ≠ some '#')
    (hstamp : parenthesized first = none) :
    parseLine line = some <$> readWords none (first :: rest) := by
  obtain ⟨hne, hcomment⟩ := trimChars_ne_comment h hhash
  unfold parseLine
  dsimp only
  split
  · rename_i hnil
    exact absurd hnil hne
  · rename_i r hhead
    exact absurd hhead (hcomment r)
  · rw [Text.wordsOf_trimChars, h]
    dsimp only
    rw [hstamp]

/-- A line whose first word is a timestamp in parentheses is read from the words after it,
with that time. -/
theorem parseLine_stamped {line : String} {first inner : List Char} {rest : List (List Char)}
    (h : Text.wordsOf line.toList = first :: rest) (hstamp : parenthesized first = some inner)
    {t : Float} (ht : readTimestamp first inner = .ok t) :
    parseLine line = some <$> readWords (some t) rest := by
  have hparen : first.head? = some '(' := by
    unfold parenthesized at hstamp
    split at hstamp
    · rfl
    · cases hstamp
  obtain ⟨hne, hcomment⟩ := trimChars_ne_comment h (by rw [hparen]; decide)
  unfold parseLine
  dsimp only
  split
  · rename_i hnil
    exact absurd hnil hne
  · rename_i r hhead
    exact absurd hhead (hcomment r)
  · rw [Text.wordsOf_trimChars, h]
    dsimp only
    rw [hstamp]
    dsimp only
    rw [ht]
    rfl

theorem splitAtFirst_of_append {α : Type} {p : α → Bool} {before : List α} {x : α}
    (after : List α) (hbefore : ∀ y ∈ before, p y = false) (hx : p x = true) :
    splitAtFirst p (before ++ x :: after) = some (before, x, after) := by
  induction before with
  | nil => simp [splitAtFirst, hx]
  | cons y ys ih =>
    rw [List.cons_append, splitAtFirst, if_neg (by simp [hbefore y List.mem_cons_self]),
      ih fun z hz => hbefore z (List.mem_cons_of_mem y hz)]
    rfl

theorem splitAtFirst_eq_none {α : Type} {p : α → Bool} {l : List α} (h : ∀ y ∈ l, p y = false) :
    splitAtFirst p l = none := by
  induction l with
  | nil => rfl
  | cons y ys ih =>
    rw [splitAtFirst, if_neg (by simp [h y List.mem_cons_self]),
      ih fun z hz => h z (List.mem_cons_of_mem y hz)]
    rfl

theorem readWords_joined (t : Option Float) {before after : List (List Char)} {word : List Char}
    (hbefore : ∀ w ∈ before, '#' ∉ w) (hword : '#' ∈ word) {id : FrameId} {data : Payload}
    (hread : readJoined word = .ok (id, data)) :
    readWords t (before ++ word :: after) = .ok ⟨t, before.getLast?.map String.ofList, id, data⟩ := by
  unfold readWords
  rw [splitAtFirst_of_append after (fun w hw => by simpa using hbefore w hw) (by simpa using hword)]
  dsimp only
  rw [hread]
  rfl

theorem readWords_spaced (t : Option Float) {before after : List (List Char)} {word inner : List Char}
    (hhash : ∀ w ∈ before ++ word :: after, '#' ∉ w) (hbefore : ∀ w ∈ before, bracketed w = none)
    (hword : bracketed word = some inner) {iface : Option String} {id : FrameId} {data : Payload}
    (hread : readSpaced before word inner after = .ok (iface, id, data)) :
    readWords t (before ++ word :: after) = .ok ⟨t, iface, id, data⟩ := by
  unfold readWords
  rw [splitAtFirst_eq_none fun w hw => by simpa using hhash w hw]
  dsimp only
  rw [splitAtFirst_of_append after (fun w hw => by simp [hbefore w hw]) (by simp [hword])]
  dsimp only
  rw [hword]
  dsimp only
  rw [hread]
  rfl

theorem checkLength_ok {data : Payload} (h : data.length ≤ maxPayload) : checkLength data = .ok () := by
  unfold checkLength
  rw [if_neg (by omega)]

theorem readJoined_ok {idPart data : List Char} (hid : '#' ∉ idPart)
    (hhead : ∀ c ∈ data.head?, c ≠ '#' ∧ c ≠ 'R' ∧ c ≠ 'r') {id : FrameId}
    (hreadId : readId idPart = .ok id) {payload : Payload}
    (hhex : decodeHex (String.ofList data) = .ok payload) (hlen : payload.length ≤ maxPayload) :
    readJoined (idPart ++ '#' :: data) = .ok (id, payload) := by
  unfold readJoined
  rw [splitAtFirst_of_append data (fun c hc => by simpa using ne_of_mem_of_not_mem hc hid) (by simp)]
  dsimp only
  split
  -- a payload that is hex starts with none of the markers of other frame kinds
  · exact absurd rfl (hhead _ rfl).1
  · exact absurd rfl (hhead _ rfl).2.1
  · exact absurd rfl (hhead _ rfl).2.2
  · have hpayload : readHex "invalid payload: " data = .ok payload := by
      rw [readHex, hhex]
      rfl
    rw [hreadId, bind, Except.instMonad]
    simp only [Except.bind, hpayload, checkLength_ok hlen]
    rfl

theorem readSpaced_ok (pre : List (List Char)) {idWord word inner : List Char}
    {after : List (List Char)} {id : FrameId} {count : Nat} {pieces : List Payload}
    (hid : readId idWord = .ok id)
    (hcount : Decimal.readNatural Decimal.wordBound (String.ofList inner) = .ok count)
    (hpieces : after.mapM (readHex "invalid data byte: ") = .ok pieces)
    (hlen : pieces.flatten.length = count) (hmax : count ≤ maxPayload) :
    readSpaced (pre ++ [idWord]) word inner after =
      .ok (pre.getLast?.map String.ofList, id, pieces.flatten) := by
  unfold readSpaced
  simp only [List.getLast?_concat, List.dropLast_concat]
  have hcounted : (Decimal.readNatural Decimal.wordBound (String.ofList inner)).mapError
      (fun e => Failure.within ("invalid length field: " ++ String.ofList word)
        (Failure.of (Cause.natural e))) = .ok count := by
    rw [hcount]
    rfl
  rw [hid, bind, Except.instMonad]
  simp only [Except.bind, hcounted, hpieces, hlen, ne_eq, not_true_eq_false, if_false,
    checkLength_ok (hlen ▸ hmax)]
  rfl

/-! ### The words of the two layouts -/

theorem parenthesized_eq_none {w : List Char}
    (h : ¬ (w.head? = some '(' ∧ w.getLast? = some ')')) : parenthesized w = none := by
  unfold parenthesized
  split
  · rename_i rest
    rw [if_neg]
    intro hlast
    refine h ⟨rfl, ?_⟩
    cases rest with
    | nil => cases hlast
    | cons c cs => simpa using hlast
  · rfl

theorem bracketed_eq_none {w : List Char}
    (h : ¬ (w.head? = some '[' ∧ w.getLast? = some ']')) : bracketed w = none := by
  unfold bracketed
  split
  · rename_i rest
    rw [if_neg]
    intro hlast
    refine h ⟨rfl, ?_⟩
    cases rest with
    | nil => cases hlast
    | cons c cs => simpa using hlast
  · rfl

theorem parenthesized_wrap (inner : String) :
    parenthesized ("(" ++ inner ++ ")").toList = some inner.toList := by
  simp [parenthesized]

theorem bracketed_wrap (inner : String) :
    bracketed ("[" ++ inner ++ "]").toList = some inner.toList := by
  simp [bracketed]

theorem readId_of_read {H : String} {n : FrameId} (h : FrameId.read H = .ok n) :
    readId H.toList = .ok n := by
  rw [readId, String.ofList_toList, h]
  rfl

theorem readTimestamp_of_readLiteral (word : List Char) {T : String} {v : Float}
    (h : Decimal.readLiteral T = .ok v) : readTimestamp word T.toList = .ok v := by
  rw [readTimestamp, String.ofList_toList, h]
  rfl

/-- Digits and markers of other frame kinds are told apart. -/
theorem hexDigit_ne_marker {c : Char} {v : Nat} (h : hexValue? c = some v) :
    c ≠ '#' ∧ c ≠ 'R' ∧ c ≠ 'r' := by
  have hcode := (hexValue?_eq_some_iff_toNat c v).mp h
  refine ⟨?_, ?_, ?_⟩ <;> rintro rfl <;> simp at hcode

/-- An identifier word spelled without blanks is not empty, and holds no `#`, no `(` and no
`[`. -/
theorem idWord_chars {H : String} {n : FrameId} (hH : FrameId.read H = .ok n)
    (hblank : ∀ c ∈ H.toList, Text.isBlank c = false) :
    H.toList ≠ [] ∧ ∀ c ∈ H.toList, c ≠ '#' ∧ c ≠ '(' ∧ c ≠ '[' := by
  have hmarkers : ∀ d < 16, (Nat.digitChar d).toUpper ≠ '#' ∧ (Nat.digitChar d).toUpper ≠ '(' ∧
      (Nat.digitChar d).toUpper ≠ '[' := by
    decide
  obtain ⟨pre, sign, digits, zeros, htrim, hpre, hsign, hdigits⟩ :=
    (parse?_eq_some_iff H n).mp ((read_eq_ok_iff H n).mp hH)
  rw [Text.trimChars_eq_self hblank] at htrim
  rw [htrim]
  refine ⟨by simp [spelling_ne_nil hdigits], fun c hc => ?_⟩
  rcases List.mem_append.mp hc with hc | hc
  · rcases List.mem_append.mp hc with hc | hc
    · rcases hpre with rfl | rfl | rfl <;> simp at hc <;> rcases hc with rfl | rfl <;> decide
    · rcases hsign with rfl | rfl <;> simp at hc
      subst hc
      decide
  · obtain ⟨d, hd, hcd⟩ := toUpper_of_spelling hdigits hc
    refine ⟨?_, ?_, ?_⟩ <;> rintro rfl
    · exact (hmarkers d hd).1 hcd.symm
    · exact (hmarkers d hd).2.1 hcd.symm
    · exact (hmarkers d hd).2.2 hcd.symm

theorem words_not_blank {line : String} {toks : List String} (h : Text.words line = toks) :
    ∀ w ∈ toks, ∀ c ∈ w.toList, Text.isBlank c = false := by
  intro w hw c hc
  have hmem : w.toList ∈ Text.wordsOf line.toList := by
    rw [Text.wordsOf_eq_of_words h]
    exact List.mem_map_of_mem hw
  exact Text.not_blank_of_mem_wordsOf hmem hc

/-- A line whose words are an optional timestamp in parentheses and then words that start
with neither a comment nor a timestamp is read from those words, with the time of the
timestamp. -/
theorem parseLine_of_words {line : String} {stamp : Option String} {toks : List String}
    (hwords : Text.words line = (stamp.map fun T => "(" ++ T ++ ")").toList ++ toks)
    (hstamp : ∀ T ∈ stamp, ∃ v, Decimal.readLiteral T = .ok v) (htoks : toks ≠ [])
    (hfirst : ∀ w ∈ toks.head?, w.toList.head? ≠ some '#' ∧
      ¬ (w.toList.head? = some '(' ∧ w.toList.getLast? = some ')')) :
    parseLine line =
      some <$> readWords (stamp.bind fun T => (Decimal.readLiteral T).toOption) (toks.map String.toList) := by
  have hw := Text.wordsOf_eq_of_words hwords
  cases stamp with
  | some T =>
    obtain ⟨v, hv⟩ := hstamp T rfl
    rw [Option.bind_some, hv]
    exact parseLine_stamped hw (parenthesized_wrap T) (readTimestamp_of_readLiteral _ hv)
  | none =>
    obtain ⟨first, rest, rfl⟩ := List.exists_cons_of_ne_nil htoks
    obtain ⟨hhash, hparen⟩ := hfirst first rfl
    exact parseLine_unstamped hw hhash (parenthesized_eq_none hparen)

/-- The interface word, if any, becomes the frame's interface. -/
theorem getLast?_interface (iface : Option String) :
    ((iface.toList.map String.toList).getLast?).map String.ofList = iface := by
  cases iface <;> simp

section Layouts

variable {n : FrameId} {d : Payload} {H : String} {iface : Option String}

/-- What the layouts ask of the interface word: no `#`, and not in brackets or parentheses. -/
def InterfaceWord (i : String) : Prop :=
  '#' ∉ i.toList ∧ ¬ (i.toList.head? = some '[' ∧ i.toList.getLast? = some ']') ∧
    ¬ (i.toList.head? = some '(' ∧ i.toList.getLast? = some ')')

/-- After any timestamp, the first word is the interface or a word starting with the
identifier: neither a comment nor a timestamp. -/
theorem first_word (hiface : ∀ i ∈ iface, InterfaceWord i) {w : String}
    (hw : w.toList.head? ≠ some '#' ∧ w.toList.head? ≠ some '(') (rest : List String) :
    ∀ x ∈ (iface.toList ++ w :: rest).head?, x.toList.head? ≠ some '#' ∧
      ¬ (x.toList.head? = some '(' ∧ x.toList.getLast? = some ')') := by
  cases iface with
  | none =>
    intro x hx
    cases hx
    exact ⟨hw.1, fun h => hw.2 h.1⟩
  | some i =>
    intro x hx
    cases hx
    obtain ⟨hhash, -, hparen⟩ := hiface i rfl
    refine ⟨fun h => hhash (List.mem_of_mem_head? h), hparen⟩

theorem idWord_head (hH : FrameId.read H = .ok n) (hblank : ∀ c ∈ H.toList, Text.isBlank c = false)
    (rest : List Char) :
    (H.toList ++ rest).head? ≠ some '#' ∧ (H.toList ++ rest).head? ≠ some '(' ∧
      (H.toList ++ rest).head? ≠ some '[' := by
  obtain ⟨hne, hchars⟩ := idWord_chars hH hblank
  obtain ⟨c, cs, hcs⟩ := List.exists_cons_of_ne_nil hne
  have hc := hchars c (by rw [hcs]; exact List.mem_cons_self)
  rw [hcs, List.cons_append, List.head?_cons]
  exact ⟨fun h => hc.1 (Option.some.inj h), fun h => hc.2.1 (Option.some.inj h),
    fun h => hc.2.2 (Option.some.inj h)⟩

/-- The joined layout, after any timestamp, reads as the frame. -/
theorem readWords_joined_layout (t : Option Float) (hd : d.length ≤ 8) (hH : FrameId.read H = .ok n)
    (hblank : ∀ c ∈ H.toList, Text.isBlank c = false) (hiface : ∀ i ∈ iface, InterfaceWord i)
    {D : String} (hD : decodeHex D = .ok d) :
    readWords t ((iface.toList ++ [H ++ "#" ++ D]).map String.toList) = .ok ⟨t, iface, n, d⟩ := by
  have hjoined : (H ++ "#" ++ D).toList = H.toList ++ '#' :: D.toList := by simp
  have hhead : ∀ c ∈ D.toList.head?, c ≠ '#' ∧ c ≠ 'R' ∧ c ≠ 'r' := by
    intro c hc
    obtain ⟨v, hv⟩ := hexValue?_of_decodeHex hD c (List.mem_of_mem_head? hc)
    exact hexDigit_ne_marker hv
  have hbefore : ∀ w ∈ iface.toList.map String.toList, '#' ∉ w := by
    intro w hw
    obtain ⟨i, hi, rfl⟩ := List.mem_map.mp hw
    exact (hiface i (Option.mem_toList.mp hi)).1
  have hid : '#' ∉ H.toList := fun h => ((idWord_chars hH hblank).2 '#' h).1 rfl
  have hhex : decodeHex (String.ofList D.toList) = .ok d := by rwa [String.ofList_toList]
  rw [List.map_append, List.map_singleton, hjoined,
    readWords_joined t hbefore (by simp)
      (readJoined_ok hid hhead (readId_of_read hH) hhex hd), getLast?_interface]

theorem hash_not_mem_count (k : Nat) : '#' ∉ ("[" ++ toString k ++ "]").toList := by
  have hdigit : '#' ∉ (toString k).toList := by
    rw [Nat.toString_eq_ofList_toDigits, String.toList_ofList]
    exact fun hmem => absurd (Nat.isDigit_of_mem_toDigits (by decide) (by decide) hmem) (by decide)
  simpa using hdigit

/-- The spaced layout, after any timestamp, reads as the frame. -/
theorem readWords_spaced_layout (t : Option Float) (hd : d.length ≤ 8) (hH : FrameId.read H = .ok n)
    (hblank : ∀ c ∈ H.toList, Text.isBlank c = false) (hiface : ∀ i ∈ iface, InterfaceWord i)
    {Bs : List String} (hBs : ∀ b ∈ Bs, ∃ e, decodeHex b = .ok e)
    (hjoin : decodeHex (String.join Bs) = .ok d) :
    readWords t ((iface.toList ++ H :: ("[" ++ toString d.length ++ "]") :: Bs).map String.toList) =
      .ok ⟨t, iface, n, d⟩ := by
  obtain ⟨pieces, hmap, hjoined⟩ := mapM_readHex "invalid data byte: " hBs
  have hflat : pieces.flatten = d := by
    rw [hjoin] at hjoined
    cases hjoined
    rfl
  have hcount : Decimal.readNatural Decimal.wordBound (String.ofList (toString d.length).toList) =
      .ok d.length := by
    have hbound : 8 < Decimal.wordBound := by decide
    rw [String.ofList_toList]
    exact Decimal.readNatural_toString (by omega)
  have hread := @readSpaced_ok (iface.toList.map String.toList) _
    ("[" ++ toString d.length ++ "]").toList _ _ _ _ _ (readId_of_read hH) hcount hmap
    (by rw [hflat]) (show d.length ≤ 8 from hd)
  have hinterface : ∀ w ∈ iface.toList.map String.toList, ∃ i, InterfaceWord i ∧ w = i.toList := by
    intro w hw
    obtain ⟨i, hi, rfl⟩ := List.mem_map.mp hw
    exact ⟨i, hiface i (Option.mem_toList.mp hi), rfl⟩
  -- no word holds `#`, so the words are read as the spaced layout
  have hhash : ∀ w ∈ (iface.toList.map String.toList ++ [H.toList]) ++
      ("[" ++ toString d.length ++ "]").toList :: Bs.map String.toList, '#' ∉ w := by
    intro w hw
    simp only [List.append_assoc, List.singleton_append, List.mem_append, List.mem_cons,
      List.mem_map] at hw
    rcases hw with hw | rfl | rfl | ⟨b, hb, rfl⟩
    · obtain ⟨i, hi, rfl⟩ := hinterface w (List.mem_map.mpr hw)
      exact hi.1
    · exact fun h => ((idWord_chars hH hblank).2 '#' h).1 rfl
    · exact hash_not_mem_count d.length
    · intro h
      obtain ⟨e, he⟩ := hBs b hb
      obtain ⟨v, hv⟩ := hexValue?_of_decodeHex he '#' h
      exact (hexDigit_ne_marker hv).1 rfl
  have hbefore : ∀ w ∈ iface.toList.map String.toList ++ [H.toList], bracketed w = none := by
    intro w hw
    rcases List.mem_append.mp hw with hw | hw
    · obtain ⟨i, hi, rfl⟩ := hinterface w hw
      exact bracketed_eq_none hi.2.1
    · rw [List.mem_singleton.mp hw]
      apply bracketed_eq_none
      have := (idWord_head hH hblank []).2.2
      rw [List.append_nil] at this
      exact fun h => this h.1
  have hwords : (iface.toList ++ H :: ("[" ++ toString d.length ++ "]") :: Bs).map String.toList =
      (iface.toList.map String.toList ++ [H.toList]) ++
        ("[" ++ toString d.length ++ "]").toList :: Bs.map String.toList := by
    simp
  rw [hwords, readWords_spaced t hhash hbefore (bracketed_wrap _) hread, getLast?_interface, hflat]

end Layouts

/-- The layouts of a capture log line. Take a frame with identifier `n` and at most eight
bytes `d`, a word `H` that reads as `n`, an interface word or none, and a timestamp text `T`
that reads as a number, or none. Every line whose words are `(T)` if there is a timestamp,
the interface if there is one, and then either the joined word `H#D`, with `D` a hex text of
`d`, or the spaced words `H [k] B1 … Bm`, with `k` the byte count and `B1 … Bm` hex words of
even length whose joined text is a hex text of `d`, is read as one and the same frame:
that time, that interface, `n` and `d`. The blanks around and between the words do not
matter. -/
theorem layouts_read_same_frame (n : FrameId) (d : Payload) (hd : d.length ≤ 8)
    (H : String) (hH : FrameId.read H = .ok n) (iface : Option String)
    (hiface : ∀ i ∈ iface, InterfaceWord i)
    (stamp : Option String) (hstamp : ∀ T ∈ stamp, ∃ v, Decimal.readLiteral T = .ok v)
    (line : String) :
    let front := (stamp.map fun T => "(" ++ T ++ ")").toList ++ iface.toList
    let frame : LoggedFrame := ⟨stamp.bind fun T => (Decimal.readLiteral T).toOption, iface, n, d⟩
    (∀ D, decodeHex D = .ok d → Text.words line = front ++ [H ++ "#" ++ D] →
      parseLine line = .ok (some frame)) ∧
    (∀ Bs : List String, (∀ b ∈ Bs, ∃ e, decodeHex b = .ok e) →
      decodeHex (String.join Bs) = .ok d →
      Text.words line = front ++ H :: ("[" ++ toString d.length ++ "]") :: Bs →
      parseLine line = .ok (some frame)) := by
  intro front frame
  refine ⟨fun D hD hwords => ?_, fun Bs hBs hjoin hwords => ?_⟩
  · simp only [front, List.append_assoc] at hwords
    have hblank : ∀ c ∈ H.toList, Text.isBlank c = false := fun c hc =>
      words_not_blank hwords (H ++ "#" ++ D) (by simp) c (by simp [hc])
    have hhead := idWord_head hH hblank ('#' :: D.toList)
    have hjoined : (H ++ "#" ++ D).toList = H.toList ++ '#' :: D.toList := by simp
    rw [parseLine_of_words hwords hstamp (by simp)
        (first_word hiface (by rw [hjoined]; exact ⟨hhead.1, hhead.2.1⟩) []),
      readWords_joined_layout _ hd hH hblank hiface hD]
    rfl
  · simp only [front, List.append_assoc] at hwords
    have hblank : ∀ c ∈ H.toList, Text.isBlank c = false := fun c hc =>
      words_not_blank hwords H (by simp) c hc
    have hhead := idWord_head hH hblank []
    rw [List.append_nil] at hhead
    rw [parseLine_of_words hwords hstamp (by simp) (first_word hiface ⟨hhead.1, hhead.2.1⟩ _),
      readWords_spaced_layout _ hd hH hblank hiface hBs hjoin]
    rfl

/-- A stamped joined line and a spaced line without a stamp, with their blanks spread
unevenly, read as the same frame on `can0`. -/
theorem layouts_read_same_frame_can0 :
    parseLine "(1700000000.5) can0 360#0DAC" =
      .ok (some ⟨(Decimal.readLiteral "1700000000.5").toOption, some "can0", 0x360, [0x0D, 0xAC]⟩) ∧
    parseLine "  can0  360   [2]  0D AC" = .ok (some ⟨none, some "can0", 0x360, [0x0D, 0xAC]⟩) := by
  have hcan0 : ∀ i ∈ some "can0", InterfaceWord i := by
    intro i hi
    cases hi
    unfold InterfaceWord
    decide
  have hBs : ∀ b ∈ ["0D", "AC"], ∃ e, decodeHex b = .ok e := by
    intro b hb
    simp only [List.mem_cons, List.not_mem_nil, or_false] at hb
    rcases hb with rfl | rfl
    · exact ⟨[0x0D], by decide +kernel⟩
    · exact ⟨[0xAC], by decide +kernel⟩
  exact ⟨(layouts_read_same_frame 0x360 [0x0D, 0xAC] (by decide) "360" rfl (some "can0") hcan0
      (some "1700000000.5") (fun _ h => by cases h; exact ⟨_, rfl⟩) _).1 "0DAC"
      (by decide +kernel) (by decide +kernel),
    (layouts_read_same_frame 0x360 [0x0D, 0xAC] (by decide) "360" rfl (some "can0") hcan0
      none (fun _ h => by cases h) _).2 ["0D", "AC"] hBs (by decide +kernel) (by decide +kernel)⟩

end Log

end CanDecoder
