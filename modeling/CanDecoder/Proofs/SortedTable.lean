import CanDecoder.Schema.Yaml

/-! Frame tables read from documents are ordered maps: their keys ascend strictly, and a
later field replaces an earlier one with the same key. Both readers build them with the
same sorted insertion, the JSON reader for every object and for the root's fields, the
YAML reader for every table it reads, so iterating a table visits its keys in ascending
order whatever the order of the document.

The YAML reader threads a count of followed aliases through its reads; what it gives is
described by postconditions on its successful runs (`Yaml.Ensures`), which carry through
binds and loops, so the sortedness of every table it reads follows one read at a time. -/

namespace CanDecoder

/-- A table whose keys ascend strictly. -/
def KeysAscending {α : Type} (t : List (String × α)) : Prop := t.Pairwise fun a b => a.1 < b.1

theorem keysAscending_nil {α : Type} : KeysAscending ([] : List (String × α)) := List.Pairwise.nil

namespace Yaml

variable {α : Type}

theorem mem_insertSorted {key : String} {v : α} {b : String × α} :
    ∀ {l : List (String × α)}, b ∈ insertSorted key v l → b = (key, v) ∨ b ∈ l
  | [], h => by simpa [insertSorted] using h
  | (k, w) :: rest, h => by
    unfold insertSorted at h
    split at h
    · simpa using h
    · split at h
      · simp only [List.mem_cons] at h ⊢
        rcases h with h | h
        · exact .inl h
        · exact .inr (.inr h)
      · simp only [List.mem_cons] at h ⊢
        rcases h with h | h
        · exact .inr (.inl h)
        · rcases mem_insertSorted h with h | h
          · exact .inl h
          · exact .inr (.inr h)

/-- Sorted insertion keeps the keys strictly ascending. -/
theorem insertSorted_keysAscending (key : String) (v : α) :
    ∀ {l : List (String × α)}, KeysAscending l → KeysAscending (insertSorted key v l)
  | [], _ => List.pairwise_singleton _ _
  | (k, w) :: rest, hl => by
    obtain ⟨hk, hrest⟩ := List.pairwise_cons.mp hl
    unfold insertSorted
    split
    · rename_i hlt
      refine List.Pairwise.cons ?_ hl
      intro b hb
      rcases List.mem_cons.mp hb with rfl | hb
      · exact hlt
      · exact String.lt_trans hlt (hk b hb)
    · split
      · rename_i heq
        subst heq
        exact List.Pairwise.cons hk hrest
      · rename_i hnlt hne
        have hgt : k < key := Std.lt_of_le_of_ne (String.not_lt.mp hnlt) (Ne.symm hne)
        refine List.Pairwise.cons ?_ (insertSorted_keysAscending key v hrest)
        intro b hb
        rcases mem_insertSorted hb with rfl | hb
        · exact hgt
        · exact hk b hb

/-- Looking a key up after a sorted insertion finds the inserted value for that key and
the old table's value for every other. -/
theorem lookup_insertSorted (key k : String) (v : α) :
    ∀ l : List (String × α), (insertSorted key v l).lookup k = if k = key then some v else l.lookup k
  | [] => by
    by_cases h : k = key
    · subst h
      simp [insertSorted]
    · simp [insertSorted, List.lookup_cons, h, beq_eq_false_iff_ne.mpr h]
  | (k', w) :: rest => by
    unfold insertSorted
    -- split on where the key goes, then on whether it is the key looked up
    split
    · by_cases h : k = key
      · subst h
        simp
      · simp [List.lookup_cons, h, beq_eq_false_iff_ne.mpr h]
    · split
      · rename_i heq
        subst heq
        by_cases h : k = key
        · subst h
          simp
        · simp [List.lookup_cons, h, beq_eq_false_iff_ne.mpr h]
      · rename_i hne
        have ih := lookup_insertSorted key k v rest
        by_cases h : k = key
        · subst h
          have hk' : (k == k') = false := beq_eq_false_iff_ne.mpr hne
          simp [List.lookup_cons, hk', ih]
        · by_cases hk' : k = k'
          · subst hk'
            simp [h]
          · simp [List.lookup_cons, h, beq_eq_false_iff_ne.mpr hk', ih]

end Yaml

namespace Json

/-- The JSON reader's field insertion is the sorted insertion of tables. -/
theorem Value.insertField_eq (key : String) (v : Value) :
    ∀ l, Value.insertField key v l = Yaml.insertSorted key v l
  | [] => rfl
  | (k, w) :: rest => by
    simp only [Value.insertField, Yaml.insertSorted, insertField_eq key v rest]

/-- A value that, if it is an object, has its fields in ascending key order. -/
def Value.ObjectSorted (v : Value) : Prop := ∀ fs, v = .obj fs → KeysAscending fs

/-- The fields of an object, read after those in `acc`, ascend by key. -/
theorem fields_keysAscending (src : Source) (fuel depth : Nat) :
    ∀ (first : Bool) (acc : List (String × Value)) (i : Nat) (fs : List (String × Value)) (j : Nat),
      KeysAscending acc → fields src fuel depth first acc i = .ok (fs, j) → KeysAscending fs := by
  induction fuel with
  | zero =>
    intro first acc i fs j _ h
    simp [fields, Source.stopAt] at h
  | succ n ih =>
    intro first acc i fs j hacc h
    unfold fields at h
    dsimp only at h
    -- every branch is a fault except the closing brace and the step to the next field
    repeat' split at h
    all_goals try (simp [Source.lookAt] at h; done)
    · cases h
      exact hacc
    · refine ih false _ _ fs j ?_ h
      rw [Value.insertField_eq]
      exact Yaml.insertSorted_keysAscending _ _ hacc

private theorem map_eq_ok {α : Type} {g : α → Value} {k : α → Nat} {x : Except Fault α}
    {v : Value} {j : Nat} (h : x.map (fun a => (g a, k a)) = .ok (v, j)) :
    ∃ a, x = .ok a ∧ v = g a := by
  cases x with
  | error f => cases h
  | ok a =>
    cases h
    exact ⟨a, rfl, rfl⟩

theorem Parsed.value_ne_obj (p : Parsed) (fs : List (String × Value)) : p.value ≠ .obj fs := by
  cases p <;> nofun

/-- Every value the reader gives has its object fields in ascending key order. -/
theorem value_objectSorted (src : Source) (fuel depth i : Nat) {v : Value} {j : Nat}
    (h : value src fuel depth i = .ok (v, j)) : v.ObjectSorted := by
  cases fuel with
  | zero => simp [value, Source.stopAt] at h
  | succ n =>
    unfold value at h
    dsimp only at h
    repeat' split at h
    all_goals try (simp [Source.lookAt] at h; done)
    all_goals
      obtain ⟨a, ha, rfl⟩ := map_eq_ok h
      intro fs hfs
    -- scalars and arrays are no objects; an object's fields come from `fields`
    · cases hfs
    · cases hfs
    · cases hfs
    · exact absurd hfs (Parsed.value_ne_obj _ _)
    · cases hfs
    · cases hfs
    · cases hfs
      exact fields_keysAscending src n _ true [] _ _ _ keysAscending_nil ha
    · exact absurd hfs (Parsed.value_ne_obj _ _)

/-- Every field the root reader gives has a value with sorted object fields. -/
theorem rootFields_objectSorted (src : Source) (fuel depth : Nat) :
    ∀ (first : Bool) (acc : List Entry) (i : Nat) (es : List Entry) (j : Nat),
      (∀ e ∈ acc, e.value.ObjectSorted) → rootFields src fuel depth first acc i = .ok (es, j) →
        ∀ e ∈ es, e.value.ObjectSorted := by
  induction fuel with
  | zero =>
    intro first acc i es j _ h
    simp [rootFields, Source.stopAt] at h
  | succ n ih =>
    intro first acc i es j hacc h
    unfold rootFields at h
    dsimp only at h
    repeat' split at h
    all_goals try (simp [Source.lookAt] at h; done)
    · cases h
      simpa using hacc
    · refine ih false _ _ es j ?_ h
      intro e he
      rcases List.mem_cons.mp he with rfl | he
      · exact value_objectSorted src _ _ _ (by assumption)
      · exact hacc e he

theorem readRoot_objectSorted {text : String} {src : Source} {es : List Entry}
    (h : readRoot text = .ok (src, es)) : ∀ e ∈ es, e.value.ObjectSorted := by
  unfold readRoot at h
  dsimp only at h
  repeat' split at h
  all_goals try (simp at h; done)
  · rename_i hread
    cases h
    repeat' split at hread
    all_goals try simp [Source.lookAt] at hread
    rename_i hroot
    simp only [Except.map] at hread
    split at hread
    · cases hread
    · cases hread
      exact rootFields_objectSorted _ _ _ _ [] _ _ _ (by simp) hroot

end Json

namespace Yaml

/-- Every successful run of a reading, from any count of followed aliases, gives a result
satisfying `P`. -/
def Ensures {α : Type} (x : Reading α) (P : α → Prop) : Prop :=
  ∀ n a n', x.run n = .ok (a, n') → P a

namespace Ensures

variable {α β : Type} {P Q : α → Prop}

theorem of_forall {x : Reading α} (h : ∀ a, P a) : Ensures x P := fun _ a _ _ => h a

theorem pure {a : α} (h : P a) : Ensures (Pure.pure a : Reading α) P := by
  intro n b n' hrun
  cases hrun
  exact h

theorem throw {e : Error} : Ensures (MonadExcept.throw e : Reading α) P := by
  intro n b n' hrun
  cases hrun

theorem throw_bind {e : Error} {f : α → Reading β} {R : β → Prop} :
    Ensures (MonadExcept.throw e >>= f : Reading β) R := by
  intro n b n' hrun
  cases hrun

theorem bind {x : Reading α} {f : α → Reading β} {R : β → Prop} (hx : Ensures x Q)
    (hf : ∀ a, Q a → Ensures (f a) R) : Ensures (x >>= f) R := by
  intro n b n' hrun
  rw [StateT.run_bind] at hrun
  cases hxr : x.run n with
  | error e =>
    rw [hxr] at hrun
    cases hrun
  | ok r =>
    rw [hxr] at hrun
    exact hf r.1 (hx n r.1 r.2 hxr) r.2 b n' hrun

/-- A step whose result is not looked at. -/
theorem bind_of_forall {x : Reading α} {f : α → Reading β} {R : β → Prop}
    (hf : ∀ a, Ensures (f a) R) : Ensures (x >>= f) R :=
  bind (of_forall fun _ => trivial) fun a _ => hf a

/-- A loop whose body keeps `I` ends in a state satisfying `I`, also when it breaks. -/
theorem forIn_list {γ : Type} (I : α → Prop) (f : γ → α → Reading (ForInStep α))
    (hf : ∀ x b, I b → Ensures (f x b) fun s => I s.value) :
    ∀ (l : List γ) {b : α}, I b → Ensures (forIn l b f) I
  | [], b, hb => by
    rw [List.forIn_nil]
    exact pure hb
  | x :: xs, b, hb => by
    rw [List.forIn_cons]
    refine bind (hf x b hb) fun s hs => ?_
    cases s with
    | done b' => exact pure hs
    | yield b' => exact forIn_list I f hf xs hs

theorem forIn_range {n : Nat} (I : α → Prop) (f : Nat → α → Reading (ForInStep α))
    (hf : ∀ x b, I b → Ensures (f x b) fun s => I s.value) {b : α} (hb : I b) :
    Ensures (forIn [0:n] b f) I := by
  rw [Std.Legacy.Range.forIn_eq_forIn_range']
  exact forIn_list I f hf _ hb

end Ensures

namespace Document

/-- Reading a mapping entry by entry keeps what every entry keeps. -/
theorem readEntries_ensures {σ : Type} (d : Document) (path : Path) (depth i : Nat) (place : Mark)
    (start : σ) (onEntry : σ → String → Nat → Path → Reading (σ × Nat)) (I : σ → Prop)
    (hstart : I start)
    (hentry : ∀ acc k pos valuePath, I acc → Ensures (onEntry acc k pos valuePath) fun r => I r.1) :
    Ensures (d.readEntries path depth i place start onEntry) fun r => I r.1 := by
  unfold readEntries
  split
  · exact Ensures.throw_bind
  · refine Ensures.bind (Ensures.forIn_range (fun s => I s.1) _ ?_ hstart) fun s hs => ?_
    · intro _ s hs
      refine Ensures.bind_of_forall fun ⟨next, _⟩ => ?_
      dsimp only
      -- the end of the mapping breaks off; any other event is an entry
      split
      · exact Ensures.pure hs
      · exact Ensures.pure hs
      · refine Ensures.bind_of_forall fun ⟨k, afterKey⟩ => ?_
        refine Ensures.bind (hentry s.1 k afterKey _ hs) fun ⟨acc', after⟩ hr => ?_
        exact Ensures.pure hr
    · exact Ensures.bind_of_forall fun _ => Ensures.pure hs

/-- Every table read has strictly ascending keys. -/
theorem readTable_keysAscending (d : Document) :
    ∀ fuel path depth i, Ensures (d.readTable fuel path depth i) fun r => KeysAscending r.1
  | 0, _, _, _ => by
    unfold readTable
    exact Ensures.bind_of_forall fun _ => Ensures.throw
  | fuel + 1, path, depth, i => by
    unfold readTable
    refine Ensures.bind_of_forall fun ⟨node, place⟩ => ?_
    dsimp only
    split
    · -- an alias: the table read where its anchor stands
      refine Ensures.bind_of_forall fun j => ?_
      exact Ensures.bind (readTable_keysAscending d fuel _ depth j) fun _ h => Ensures.pure h
    · -- a mapping: every entry is put in by sorted insertion
      refine readEntries_ensures d _ _ _ _ [] _ KeysAscending keysAscending_nil ?_
      intro table key pos valuePath htable
      exact Ensures.bind_of_forall fun _ => Ensures.pure (insertSorted_keysAscending _ _ htable)
    · split
      · exact Ensures.pure keysAscending_nil
      · exact Ensures.throw
    · exact Ensures.pure keysAscending_nil
    · exact Ensures.throw

/-- The table of a `frames` field, if read, has strictly ascending keys. -/
theorem readFramesField_keysAscending (d : Document) :
    ∀ fuel path depth i, Ensures (d.readFramesField fuel path depth i)
      fun r => ∀ t, r.1 = some t → KeysAscending t
  | 0, _, _, _ => by
    unfold readFramesField
    exact Ensures.bind_of_forall fun _ => Ensures.throw
  | fuel + 1, path, depth, i => by
    unfold readFramesField
    refine Ensures.bind_of_forall fun ⟨node, place⟩ => ?_
    dsimp only
    split
    · refine Ensures.bind_of_forall fun j => ?_
      exact Ensures.bind (readFramesField_keysAscending d fuel _ depth j) fun _ h => Ensures.pure h
    · refine readEntries_ensures d _ _ _ _ none _ (fun r => ∀ t, r = some t → KeysAscending t)
        (fun _ h => nomatch h) ?_
      intro frames key pos valuePath hframes
      -- the `frames` field is read as a table; any other field is skipped
      split
      · have hread : Ensures (d.readTable readFuel valuePath (depth - 1) pos >>= fun r =>
            Pure.pure (some r.1, r.2)) fun r => ∀ t, r.1 = some t → KeysAscending t :=
          Ensures.bind (readTable_keysAscending d readFuel valuePath (depth - 1) pos)
            fun r hr => Ensures.pure fun t ht => by cases ht; exact hr
        split
        · exact Ensures.throw_bind
        · exact hread
      · exact Ensures.bind_of_forall fun _ => Ensures.pure hframes
    · split
      · exact Ensures.pure fun _ h => nomatch h
      · exact Ensures.throw
    · exact Ensures.pure fun _ h => nomatch h
    · exact Ensures.throw

theorem finish_of_ensures {α : Type} (d : Document) (more : Bool) (P : α → Prop)
    {read : Reading (α × Nat)} (h : Ensures read fun r => P r.1) {a : α} (hfin : d.finish more read = .ok a) :
    P a := by
  unfold finish at hfin
  cases hread : read.run 0 with
  | error e =>
    rw [hread] at hfin
    cases hfin
  | ok r =>
    obtain ⟨⟨a', k⟩, n'⟩ := r
    rw [hread] at hfin
    dsimp only [bind, Except.bind] at hfin
    -- a syntax error or a second document fails the read; otherwise its value is kept
    have ha : a' = a := by
      split at hfin
      · cases hfin
      · split at hfin
        · cases hfin
        · cases hfin
          rfl
    exact ha ▸ h 0 (a', k) n' hread

end Document

/-- The top-level table of a YAML document has strictly ascending keys. -/
theorem rootTable_keysAscending {text : String} {E : List (String × Value)}
    (h : rootTable text = .ok E) : KeysAscending E := by
  unfold rootTable at h
  generalize Document.load text = loaded at h
  obtain ⟨d, more⟩ := loaded
  exact d.finish_of_ensures more _ (d.readTable_keysAscending _ _ _ _) h

/-- The table under a YAML document's `frames` key has strictly ascending keys. -/
theorem framesTable_keysAscending {text : String} {E : List (String × Value)}
    (h : framesTable text = .ok E) : KeysAscending E := by
  unfold framesTable at h
  dsimp only at h
  generalize Document.load text = loaded at h
  obtain ⟨d, more⟩ := loaded
  cases hframes : d.finish more (d.readFramesField Document.readFuel .root 128 0) with
  | error e =>
    rw [hframes] at h
    cases h
  | ok frames =>
    rw [hframes] at h
    have hsorted := d.finish_of_ensures more (fun r => ∀ t, r = some t → KeysAscending t)
      (d.readFramesField_keysAscending _ _ _ _) hframes
    cases frames with
    | none => cases h
    | some t =>
      cases h
      exact hsorted _ rfl

end Yaml

end CanDecoder
