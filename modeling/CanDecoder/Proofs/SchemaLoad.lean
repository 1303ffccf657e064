import CanDecoder.Proofs.SortedTable
import Mathlib

/-! Loading a definition document into a schema, with any deserializers of its format that
behave as documented. The top level of a document holds key-value pairs. The top-level
reader collects them as an ordered map, a later pair replacing an earlier one with the
same key; the reader of the nested shape succeeds exactly when one pair is named `frames`
and its value reads as a map, and then gives that map, ordered. So loading takes the
top-level map when no pair is named `frames`, and otherwise the map under the one `frames`
pair, every other pair ignored; a repeated `frames` pair, or one whose value is no map,
is a read error of the format.

From the map, keys that name no frame identifier and entries that do not read are skipped;
every other key adds its frame, replacing any frame with the same identifier. Since the
map is iterated in ascending key order, the frame of an identifier named by several keys
(`0x360`, `360`, `0X0360`) comes from the greatest of them, whatever their order in the
document. A map that yields no frame is an error. The JSON readers of this library behave
as documented on every document whose root is an object. -/

namespace CanDecoder

/-- Key `k` of a frame table names frame `id`, and its entry reads as `e`. -/
def Yields (table : List (String × Option FrameEntry)) (k : String) (id : FrameId)
    (e : FrameEntry) : Prop :=
  (k, some e) ∈ table ∧ FrameId.parse? k = some id

/-- What loading a frame table gives, channel items read by `read`: an error exactly when
no key yields a frame; otherwise a schema with the identifiers the keys yield, the frame
of each built from the greatest key that yields it, with the entry's name, rate and
readable channels. -/
structure LoadsAs (read : Json.Value → Option ChannelEntry)
    (table : List (String × Option FrameEntry)) (r : Except Error Schema) : Prop where
  empty_iff : r = .error .emptySchema ↔ ∀ k id e, ¬Yields table k id e
  loads : (∃ k id e, Yields table k id e) → ∃ s, r = .ok s ∧
    (∀ id, id ∈ s.ids ↔ ∃ k e, Yields table k id e) ∧
    ∀ id f, s.find? id = some f ↔ ∃ k e, Yields table k id e ∧
      f = ⟨id, e.name, e.rate, e.channels.filterMap (Channel.ofItem? read)⟩ ∧
      ∀ k' e', Yields table k' id e' → k' ≤ k

namespace Schema

theorem find?_insertFrame (f : Frame) (id : FrameId) :
    ∀ fs : List Frame, (insertFrame f fs).find? (·.id == id) =
      if f.id = id then some f else fs.find? (·.id == id)
  | [] => by
    by_cases h : f.id = id <;> simp [insertFrame, h]
  | g :: gs => by
    unfold insertFrame
    split
    · by_cases h : f.id = id <;> simp [h]
    · split
      · rename_i heq
        by_cases h : f.id = id
        · simp [h]
        · have hg : ¬g.id = id := heq ▸ h
          simp [h, hg]
      · rename_i hne
        by_cases hg : g.id = id
        · have hf : ¬f.id = id := hg ▸ hne
          simp [hg, hf]
        · simp [hg, find?_insertFrame f id gs]

/-- Adding a frame replaces exactly the frame with its identifier. -/
theorem find?_insert (s : Schema) (f : Frame) (id : FrameId) :
    (s.insert f).find? id = if f.id = id then some f else s.find? id :=
  find?_insertFrame f id s.frames

theorem find?_empty (id : FrameId) : empty.find? id = none := rfl

theorem mem_ids_iff (s : Schema) (id : FrameId) : id ∈ s.ids ↔ (s.find? id).isSome := by
  simp [ids, find?, List.find?_isSome]

theorem frames_isEmpty_iff (s : Schema) : s.frames.isEmpty ↔ ∀ id, s.find? id = none := by
  cases h : s.frames with
  | nil => simp [find?, h]
  | cons f fs =>
    simp only [List.isEmpty_cons, Bool.false_eq_true, false_iff, not_forall]
    exact ⟨f.id, by simp [find?, h]⟩

variable (read : Json.Value → Option ChannelEntry)

/-- The frame an entry adds, if its key is an identifier and its entry reads. -/
theorem find?_addEntry (s : Schema) (k : String) (oe : Option FrameEntry) (id : FrameId) :
    (s.addEntry read (k, oe)).find? id =
      match FrameId.parse? k, oe with
      | some i, some e => if i = id then some (Frame.ofEntry read i e) else s.find? id
      | _, _ => s.find? id := by
  unfold addEntry
  split <;> simp_all [find?_insert, Frame.ofEntry]

theorem yields_cons {x : String × Option FrameEntry} {table : List (String × Option FrameEntry)}
    {k : String} {id : FrameId} {e : FrameEntry} :
    Yields (x :: table) k id e ↔ (x = (k, some e) ∧ FrameId.parse? k = some id) ∨ Yields table k id e := by
  simp only [Yields, List.mem_cons]
  constructor
  · rintro ⟨hx | hx, hk⟩
    · exact .inl ⟨hx.symm, hk⟩
    · exact .inr ⟨hx, hk⟩
  · rintro (⟨hx, hk⟩ | ⟨hx, hk⟩)
    · exact ⟨.inl hx.symm, hk⟩
    · exact ⟨.inr hx, hk⟩

theorem yields_append_singleton {x : String × Option FrameEntry}
    {table : List (String × Option FrameEntry)} {k : String} {id : FrameId} {e : FrameEntry} :
    Yields (table ++ [x]) k id e ↔ Yields table k id e ∨ (x = (k, some e) ∧ FrameId.parse? k = some id) := by
  simp only [Yields, List.mem_append, List.mem_singleton]
  constructor
  · rintro ⟨hx | hx, hk⟩
    · exact .inl ⟨hx, hk⟩
    · exact .inr ⟨hx.symm, hk⟩
  · rintro (⟨hx, hk⟩ | ⟨hx, hk⟩)
    · exact ⟨.inl hx, hk⟩
    · exact ⟨.inr hx.symm, hk⟩

/-- An identifier is missing after loading exactly when it was missing before and no key
of the table yields it. -/
theorem find?_foldl_addEntry_eq_none (id : FrameId) :
    ∀ (table : List (String × Option FrameEntry)) (s : Schema),
      (table.foldl (addEntry read) s).find? id = none ↔
        s.find? id = none ∧ ∀ k e, ¬Yields table k id e
  | [], s => by simp [Yields]
  | (k, oe) :: rest, s => by
    -- the head entry yields `id` exactly when its key names `id` and its entry reads
    have hhead : (∀ k' e', ¬((k = k' ∧ oe = some e') ∧ FrameId.parse? k' = some id)) ↔
        ∀ e', oe = some e' → FrameId.parse? k ≠ some id := by
      constructor
      · intro h e' he hk
        exact h k e' ⟨⟨rfl, he⟩, hk⟩
      · rintro h k' e' ⟨⟨rfl, he⟩, hk⟩
        exact h e' he hk
    rw [List.foldl_cons, find?_foldl_addEntry_eq_none id rest, find?_addEntry]
    simp only [yields_cons, not_or, Prod.mk.injEq, forall_and, hhead]
    cases hk : FrameId.parse? k with
    | none => simp
    | some i =>
      cases oe with
      | none => simp
      | some e =>
        by_cases hi : i = id
        · subst hi
          simp
        · simp [hi]

/-- The match of `find?_addEntry` when the entry yields nothing for `id`. -/
private theorem find?_addEntry_of_not_yields (s : Schema) (k : String) (oe : Option FrameEntry)
    (id : FrameId) (h : ¬∃ e, oe = some e ∧ FrameId.parse? k = some id) :
    (s.addEntry read (k, oe)).find? id = s.find? id := by
  rw [find?_addEntry]
  cases hk : FrameId.parse? k with
  | none => rfl
  | some i =>
    cases oe with
    | none => rfl
    | some e =>
      have hi : i ≠ id := fun hi => h ⟨e, rfl, hi ▸ hk⟩
      simp [hi]

/-- In a table whose keys ascend, the frame of an identifier comes from the greatest key
that yields it. -/
theorem find?_foldl_addEntry_of_keysAscending (id : FrameId) (f : Frame)
    (table : List (String × Option FrameEntry)) (hsorted : KeysAscending table) :
    (table.foldl (addEntry read) empty).find? id = some f ↔
      ∃ k e, Yields table k id e ∧ f = Frame.ofEntry read id e ∧
        ∀ k' e', Yields table k' id e' → k' ≤ k := by
  induction table using List.reverseRecOn with
  | nil => simp [find?_empty, Yields]
  | append_singleton t x ih =>
    obtain ⟨ht, -, hlast⟩ := List.pairwise_append.mp hsorted
    have hlt : ∀ y ∈ t, y.1 < x.1 := fun y hy => hlast y hy x (List.mem_singleton_self x)
    obtain ⟨k, oe⟩ := x
    rw [List.foldl_append, List.foldl_cons, List.foldl_nil]
    simp only [yields_append_singleton, Prod.mk.injEq]
    -- the last entry wins if it yields `id`; otherwise the entries before it decide
    by_cases hy : ∃ e, oe = some e ∧ FrameId.parse? k = some id
    · obtain ⟨e, rfl, hk⟩ := hy
      rw [find?_addEntry]
      simp only [hk, if_true, Option.some.injEq]
      constructor
      · rintro rfl
        refine ⟨k, e, .inr ⟨⟨rfl, rfl⟩, hk⟩, rfl, ?_⟩
        rintro k' e' (hy' | ⟨⟨rfl, -⟩, -⟩)
        · exact Std.le_of_lt (hlt _ hy'.1)
        · exact String.le_refl k
      · rintro ⟨k0, e0, hy0, rfl, hmax⟩
        -- a key before the last one is below it, so the greatest yielding key is the last
        rcases hy0 with hy0 | ⟨⟨rfl, he⟩, -⟩
        · exact absurd (hmax k e (.inr ⟨⟨rfl, rfl⟩, hk⟩)) (String.not_le.mpr (hlt _ hy0.1))
        · cases he
          rfl
    · have hnone : ∀ k' e', ¬((k = k' ∧ oe = some e') ∧ FrameId.parse? k' = some id) := by
        rintro k' e' ⟨⟨rfl, he⟩, hk⟩
        exact hy ⟨e', he, hk⟩
      rw [find?_addEntry_of_not_yields read _ k oe id hy, ih ht]
      simp only [hnone, or_false]

end Schema

/-- Loading a table whose keys ascend does what `LoadsAs` says. -/
theorem Schema.ofTable_loadsAs (read : Json.Value → Option ChannelEntry)
    (table : List (String × Option FrameEntry)) (hsorted : KeysAscending table) :
    LoadsAs read table (Schema.ofTable read table) := by
  let s := table.foldl (Schema.addEntry read) Schema.empty
  have hnone : ∀ id, s.find? id = none ↔ ∀ k e, ¬Yields table k id e := fun id => by
    simpa [Schema.find?_empty] using Schema.find?_foldl_addEntry_eq_none read id table Schema.empty
  have hempty : s.frames.isEmpty ↔ ∀ k id e, ¬Yields table k id e := by
    rw [Schema.frames_isEmpty_iff]
    exact ⟨fun h k id e => (hnone id).mp (h id) k e, fun h id => (hnone id).mpr fun k e => h k id e⟩
  have hload : Schema.ofTable read table =
      if s.frames.isEmpty then .error .emptySchema else .ok s := rfl
  refine ⟨?_, ?_⟩
  · rw [hload, ← hempty]
    by_cases h : s.frames.isEmpty <;> simp [h]
  · rintro ⟨k, id, e, hy⟩
    have h : s.frames.isEmpty = false := by
      rw [Bool.eq_false_iff]
      exact fun he => hempty.mp he k id e hy
    refine ⟨s, by rw [hload, h]; rfl, fun id => ?_, fun id f => ?_⟩
    · rw [Schema.mem_ids_iff, Option.isSome_iff_ne_none, ne_eq, hnone]
      simp only [not_forall, not_not]
    · exact Schema.find?_foldl_addEntry_of_keysAscending read id f table hsorted

theorem keysAscending_map {α β : Type} (f : α → β) {t : List (String × α)} (h : KeysAscending t) :
    KeysAscending (t.map fun p => (p.1, f p.2)) := by
  refine List.pairwise_map.mpr (h.imp ?_)
  rintro ⟨k, v⟩ ⟨k', v'⟩ hlt
  exact hlt

/-- A top-level map whose keys ascend loads as `LoadsAs` says of its entries read. -/
theorem Schema.ofEntries_loadsAs {V E : Type} (r : Readers V E) {entries : List (String × V)}
    (hsorted : KeysAscending entries) :
    LoadsAs r.channel (entries.map fun p => (p.1, r.frame p.2)) (Schema.ofEntries r entries) :=
  Schema.ofTable_loadsAs r.channel _ (keysAscending_map r.frame hsorted)

/-! ### The top-level map of a document -/

section Pairs

variable {V : Type}

/-- The ordered map collected from key-value pairs in order: keys ascend, and a later pair
replaces an earlier one with the same key. -/
def keyMap (pairs : List (String × V)) : List (String × V) :=
  pairs.foldl (fun m p => Yaml.insertSorted p.1 p.2 m) []

/-- The values of the pairs named `frames`, in order. -/
def framesValues (pairs : List (String × V)) : List V :=
  (pairs.filter fun p => p.1 == "frames").map (·.2)

/-- The map under the one pair named `frames`, when there is exactly one and `asMap` reads
its value as the pairs of a map. -/
def nestedMap (asMap : V → Option (List (String × V))) (pairs : List (String × V)) :
    Option (List (String × V)) :=
  match framesValues pairs with
  | [v] => (asMap v).map keyMap
  | _ => none

theorem nestedMap_of_eq_singleton (asMap : V → Option (List (String × V)))
    {pairs : List (String × V)} {v : V} (h : framesValues pairs = [v]) :
    nestedMap asMap pairs = (asMap v).map keyMap := by
  rw [nestedMap, h]

theorem nestedMap_eq_none (asMap : V → Option (List (String × V))) {pairs : List (String × V)}
    (h : ∀ v, framesValues pairs ≠ [v]) : nestedMap asMap pairs = none := by
  unfold nestedMap
  split
  case _ v hv => exact absurd hv (h v)
  case _ => rfl

theorem keysAscending_foldl_insertSorted :
    ∀ (pairs : List (String × V)) {acc : List (String × V)}, KeysAscending acc →
      KeysAscending (pairs.foldl (fun m p => Yaml.insertSorted p.1 p.2 m) acc)
  | [], _, h => h
  | p :: ps, _, h => keysAscending_foldl_insertSorted ps (Yaml.insertSorted_keysAscending p.1 p.2 h)

theorem keyMap_keysAscending (pairs : List (String × V)) : KeysAscending (keyMap pairs) :=
  keysAscending_foldl_insertSorted pairs keysAscending_nil

theorem lookup_foldl_insertSorted_eq_none (k : String) :
    ∀ (pairs acc : List (String × V)),
      (pairs.foldl (fun m p => Yaml.insertSorted p.1 p.2 m) acc).lookup k = none ↔
        acc.lookup k = none ∧ ∀ p ∈ pairs, p.1 ≠ k
  | [], acc => by simp
  | p :: rest, acc => by
    rw [List.foldl_cons, lookup_foldl_insertSorted_eq_none k rest, Yaml.lookup_insertSorted]
    by_cases h : k = p.1
    · simp [h]
    · simp [h, Ne.symm h]

/-- The map has a `frames` key exactly when some pair is named `frames`. -/
theorem lookup_keyMap_frames_eq_none (pairs : List (String × V)) :
    (keyMap pairs).lookup "frames" = none ↔ framesValues pairs = [] := by
  rw [keyMap, lookup_foldl_insertSorted_eq_none]
  simp [framesValues, List.filter_eq_nil_iff]

/-- Inserting a key above every key of a table appends it. -/
theorem insertSorted_of_lt {key : String} {v : V} :
    ∀ {l : List (String × V)}, (∀ p ∈ l, p.1 < key) →
      Yaml.insertSorted key v l = l ++ [(key, v)]
  | [], _ => rfl
  | (k, w) :: rest, h => by
    have hk : k < key := h (k, w) List.mem_cons_self
    have hnlt : ¬key < k := String.not_lt.mpr (Std.le_of_lt hk)
    have hne : key ≠ k := fun he => String.lt_irrefl k (he ▸ hk)
    rw [Yaml.insertSorted, if_neg hnlt, if_neg hne,
      insertSorted_of_lt fun p hp => h p (List.mem_cons_of_mem _ hp)]
    rfl

/-- Pairs whose keys already ascend are their own map. -/
theorem keyMap_of_keysAscending {pairs : List (String × V)} (h : KeysAscending pairs) :
    keyMap pairs = pairs := by
  induction pairs using List.reverseRecOn with
  | nil => rfl
  | append_singleton t x ih =>
    obtain ⟨ht, -, hlast⟩ := List.pairwise_append.mp h
    rw [keyMap, List.foldl_append, ← keyMap, ih ht, List.foldl_cons, List.foldl_nil,
      insertSorted_of_lt fun p hp => hlast p hp x (List.mem_singleton_self x)]

end Pairs

namespace Schema

variable {V E : Type} (r : Readers V E) (wrap : E → Error)

/-- With a top-level reader that collects the document's pairs as documented, loading reads
the top-level map when no pair is named `frames`, and the nested shape otherwise. -/
theorem topLevelEntries_eq {flat : String → Except E (List (String × V))}
    (nested : String → Except E (List (String × V))) {text : String}
    {pairs : List (String × V)} (hflat : flat text = .ok (keyMap pairs)) :
    topLevelEntries flat nested text =
      if framesValues pairs = [] then .ok (keyMap pairs) else nested text := by
  have hkey := lookup_keyMap_frames_eq_none pairs
  unfold topLevelEntries
  rw [hflat]
  by_cases h : framesValues pairs = []
  · have hnone : (keyMap pairs).lookup "frames" = none := hkey.mpr h
    simp [bind, Except.bind, pure, Except.pure, hnone, h]
  · have hsome : ((keyMap pairs).lookup "frames").isSome := by
      rw [Option.isSome_iff_ne_none]
      exact fun hn => h (hkey.mp hn)
    simp [bind, Except.bind, hsome, h]

theorem load_of_topLevelEntries_ok {text : String} {entries : List (String × V)}
    (h : topLevelEntries r.flat r.nested text = .ok entries) :
    load r wrap text = ofEntries r entries := by
  unfold load
  rw [h]

/-- A top-level map that reads as no map fails the load with the format's read error. -/
theorem load_of_topLevelEntries_not_ok {text : String}
    (h : ∀ entries, topLevelEntries r.flat r.nested text ≠ .ok entries) :
    ∃ e, load r wrap text = .error (wrap e) := by
  unfold load
  cases ht : topLevelEntries r.flat r.nested text with
  | error e => exact ⟨e, rfl⟩
  | ok entries => exact absurd ht (h entries)

end Schema

/-! ### The JSON readers -/

section JsonReaders

open Json

/-- The fields of an object; a value that is no object has none. -/
def Json.Value.asObject? : Value → Option (List (String × Value))
  | .obj fields => some fields
  | _ => none

/-- The root fields of a JSON document as key-value pairs, in document order. -/
def Json.rootPairs (es : List Entry) : List (String × Value) := es.map fun e => (e.key, e.value)

theorem framesValues_cons {V : Type} (p : String × V) (pairs : List (String × V)) :
    framesValues (p :: pairs) =
      if p.1 = "frames" then p.2 :: framesValues pairs else framesValues pairs := by
  by_cases h : p.1 = "frames" <;> simp [framesValues, h]

theorem rootPairs_cons (e : Entry) (es : List Entry) :
    rootPairs (e :: es) = (e.key, e.value) :: rootPairs es := rfl

/-- Once a `frames` field has been met, any further one is an error. -/
theorem framesField_true_eq_ok (src : Source) (r : Option (List (String × Value))) :
    ∀ es : List Entry,
      framesField src true es = .ok r ↔ r = none ∧ framesValues (rootPairs es) = []
  | [] => by simp [framesField, framesValues, rootPairs, eq_comm]
  | e :: rest => by
    rw [framesField, rootPairs_cons, framesValues_cons]
    by_cases h : e.key = "frames"
    · simp [h]
    · simp only [h, if_false]
      exact framesField_true_eq_ok src r rest

/-- The root's `frames` field is read only when it occurs once and holds an object. -/
theorem framesField_false_eq_ok (src : Source) (r : Option (List (String × Value))) :
    ∀ es : List Entry, framesField src false es = .ok r ↔
      (r = none ∧ framesValues (rootPairs es) = []) ∨
        (∃ fs, r = some fs ∧ framesValues (rootPairs es) = [.obj fs])
  | [] => by simp [framesField, framesValues, rootPairs, eq_comm]
  | e :: rest => by
    rw [framesField, rootPairs_cons, framesValues_cons]
    by_cases h : e.key = "frames"
    · -- the first `frames` field: it must hold an object and be the only one
      simp only [h, ↓reduceIte, Bool.false_eq_true, reduceCtorEq, and_false, false_or,
        List.cons.injEq]
      cases hv : e.value with
      | obj fields =>
        simp only [Value.obj.injEq]
        cases hn : framesField src true rest with
        | error f =>
          have hne : framesValues (rootPairs rest) ≠ [] := fun hnil => by
            have hok := (framesField_true_eq_ok src none rest).mpr ⟨rfl, hnil⟩
            rw [hn] at hok
            cases hok
          simp [hne]
        | ok r' =>
          have hnil := ((framesField_true_eq_ok src r' rest).mp hn).2
          simp [hnil, eq_comm]
      | _ => simp
    · simp only [h, if_false]
      exact framesField_false_eq_ok src r rest

theorem entriesMap_eq_keyMap (es : List Entry) : entriesMap es = keyMap (rootPairs es) := by
  rw [entriesMap, keyMap, rootPairs, List.foldl_map]
  simp only [Value.insertField_eq]

variable {text : String} {src : Source} {es : List Entry}

theorem rootMap_eq (h : readRoot text = .ok (src, es)) :
    rootMap text = .ok (keyMap (rootPairs es)) := by
  rw [rootMap, h, ← entriesMap_eq_keyMap]
  rfl

/-- The nested reader gives the object of the one root field named `frames`. -/
theorem framesMap_eq_ok_iff (h : readRoot text = .ok (src, es)) (t : List (String × Value)) :
    framesMap text = .ok t ↔ framesValues (rootPairs es) = [.obj t] := by
  have hcases := framesField_false_eq_ok src
  unfold framesMap
  rw [h]
  cases hf : framesField src false es with
  | error f =>
    -- a field that would read makes the fold succeed
    have hno : framesValues (rootPairs es) ≠ [.obj t] := fun hone => by
      have hok := (hcases (some t) es).mpr (.inr ⟨t, rfl, hone⟩)
      rw [hf] at hok
      cases hok
    simp [bind, Except.bind, throw, throwThe, MonadExceptOf.throw, hf, hno]
  | ok r =>
    cases r with
    | none =>
      have hnil := ((hcases none es).mp hf).elim (·.2) fun ⟨_, h, _⟩ => nomatch h
      simp [bind, Except.bind, throw, throwThe, MonadExceptOf.throw, hf, hnil]
    | some fs =>
      obtain ⟨hnone, -⟩ | ⟨fs', hfs, hone⟩ := (hcases (some fs) es).mp hf
      · cases hnone
      · cases hfs
        simp [bind, Except.bind, pure, Except.pure, hf, hone, eq_comm]

/-- The JSON readers behave as documented on every document whose root is an object: the
top-level reader collects the root fields as an ordered map, and the nested reader gives a
map exactly when one root field is named `frames` and holds an object, and then that
object's fields, which the value reader keeps ordered. -/
theorem Schema.jsonReaders_documented (h : readRoot text = .ok (src, es)) :
    Schema.jsonReaders.flat text = .ok (keyMap (rootPairs es)) ∧
    ∀ t, Schema.jsonReaders.nested text = .ok t ↔
      nestedMap Value.asObject? (rootPairs es) = some t := by
  -- every object held by a root field has its fields in order, so it is its own map
  have hsorted : ∀ fs, Value.obj fs ∈ framesValues (rootPairs es) → KeysAscending fs := by
    intro fs hfs
    obtain ⟨p, hp, hv⟩ := List.mem_map.mp hfs
    obtain ⟨e, he, rfl⟩ := List.mem_map.mp (List.mem_filter.mp hp).1
    exact readRoot_objectSorted h e he fs hv
  refine ⟨rootMap_eq h, fun t => ?_⟩
  rw [show Schema.jsonReaders.nested = framesMap from rfl, framesMap_eq_ok_iff h]
  constructor
  · intro hone
    rw [nestedMap_of_eq_singleton _ hone, Value.asObject?, Option.map_some,
      keyMap_of_keysAscending (hsorted t (by simp [hone]))]
  · intro hmap
    unfold nestedMap at hmap
    split at hmap
    case _ v hone =>
      cases v with
      | obj fs =>
        rw [Value.asObject?, Option.map_some, Option.some.injEq,
          keyMap_of_keysAscending (hsorted fs (by simp [hone]))] at hmap
        rw [hone, hmap]
      | _ => cases hmap
    case _ => cases hmap

end JsonReaders

/-- How a definition document loads, for readers that behave as documented on a document
whose top level holds `pairs` in order: the top-level reader collects them as an ordered
map, and the nested reader gives a map exactly when one pair is named `frames` and `asMap`
reads its value as the pairs of a map, that map ordered. Then the frame table is the
top-level map when no pair is named `frames`, and the map under the one `frames` pair
otherwise; a `frames` value that is no map, or a repeated `frames` pair, fails the load
with the format's read error. The load fails with `EmptySchema` exactly when no key of
the table names a frame whose entry reads, and otherwise gives exactly the identifiers of
such keys, each frame built from the greatest key naming it, with the entry's name and
rate and the channels of the items that read, in order. -/
theorem Schema.load_frame_table {V E : Type} (r : Schema.Readers V E) (wrap : E → Error)
    (asMap : V → Option (List (String × V))) (text : String) (pairs : List (String × V))
    (hflat : r.flat text = .ok (keyMap pairs))
    (hnested : ∀ t, r.nested text = .ok t ↔ nestedMap asMap pairs = some t) :
    match framesValues pairs with
    | [] => LoadsAs r.channel ((keyMap pairs).map fun p => (p.1, r.frame p.2))
        (Schema.load r wrap text)
    | [v] =>
      match asMap v with
      | some fields => LoadsAs r.channel ((keyMap fields).map fun p => (p.1, r.frame p.2))
          (Schema.load r wrap text)
      | none => ∃ e, Schema.load r wrap text = .error (wrap e)
    | _ => ∃ e, Schema.load r wrap text = .error (wrap e) := by
  have htop := Schema.topLevelEntries_eq r.nested hflat
  -- once a `frames` pair is there, the load is the nested read's
  have hnestedRead : framesValues pairs ≠ [] → nestedMap asMap pairs = none →
      ∃ e, Schema.load r wrap text = .error (wrap e) := fun hne hnone =>
    Schema.load_of_topLevelEntries_not_ok r wrap fun t ht => by
      rw [htop, if_neg hne, hnested, hnone] at ht
      cases ht
  split
  case _ hnil =>
    rw [Schema.load_of_topLevelEntries_ok r wrap (by rw [htop, if_pos hnil])]
    exact Schema.ofEntries_loadsAs r (keyMap_keysAscending pairs)
  case _ v hone =>
    have hne : framesValues pairs ≠ [] := by simp [hone]
    split
    case _ fields hfields =>
      have hread : r.nested text = .ok (keyMap fields) := by
        rw [hnested, nestedMap_of_eq_singleton asMap hone, hfields, Option.map_some]
      rw [Schema.load_of_topLevelEntries_ok r wrap (by rw [htop, if_neg hne, hread])]
      exact Schema.ofEntries_loadsAs r (keyMap_keysAscending fields)
    case _ hfields =>
      exact hnestedRead hne (by rw [nestedMap_of_eq_singleton asMap hone, hfields, Option.map_none])
  case _ hnil hone => exact hnestedRead hnil (nestedMap_eq_none asMap hone)

/-- A document whose frame table sits under `frames`, beside another field, and names frame
`0x360` by two keys: the JSON readers read it as documented, and it loads from the table
under `frames`. -/
theorem Schema.nested_frames_table_loads :
    Schema.jsonReaders.flat
        "\x7b\"version\": 1, \"frames\": \x7b\"360\": \x7b\"name\": \"A\"\x7d, \"0x360\": \x7b\x7d\x7d\x7d" =
      .ok (keyMap [("version", .num (.unsigned 1)),
        ("frames", .obj [("0x360", .obj []), ("360", .obj [("name", .str "A")])])]) ∧
    (∀ t, Schema.jsonReaders.nested
        "\x7b\"version\": 1, \"frames\": \x7b\"360\": \x7b\"name\": \"A\"\x7d, \"0x360\": \x7b\x7d\x7d\x7d" =
        .ok t ↔
      nestedMap Json.Value.asObject? [("version", .num (.unsigned 1)),
        ("frames", .obj [("0x360", .obj []), ("360", .obj [("name", .str "A")])])] = some t) ∧
    LoadsAs ChannelEntry.ofJson?
      ((keyMap [("0x360", Json.Value.obj []), ("360", .obj [("name", .str "A")])]).map
        fun p => (p.1, FrameEntry.ofJson? p.2))
      (Schema.ofJson
        "\x7b\"version\": 1, \"frames\": \x7b\"360\": \x7b\"name\": \"A\"\x7d, \"0x360\": \x7b\x7d\x7d\x7d") := by
  have hflat : Schema.jsonReaders.flat
      "\x7b\"version\": 1, \"frames\": \x7b\"360\": \x7b\"name\": \"A\"\x7d, \"0x360\": \x7b\x7d\x7d\x7d" =
      .ok (keyMap [("version", .num (.unsigned 1)),
        ("frames", .obj [("0x360", .obj []), ("360", .obj [("name", .str "A")])])]) := by
    cbv
  have hread : Schema.jsonReaders.nested
      "\x7b\"version\": 1, \"frames\": \x7b\"360\": \x7b\"name\": \"A\"\x7d, \"0x360\": \x7b\x7d\x7d\x7d" =
      .ok [("0x360", .obj []), ("360", .obj [("name", .str "A")])] := by
    cbv
  have hmap : nestedMap Json.Value.asObject? [("version", .num (.unsigned 1)),
      ("frames", .obj [("0x360", .obj []), ("360", .obj [("name", .str "A")])])] =
      some [("0x360", .obj []), ("360", .obj [("name", .str "A")])] := by
    cbv
  have hload := Schema.load_frame_table Schema.jsonReaders .json Json.Value.asObject? _ _ hflat
    fun t => by rw [hread, hmap, Except.ok.injEq, Option.some.injEq]
  exact ⟨hflat, fun t => by rw [hread, hmap, Except.ok.injEq, Option.some.injEq], hload⟩

/-- A document that gives its frame table twice is refused as malformed JSON, though each
table alone loads. -/
theorem Schema.repeated_frames_field_refused :
    (match Schema.ofJson
        "\x7b\"frames\": \x7b\"0x360\": \x7b\x7d\x7d, \"frames\": \x7b\"0x361\": \x7b\x7d\x7d\x7d" with
      | .error (.json _) => true
      | _ => false) = true ∧
    (Schema.ofJson "\x7b\"frames\": \x7b\"0x361\": \x7b\x7d\x7d\x7d").toBool = true := by
  decide +kernel

end CanDecoder
