import CanDecoder.Schema.Yaml

/-! Channel items of a frame entry. A frame reader that turns each channel item into a JSON
value while it reads the entry keeps the entry readable, when one item is replaced, exactly
when the new item has a JSON value; a top-level map then loads with that item replaced, or
without the entry's frame at all. The frame built from an entry changes only in the
replaced item's place. Replacing one channel item of a JSON frame entry by any value leaves
whether the entry reads unchanged. A YAML frame entry turns all its channel items into JSON
values, so there a tagged item, or a mapping with a key that is no string, makes the whole
entry unreadable. -/

namespace CanDecoder

/-- A field list with the value of its `channels` field changed by `f`. -/
def mapChannelsField {β : Type} (f : β → β) (fields : List (String × β)) : List (String × β) :=
  fields.map fun p => (p.1, if p.1 = "channels" then f p.2 else p.2)

section ChannelsField

variable {α β : Type} (f : β → β)

theorem lookup_mapChannelsField (k : String) :
    ∀ fields : List (String × β),
      (mapChannelsField f fields).lookup k = (fields.lookup k).map fun v => if k = "channels" then f v else v
  | [] => rfl
  | (k', v) :: rest => by
    by_cases h : k = k'
    · subst h
      simp [mapChannelsField]
    · have ih := lookup_mapChannelsField k rest
      simp only [mapChannelsField] at ih
      simp [mapChannelsField, List.lookup_cons, beq_eq_false_iff_ne.mpr h, ih]

/-- Fields other than the channel list read as before. -/
theorem optionalField_mapChannelsField_of_ne (fields : List (String × β)) (key : String)
    (h : key ≠ "channels") (default : α) (read : β → Option α) :
    optionalField (mapChannelsField f fields) key default read = optionalField fields key default read := by
  simp only [optionalField, lookup_mapChannelsField, if_neg h]
  cases fields.lookup key <;> rfl

/-- The channel list reads through `f`. -/
theorem optionalField_mapChannelsField (fields : List (String × β)) (default : α) (read : β → Option α) :
    optionalField (mapChannelsField f fields) "channels" default read =
      optionalField fields "channels" default fun v => read (f v) := by
  simp only [optionalField, lookup_mapChannelsField, if_true]
  cases fields.lookup "channels" <;> rfl

end ChannelsField

namespace Json.Value

/-- The array value with item `i` replaced by `w`; any other value is left alone. -/
def setItem (v : Value) (i : Nat) (w : Value) : Value :=
  match v with
  | .arr items => .arr (items.set i w)
  | v => v

/-- A frame value with item `i` of its channel list replaced by `w`: the array under the
`channels` field of an object, or the third item of a positional entry. -/
def setChannel (v : Value) (i : Nat) (w : Value) : Value :=
  match v with
  | .obj fields => .obj (mapChannelsField (fun c => c.setItem i w) fields)
  | .arr items => .arr (items.modify 2 fun c => c.setItem i w)
  | v => v

theorem asList?_setItem (i : Nat) (w : Value) :
    ∀ v : Value, (v.setItem i w).asList? = v.asList?.map fun l => l.set i w
  | .arr _ => rfl
  | .null | .bool _ | .num _ | .str _ | .obj _ => rfl

end Json.Value

/-- The entry with channel item `i` replaced by `w`. -/
def FrameEntry.setChannel (e : FrameEntry) (i : Nat) (w : Json.Value) : FrameEntry :=
  { e with channels := e.channels.set i w }

section JsonEntries

open Json

/-- A channel list, absent or an array, reads with item `i` replaced. -/
theorem optionalField_channels_setItem (i : Nat) (w : Value) (fields : List (String × Value)) :
    optionalField fields "channels" [] (fun v => (v.setItem i w).asList?) =
      (optionalField fields "channels" [] Value.asList?).map fun l => l.set i w := by
  unfold optionalField
  cases fields.lookup "channels" with
  | none => rfl
  | some v => exact Value.asList?_setItem i w v

/-- The channel list of a positional entry, absent or an array, reads with item `i` replaced. -/
theorem positional_channels_setChannel (i : Nat) (w : Value) (items : List Value) :
    positional (items.modify 2 fun c => c.setItem i w) 2 (some []) Value.asList? =
      (positional items 2 (some []) Value.asList?).map fun l => l.set i w := by
  simp only [positional, List.getElem?_modify, if_true]
  cases items[2]? with
  | none => rfl
  | some v => exact Value.asList?_setItem i w v

/-- Items of a positional entry other than the channel list read as before. -/
theorem positional_setChannel_of_ne {α : Type} (i : Nat) (w : Value) (items : List Value) (j : Nat)
    (h : j ≠ 2) (default : Option α) (read : Value → Option α) :
    positional (items.modify 2 fun c => c.setItem i w) j default read =
      positional items j default read := by
  simp only [positional, List.getElem?_modify, if_neg (Ne.symm h)]
  cases items[j]? <;> rfl

/-- Reading an entry's name, rate and channel list, with the list changed by `g`, is reading
them and changing the entry's list. -/
theorem readEntry_map_channels (name : Option String) (rate : Option Nat)
    (channels : Option (List Value)) (g : List Value → List Value) :
    (do
      let n ← name
      let r ← rate
      let c ← channels.map g
      pure (⟨n, r, c⟩ : FrameEntry)) =
    (do
      let n ← name
      let r ← rate
      let c ← channels
      pure (⟨n, r, c⟩ : FrameEntry)).map fun (e : FrameEntry) => { e with channels := g e.channels } := by
  cases name <;> cases rate <;> cases channels <;> rfl

/-- Whether a JSON frame entry reads never depends on its channel items: with one item
replaced, it reads exactly when it did, with that item replaced. -/
theorem FrameEntry.ofJson?_setChannel (i : Nat) (w : Value) :
    ∀ v : Value, FrameEntry.ofJson? (v.setChannel i w) = (FrameEntry.ofJson? v).map (·.setChannel i w)
  | .obj fields => by
    simp only [Value.setChannel, FrameEntry.ofJson?]
    rw [optionalField_mapChannelsField_of_ne _ fields "name" (by decide),
      optionalField_mapChannelsField_of_ne _ fields "rate_hz" (by decide),
      optionalField_mapChannelsField, optionalField_channels_setItem]
    exact readEntry_map_channels _ _ _ _
  | .arr items => by
    simp only [Value.setChannel, FrameEntry.ofJson?, List.length_modify,
      positional_setChannel_of_ne i w items 0 (by decide),
      positional_setChannel_of_ne i w items 1 (by decide), positional_channels_setChannel]
    -- an entry of more than three items reads neither way
    split
    · rfl
    · exact readEntry_map_channels _ _ _ _
  | .null | .bool _ | .num _ | .str _ => rfl

/-- Replacing channel item `i` of an entry changes the frame built from it only in that
item's place: the frame keeps its identifier, name and rate, and the channels read from the
items before and after it. -/
theorem Frame.ofEntry_setChannel (read : Value → Option ChannelEntry) (id : FrameId)
    (e : FrameEntry) {i : Nat} (hi : i < e.channels.length) (w : Value) :
    Frame.ofEntry read id (e.setChannel i w) =
      { Frame.ofEntry read id e with
        channels := (e.channels.take i).filterMap (Channel.ofItem? read) ++
          (Channel.ofItem? read w).toList ++
          (e.channels.drop (i + 1)).filterMap (Channel.ofItem? read) } := by
  simp only [Frame.ofEntry, FrameEntry.setChannel, List.set_eq_take_append_cons_drop, if_pos hi,
    List.filterMap_append, List.filterMap_cons]
  cases Channel.ofItem? read w <;> simp

end JsonEntries

namespace Yaml.Value

/-- The sequence under any tags with item `i` replaced by `w`; any other value is left
alone. -/
def setItem (v : Value) (i : Nat) (w : Value) : Value :=
  match v with
  | .seq items => .seq (items.set i w)
  | .tagged t v => .tagged t (v.setItem i w)
  | v => v

/-- A frame value under any tags with item `i` of its channel sequence replaced by `w`. -/
def setChannel (v : Value) (i : Nat) (w : Value) : Value :=
  match v with
  | .map entries =>
    .map (entries.map fun p => (p.1, if p.1.asString? = some "channels" then p.2.setItem i w else p.2))
  | .tagged t v => .tagged t (v.setChannel i w)
  | v => v

theorem untag_setChannel (i : Nat) (w : Value) : ∀ v : Value, (v.setChannel i w).untag = v.untag.setChannel i w
  | .tagged _ v => untag_setChannel i w v
  | .null | .bool _ | .natural _ | .negative _ | .float _ | .str _ | .seq _ | .map _ => rfl

/-- A sequence converts exactly when its first item and the rest do. -/
theorem itemsToJson?_cons_eq_some {v : Value} {vs : List Value} {js : List Json.Value} :
    itemsToJson? (v :: vs) = some js ↔
      ∃ j js', toJson? v = some j ∧ itemsToJson? vs = some js' ∧ js = j :: js' := by
  cases hv : toJson? v <;> cases hvs : itemsToJson? vs <;>
    simp [itemsToJson?, hv, hvs, eq_comm]

theorem itemsToJson?_length : ∀ {items : List Value} {js : List Json.Value},
    itemsToJson? items = some js → js.length = items.length
  | [], js, h => by
    cases h
    rfl
  | v :: vs, js, h => by
    obtain ⟨j, js', -, hvs, rfl⟩ := itemsToJson?_cons_eq_some.mp h
    simp [itemsToJson?_length hvs]

/-- In a sequence whose items all convert, replacing item `i` keeps it converting exactly
when the new item converts. -/
theorem itemsToJson?_set (w : Value) : ∀ {items : List Value} {js : List Json.Value} {i : Nat},
    itemsToJson? items = some js → i < items.length →
      itemsToJson? (items.set i w) = (toJson? w).map fun j => js.set i j
  | [], _, _, _, hi => absurd hi (Nat.not_lt_zero _)
  | v :: vs, js, i, h, hi => by
    obtain ⟨j, js', hv, hvs, rfl⟩ := itemsToJson?_cons_eq_some.mp h
    cases i with
    | zero =>
      cases hw : toJson? w <;> simp [itemsToJson?, hw, hvs]
    | succ k =>
      have ih := itemsToJson?_set w hvs (Nat.lt_of_succ_lt_succ hi)
      cases hw : toJson? w <;> simp_all [itemsToJson?]

/-- The channel items of a frame value, when they all convert, convert after item `i` is
replaced exactly when the new item does. -/
theorem asJsonItems?_setItem (w : Value) {i : Nat} : ∀ {v : Value} {js : List Json.Value},
    v.asJsonItems? = some js → i < js.length →
      (v.setItem i w).asJsonItems? = (toJson? w).map fun j => js.set i j
  | .tagged _ v, js, h, hi => @asJsonItems?_setItem w i v js h hi
  | .seq items, _, h, hi => itemsToJson?_set w h (itemsToJson?_length h ▸ hi)
  | .null, js, h, hi => by
    cases h
    exact absurd hi (Nat.not_lt_zero _)
  | .bool _, _, h, _ | .natural _, _, h, _ | .negative _, _, h, _ | .float _, _, h, _
  | .str _, _, h, _ | .map _, _, h, _ => nomatch h

end Yaml.Value

namespace FrameEntry

/-- A fold whose step commutes with `m` on the state and `g` on the items commutes with
them as a whole. -/
theorem foldlM_map_of_comm {σ τ : Type} (step : σ → τ → Option σ) (m : σ → σ) (g : τ → τ)
    (hstep : ∀ acc x, step (m acc) (g x) = (step acc x).map m) :
    ∀ (l : List τ) (acc : σ), (l.map g).foldlM step (m acc) = (l.foldlM step acc).map m
  | [], _ => rfl
  | x :: xs, acc => by
    simp only [List.map_cons, List.foldlM_cons, hstep]
    cases step acc x with
    | none => rfl
    | some acc' => exact foldlM_map_of_comm step m g hstep xs acc'

/-- A YAML frame value's fields, read with item `i` of its channel sequence replaced, are
the fields read with the channel sequence's item replaced. -/
theorem yamlFields?_setChannel (i : Nat) (w : Yaml.Value) (entries : List (Yaml.Value × Yaml.Value)) :
    yamlFields? (entries.map fun p =>
        (p.1, if p.1.asString? = some "channels" then p.2.setItem i w else p.2)) =
      (yamlFields? entries).map (mapChannelsField fun c => c.setItem i w) := by
  unfold yamlFields?
  refine foldlM_map_of_comm _ (mapChannelsField fun (c : Yaml.Value) => c.setItem i w) _ ?_ entries []
  intro acc ⟨k, v⟩
  dsimp only
  -- a field keeps its key, so the same keys are refused as repeated
  cases hu : k.untag with
  | str key =>
    have hkey : k.asString? = some key := by simp [Yaml.Value.asString?, hu]
    have hseen : ((mapChannelsField (fun (c : Yaml.Value) => c.setItem i w) acc).lookup key).isSome =
        (acc.lookup key).isSome := by
      rw [lookup_mapChannelsField, Option.isSome_map]
    rw [hkey]
    dsimp only
    rw [hseen]
    split
    · rfl
    · simp [mapChannelsField]
  | _ => rfl

/-- The channel sequence of a YAML frame value whose items all convert, read with item `i`
replaced. -/
theorem optionalField_yamlChannels_setItem {fields : List (String × Yaml.Value)} {js : List Json.Value}
    (h : optionalField fields "channels" [] Yaml.Value.asJsonItems? = some js) {i : Nat}
    (hi : i < js.length) (w : Yaml.Value) :
    optionalField fields "channels" [] (fun c => (c.setItem i w).asJsonItems?) =
      (w.toJson?).map fun j => js.set i j := by
  unfold optionalField at h ⊢
  cases hc : fields.lookup "channels" with
  | none =>
    rw [hc] at h
    cases h
    exact absurd hi (Nat.not_lt_zero _)
  | some c =>
    rw [hc] at h
    exact Yaml.Value.asJsonItems?_setItem w h hi

/-- A YAML frame entry that reads keeps reading, with channel item `i` replaced, exactly
when the new item has a JSON value. -/
theorem ofYaml?_setChannel {v : Yaml.Value} {e : FrameEntry} (he : ofYaml? v = some e)
    {i : Nat} (hi : i < e.channels.length) (w : Yaml.Value) :
    ofYaml? (v.setChannel i w) = (w.toJson?).map (e.setChannel i) := by
  unfold ofYaml? at he ⊢
  rw [Yaml.Value.untag_setChannel]
  cases hu : v.untag with
  | map entries =>
    rw [hu] at he
    simp only [Yaml.Value.setChannel, yamlFields?_setChannel]
    simp only [Option.bind_eq_bind, Option.bind_eq_some_iff, Option.pure_def, Option.some.injEq] at he
    obtain ⟨fields, hf, name, hn, rate, hr, js, hc, rfl⟩ := he
    rw [hf, Option.map_some, Option.bind_eq_bind, Option.bind_some,
      optionalField_mapChannelsField_of_ne _ fields "name" (by decide),
      optionalField_mapChannelsField_of_ne _ fields "rate_hz" (by decide), hn, hr,
      optionalField_mapChannelsField, optionalField_yamlChannels_setItem hc hi w]
    cases w.toJson? <;> rfl
  | null =>
    -- an empty entry has no channel to replace
    rw [hu] at he
    simp only [Option.bind_eq_bind, Option.bind_eq_some_iff, Option.pure_def, Option.some.injEq] at he
    obtain ⟨fields, hf, name, hn, rate, hr, js, hc, rfl⟩ := he
    cases hf
    cases hc
    exact absurd hi (Nat.not_lt_zero _)
  | _ =>
    rw [hu] at he
    cases he

end FrameEntry

namespace Schema

/-- An entry that does not read adds no frame. -/
theorem addEntry_none (read : Json.Value → Option ChannelEntry) (s : Schema) (k : String) :
    s.addEntry read (k, none) = s := by
  unfold addEntry
  split <;> simp_all

/-- A table loads as if an entry that does not read were not there. -/
theorem ofTable_append_none (read : Json.Value → Option ChannelEntry)
    (t₁ t₂ : List (String × Option FrameEntry)) (k : String) :
    ofTable read (t₁ ++ (k, none) :: t₂) = ofTable read (t₁ ++ t₂) := by
  simp only [ofTable, List.foldl_append, List.foldl_cons, addEntry_none]

end Schema

/-- Replacing channel item `i` of the entry under key `k` of a top-level map, with a frame
reader that reads channel items as documented: each item is turned into a JSON value by
`toJson`, an item that has none fails the whole entry, and nothing else of the entry
depends on the items. The map then loads as with the entry's item replaced by the new
item's JSON value, or, when the new item has none, as if the key were not there at all,
the whole frame lost. Where the entry still reads, the frame built from it keeps its
identifier, name, rate and the channels of the other items, and has the new item's
channel, if it reads, in place of the old one's. JSON items are JSON values already, so a
JSON entry always keeps reading; YAML items may have no JSON value. -/
theorem frame_entry_channel_replacement {V E : Type} (r : Schema.Readers V E)
    (toJson : V → Option Json.Value) (setChannel : V → Nat → V → V)
    (hitems : ∀ v e i w, r.frame v = some e → i < e.channels.length →
      r.frame (setChannel v i w) = (toJson w).map (e.setChannel i))
    (pre post : List (String × V)) (k : String) {v : V} {e : FrameEntry} {i : Nat}
    (he : r.frame v = some e) (hi : i < e.channels.length) (w : V) :
    Schema.ofEntries r (pre ++ (k, setChannel v i w) :: post) =
      Schema.ofTable r.channel ((pre.map fun p => (p.1, r.frame p.2)) ++
        (k, (toJson w).map (e.setChannel i)) :: post.map fun p => (p.1, r.frame p.2)) ∧
    (toJson w = none →
      Schema.ofEntries r (pre ++ (k, setChannel v i w) :: post) =
        Schema.ofEntries r (pre ++ post)) ∧
    ∀ (id : FrameId) (j : Json.Value), Frame.ofEntry r.channel id (e.setChannel i j) =
      { Frame.ofEntry r.channel id e with
        channels := (e.channels.take i).filterMap (Channel.ofItem? r.channel) ++
          (Channel.ofItem? r.channel j).toList ++
          (e.channels.drop (i + 1)).filterMap (Channel.ofItem? r.channel) } := by
  have hread : Schema.ofEntries r (pre ++ (k, setChannel v i w) :: post) =
      Schema.ofTable r.channel ((pre.map fun p => (p.1, r.frame p.2)) ++
        (k, (toJson w).map (e.setChannel i)) :: post.map fun p => (p.1, r.frame p.2)) := by
    rw [Schema.ofEntries, List.map_append, List.map_cons, hitems v e i w he hi]
  refine ⟨hread, fun hw => ?_, fun id j => Frame.ofEntry_setChannel r.channel id e hi j⟩
  rw [hread, hw, Option.map_none, Schema.ofTable_append_none, Schema.ofEntries, List.map_append]

/-- A YAML frame entry whose one channel item is replaced by a tagged value is lost with its
frame: the map loads as if the entry's key were not there. -/
theorem tagged_channel_item_drops_entry :
    (∀ v e i w, FrameEntry.ofYaml? v = some e → i < e.channels.length →
      FrameEntry.ofYaml? (v.setChannel i w) = w.toJson?.map (e.setChannel i)) ∧
    FrameEntry.ofYaml? (.map [(.str "channels", .seq [.null])]) = some ⟨"", 0, [.null]⟩ ∧
    0 < [Json.Value.null].length ∧
    Schema.ofEntries Schema.yamlReaders
        [("0x360", (Yaml.Value.map [(.str "channels", .seq [.null])]).setChannel 0
          (.tagged "t" .null)), ("0x361", .null)] =
      Schema.ofEntries Schema.yamlReaders [("0x361", .null)] := by
  have hitems : ∀ v e i w, FrameEntry.ofYaml? v = some e → i < e.channels.length →
      FrameEntry.ofYaml? (v.setChannel i w) = w.toJson?.map (e.setChannel i) :=
    fun _ _ _ w he hi => FrameEntry.ofYaml?_setChannel he hi w
  have he : FrameEntry.ofYaml? (.map [(.str "channels", .seq [.null])]) =
      some ⟨"", 0, [.null]⟩ := rfl
  have hi : 0 < [Json.Value.null].length := by decide
  have hframe : Schema.yamlReaders.frame (.map [(.str "channels", .seq [.null])]) =
      some ⟨"", 0, [.null]⟩ := he
  have hreplace := frame_entry_channel_replacement Schema.yamlReaders Yaml.Value.toJson?
    Yaml.Value.setChannel hitems [] [("0x361", .null)] "0x360" hframe hi (.tagged "t" .null)
  exact ⟨hitems, he, hi, hreplace.2.1 rfl⟩

end CanDecoder
