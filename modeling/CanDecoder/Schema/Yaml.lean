import CanDecoder.Schema.Load
import CanDecoder.Yaml.Read

/-!
# Loading a schema from a YAML document

The frame table of a YAML document is read as for JSON, with YAML's own keys: every
top-level key is taken as the text it is written with, whatever its quoting or tag, so
`864` names frame `0x864` like any other key.

A frame entry is a mapping (under any tags) or null, which is an entry with every field
at its default. Its field names must be strings; unlike JSON, a sequence is no frame
entry. Channel items are turned into JSON values before they are read: a tagged item or a
mapping key that is no string makes the whole frame unreadable, and a float that is not
finite becomes null.
-/

namespace CanDecoder

namespace Yaml.Value

mutual
/-- The JSON value of a YAML value, if it has one. -/
def toJson? : Value → Option Json.Value
  | .null => some .null
  | .bool b => some (.bool b)
  | .natural n => some (.num (.unsigned n))
  | .negative n => some (.num (.negative n))
  | .float x =>
    match Decimal.Binary.ofFloat x with
    | .finite _ _ _ => some (.num (.float x))
    | _ => some .null
  | .str s => some (.str s)
  | .seq items => (itemsToJson? items).map .arr
  | .map entries => (entriesToJson? entries []).map .obj
  | .tagged _ _ => none

/-- The JSON values of sequence items. -/
def itemsToJson? : List Value → Option (List Json.Value)
  | [] => some []
  | v :: vs => do pure ((← toJson? v) :: (← itemsToJson? vs))

/-- The fields of a JSON object from mapping entries, into the sorted `acc`: keys must be
strings. -/
def entriesToJson? : List (Value × Value) → List (String × Json.Value) →
    Option (List (String × Json.Value))
  | [], acc => some acc
  | (k, v) :: rest, acc =>
    match k.untag with
    | .str key => do entriesToJson? rest (Json.Value.insertField key (← toJson? v) acc)
    | _ => none
end

/-- The string of a string value under any tags. -/
def asString? (v : Value) : Option String :=
  match v.untag with
  | .str s => some s
  | _ => none

/-- A non-negative integer below `2^bits`, under any tags. -/
def asUnsigned? (bits : Nat) (v : Value) : Option Nat :=
  match v.untag with
  | .natural n => if n < Nat.pow 2 bits then some n else none
  | _ => none

/-- The items of a sequence under any tags, null being no items, as JSON values. -/
def asJsonItems? (v : Value) : Option (List Json.Value) :=
  match v.untag with
  | .seq items => itemsToJson? items
  | .null => some []
  | _ => none

end Yaml.Value

namespace FrameEntry

/-- The fields of a frame entry by name, each name at most once. -/
def yamlFields? (entries : List (Yaml.Value × Yaml.Value)) : Option (List (String × Yaml.Value)) :=
  entries.foldlM (fun acc (k, v) =>
    match k.untag with
    | .str key =>
      let known := key = "name" ∨ key = "rate_hz" ∨ key = "channels"
      if known ∧ (acc.lookup key).isSome then none else some (acc ++ [(key, v)])
    | _ => none) []

/-- Read a frame entry from a YAML value. -/
def ofYaml? (v : Yaml.Value) : Option FrameEntry :=
  let fields? : Option (List (String × Yaml.Value)) := match v.untag with
    | .map entries => yamlFields? entries
    | .null => some []
    | _ => none
  fields? >>= fun fields => do
    let name ← optionalField fields "name" "" Yaml.Value.asString?
    let rate ← optionalField fields "rate_hz" 0 (Yaml.Value.asUnsigned? 32)
    let channels ← optionalField fields "channels" [] Yaml.Value.asJsonItems?
    pure ⟨name, rate, channels⟩

end FrameEntry

/-- The readers of YAML documents: channel items, once turned into JSON values, are read as
in JSON. -/
def Schema.yamlReaders : Schema.Readers Yaml.Value Yaml.Error :=
  ⟨Yaml.rootTable, Yaml.framesTable, FrameEntry.ofYaml?, ChannelEntry.ofJson?⟩

/-- Load a schema from a YAML document. -/
def Schema.ofYaml (text : String) : Except Error Schema :=
  Schema.load Schema.yamlReaders .yaml text

end CanDecoder
