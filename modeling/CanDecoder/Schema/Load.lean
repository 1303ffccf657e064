import CanDecoder.Schema.Entry
import CanDecoder.Error

/-!
# Loading a schema from a definition document

A definition document maps frame identifier texts to frame entries, either at its top
level or under a top-level `frames` key, in which case every other top-level key is
ignored. Loading is tolerant: a key that is no frame identifier, an entry that does not
read and a channel that does not read are skipped. Keys are taken in sorted order, so of
two keys naming one identifier (`0x360` and `360`) the greater key's frame stays. A
document that yields no frame at all is an error.

Reading the document is left to the deserializers of its format, which loading takes as
`Schema.Readers`: the top level as a map from key texts to values, the map under the one
`frames` field of the top level, a frame entry from a value, and a channel entry from a
JSON value. The JSON readers here and the YAML readers beside them are two such sets.
-/

namespace CanDecoder

open Json

/-- The format of a definition document. -/
inductive DocumentFormat where
  | json
  | yaml
  deriving Repr, DecidableEq

/-- The name of the file a path names: its last component, where empty components and `.`
are skipped, so `a.yaml/./` names `a.yaml`. A path ending in `..` names no file. -/
def pathFileName? (path : String) : Option String :=
  match ((path.splitOn "/").filter fun c => !c.isEmpty && c != ".").getLast? with
  | some ".." | none => none
  | some name => some name

/-- The extension of the file a path names: the text after the last dot of its name,
unless that dot starts the name. -/
def pathExtension? (path : String) : Option String := do
  let parts := (← pathFileName? path).splitOn "."
  match parts with
  | [] | [_] => none
  | first :: _ =>
    if first.isEmpty ∧ parts.length = 2 then none
    else parts.getLast?

/-- The format named by a file's extension: `yaml` or `yml` in any ASCII case is YAML,
anything else JSON. -/
def DocumentFormat.ofPath (path : String) : DocumentFormat :=
  match (pathExtension? path).map (fun e => String.ofList (e.toList.map Char.toLower)) with
  | some "yaml" | some "yml" => .yaml
  | _ => .json

/-- The deserializers a definition document is loaded with, for values `V` and read errors
`E` of its format. -/
structure Schema.Readers (V E : Type) where
  /-- The document's top level as a map from key texts, keys ascending. -/
  flat : String → Except E (List (String × V))
  /-- The map under the one `frames` field of the document's top level. -/
  nested : String → Except E (List (String × V))
  /-- A frame entry from a value. -/
  frame : V → Option FrameEntry
  /-- A channel entry from a JSON value. -/
  channel : Value → Option ChannelEntry

namespace Schema

/-- The top-level map of a document: the map `flat` reads, unless it has a `frames` key;
then the document is read again, by `nested`, for the map under that key. -/
def topLevelEntries {V E : Type} (flat nested : String → Except E (List (String × V)))
    (text : String) : Except E (List (String × V)) := do
  let entries ← flat text
  if (entries.lookup "frames").isSome then nested text else pure entries

/-- Add the frame of a table entry whose key is a frame identifier and whose entry reads,
its channels read by `read`. -/
def addEntry (read : Value → Option ChannelEntry) (s : Schema)
    (entry : String × Option FrameEntry) : Schema :=
  match FrameId.parse? entry.1, entry.2 with
  | some id, some e => s.insert (Frame.ofEntry read id e)
  | _, _ => s

/-- The schema of a frame table sorted by key. -/
def ofTable (read : Value → Option ChannelEntry) (table : List (String × Option FrameEntry)) :
    Except Error Schema :=
  let s := table.foldl (addEntry read) empty
  if s.frames.isEmpty then .error .emptySchema else .ok s

/-- The schema of a top-level map, each value read as a frame entry. -/
def ofEntries {V E : Type} (r : Readers V E) (entries : List (String × V)) : Except Error Schema :=
  ofTable r.channel (entries.map fun p => (p.1, r.frame p.2))

/-- Load a schema from a document with the readers of its format; `wrap` makes a read error
of the format an error of loading. -/
def load {V E : Type} (r : Readers V E) (wrap : E → Error) (text : String) :
    Except Error Schema :=
  match topLevelEntries r.flat r.nested text with
  | .error e => .error (wrap e)
  | .ok entries => ofEntries r entries

end Schema

namespace Json

/-- The root object of a JSON document as a map. -/
def rootMap (text : String) : Except ReadError (List (String × Value)) := do
  let (_, es) ← readRoot text
  pure (entriesMap es)

/-- The object of the first root field named `frames`, once `seen` says whether one came
before: a later field of that name is an error, and so is a first one that holds no
object. -/
def framesField (src : Source) :
    Bool → List Entry → Except Fault (Option (List (String × Value)))
  | _, [] => .ok none
  | seen, e :: rest =>
    if e.key = "frames" then
      if seen then .error ⟨.duplicateField "frames", src.offset (src.skipBlanks e.keyEnd)⟩
      else match e.value with
        | .obj fields =>
          match framesField src true rest with
          | .ok _ => .ok (some fields)
          | .error f => .error f
        | _ => .error (e.typeFault src "a map")
    else framesField src seen rest

/-- The position of the brace that closes a root object with fields `es`. -/
def rootEnd (src : Source) (es : List Entry) : Nat :=
  src.skipBlanks ((es.getLast?.map (·.valueEnd)).getD (src.skipBlanks 0 + 1))

/-- The object under the one `frames` field of a JSON document's root. A root without such
a field is reported at its closing brace. -/
def framesMap (text : String) : Except ReadError (List (String × Value)) := do
  let (src, es) ← readRoot text
  match framesField src false es with
  | .ok (some fields) => pure fields
  | .ok none => throw (src.report ⟨.missingField "frames", src.offset (rootEnd src es) + 1⟩)
  | .error f => throw (src.report f)

end Json

/-- The readers of JSON documents. -/
def Schema.jsonReaders : Schema.Readers Value ReadError :=
  ⟨rootMap, framesMap, FrameEntry.ofJson?, ChannelEntry.ofJson?⟩

/-- Load a schema from a JSON document. -/
def Schema.ofJson (text : String) : Except Error Schema :=
  Schema.load Schema.jsonReaders .json text

end CanDecoder
