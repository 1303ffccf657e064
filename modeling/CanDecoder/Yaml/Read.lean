import CanDecoder.Yaml.Value

/-!
# Reading values out of a YAML document

A loaded document is read front to back over its node events. An alias is read by going
back to the event its anchor stands on; following aliases more than a hundred times the
number of events fails, which bounds the work a document of repeated aliases can cause.
Collections nest at most 128 deep.

A data error names the path of keys and sequence indices leading to the node and the
place the node starts. Reading a key gives the path of the mapping, reading a value the
path extended by its key, or by `?` when the key was no scalar.

A frame table is a mapping from strings to values, read like an ordered map: a later key
replaces an earlier one. An empty document or an empty plain scalar is an empty table.
The table under the top level's `frames` key is read by a read of its own, for which a
second `frames` key is an error.
-/

namespace CanDecoder.Yaml

/-- Where a node sits in a document, for messages. -/
inductive Path where
  | root
  | key (parent : Path) (name : String)
  | index (parent : Path) (i : Nat)
  | alias (parent : Path)
  | unknown (parent : Path)

/-- The text of a path: keys joined by dots, indices in brackets, the root alone a dot. -/
def Path.text : Path → String
  | .root => "."
  | .key p k => (match p with | .root => "" | _ => p.text ++ ".") ++ k
  | .index p i => p.text ++ "[" ++ toString i ++ "]"
  | .alias p => p.text
  | .unknown p => (match p with | .root => "" | _ => p.text ++ ".") ++ "?"

/-- Reading a document, counting the aliases followed. -/
abbrev Reading := StateT Nat (Except Error)

/-- A data error at a node. -/
def dataError (path : Path) (place : Mark) (message : String) : Error :=
  .data message path.text (some place)

/-- The error of finding `node` where `expected` was wanted. -/
def mismatch (node : Node) (expected : String) (path : Path) (place : Mark) : Error :=
  match node with
  | .scalar tag text style =>
    match resolveScalar tag text style false with
    | .ok s => dataError path place (invalidType s.unexpected expected)
    | .error msg => dataError path place msg
  | .sequenceStart _ => dataError path place (invalidType "sequence" expected)
  | .mappingStart _ => dataError path place (invalidType "map" expected)
  | _ => .endOfStream

/-- The value a scalar stands for, unless it is an integer wider than 64 bits. -/
def Scalar.toValue? : Scalar → Option Value
  | .null => some .null
  | .bool b => some (.bool b)
  | .natural n => some (.natural n)
  | .negative n => some (.negative n)
  | .float x => some (.float x)
  | .str s => some (.str s)
  | .wideNatural _ | .wideNegative _ => none

/-- Put `key` into a sorted table, replacing an earlier value of the same key. -/
def insertSorted {α} (key : String) (v : α) : List (String × α) → List (String × α)
  | [] => [(key, v)]
  | (k, w) :: rest =>
    if key < k then (key, v) :: (k, w) :: rest
    else if key = k then (key, v) :: rest
    else (k, w) :: insertSorted key v rest

namespace Document

/-- The event at position `i`, or the error that ended the document before it. -/
def eventAt (d : Document) (i : Nat) : Except Error (Node × Mark) :=
  match d.events[i]? with
  | some e => .ok e
  | none => .error (d.error.getD .endOfStream)

/-- Follow an alias to the event its anchor stands on. -/
def follow (d : Document) (anchor : Nat) : Reading Nat := do
  let count := (← get) + 1
  set count
  if count > d.events.size * 100 then throw .repetitionLimit
  pure ((d.anchorEvents.lookup anchor).getD 0)

/-- The local tag that makes a node a tagged value, unless its tag was already taken. -/
def tagOf (tag : Option (List UInt8)) (taggedAlready : Bool) : Option String :=
  if taggedAlready then none else localTag? tag

/-- Read the node at event `i` as a value, with `fuel` bounding the nesting of calls
(every call either enters a collection, of which there are at most `depth` more, or
follows an alias or a tag to a node that is neither), and `taggedAlready` when the tag of
the node was taken as a local tag. Gives the value and the event after the node. -/
def readValue (d : Document) : Nat → Path → Nat → Bool → Nat → Reading (Value × Nat)
  | 0, _, _, _, i => do
    let (_, place) ← liftM (d.eventAt i)
    throw (.recursionLimit place)
  | fuel + 1, path, depth, taggedAlready, i => do
    let (node, place) ← liftM (d.eventAt i)
    match node with
    | .alias anchor =>
      let j ← d.follow anchor
      let (v, _) ← d.readValue fuel (.alias path) depth false j
      pure (v, i + 1)
    | .scalar tag text style =>
      match tagOf tag taggedAlready with
      | some t =>
        let (v, next) ← d.readValue fuel path depth true i
        pure (.tagged t v, next)
      | none =>
        match resolveScalar tag text style taggedAlready with
        | .error msg => throw (dataError path place msg)
        | .ok s =>
          match s.toValue? with
          | some v => pure (v, i + 1)
          | none => throw (dataError path place (invalidType s.unexpected "any YAML value"))
    | .sequenceStart tag =>
      match tagOf tag taggedAlready with
      | some t =>
        let (v, next) ← d.readValue fuel path depth true i
        pure (.tagged t v, next)
      | none =>
        if depth = 0 then throw (.recursionLimit place)
        let mut items : Array Value := #[]
        let mut pos := i + 1
        for _ in [0:d.events.size] do
          let (next, _) ← liftM (d.eventAt pos)
          match next with
          | .sequenceEnd | .void => break
          | _ =>
            let (v, after) ← d.readValue fuel (.index path items.size) (depth - 1) false pos
            items := items.push v
            pos := after
        let _ ← liftM (d.eventAt pos)
        pure (.seq items.toList, pos + 1)
    | .mappingStart tag =>
      match tagOf tag taggedAlready with
      | some t =>
        let (v, next) ← d.readValue fuel path depth true i
        pure (.tagged t v, next)
      | none =>
        if depth = 0 then throw (.recursionLimit place)
        let mut entries : Array (Value × Value) := #[]
        let mut seen : List String := []
        let mut pos := i + 1
        for _ in [0:d.events.size] do
          let (next, _) ← liftM (d.eventAt pos)
          match next with
          | .mappingEnd | .void => break
          | _ =>
            let valuePath : Path := match next with
              | .scalar _ name _ => .key path name
              | _ => .unknown path
            let (k, afterKey) ← d.readValue fuel path (depth - 1) taggedAlready pos
            let canonical := k.canonical
            if seen.contains canonical then throw (dataError path place (duplicateKeyMessage k))
            let (v, afterValue) ← d.readValue fuel valuePath (depth - 1) false afterKey
            entries := entries.push (k, v)
            seen := canonical :: seen
            pos := afterValue
        let _ ← liftM (d.eventAt pos)
        pure (.map entries.toList, pos + 1)
    | .void => pure (.null, i + 1)
    | .sequenceEnd | .mappingEnd => throw .endOfStream

/-- Read the node at event `i` as a string: a scalar's text, whatever its tag. -/
def readKey (d : Document) : Nat → Path → Nat → Reading (String × Nat)
  | 0, _, i => do
    let (_, place) ← liftM (d.eventAt i)
    throw (.recursionLimit place)
  | fuel + 1, path, i => do
    let (node, place) ← liftM (d.eventAt i)
    match node with
    | .scalar _ text _ => pure (text, i + 1)
    | .alias anchor =>
      let j ← d.follow anchor
      let (s, _) ← d.readKey fuel (.alias path) j
      pure (s, i + 1)
    | other => throw (mismatch other "a string" path place)

/-- Skip the node at event `i` without following its aliases. -/
def skipNode (d : Document) (i : Nat) : Except Error Nat := do
  let mut nesting : Nat := 0
  let mut pos := i
  for _ in [0:d.events.size + 1] do
    let (node, _) ← d.eventAt pos
    pos := pos + 1
    match node with
    | .sequenceStart _ | .mappingStart _ => nesting := nesting + 1
    | .sequenceEnd | .mappingEnd => nesting := nesting - 1
    | _ => pure ()
    if nesting = 0 then break
  pure pos

/-- The number of calls a read may nest: per level of collections, an alias, a tag and
the collection itself. -/
def readFuel : Nat := 4 * 130

/-- Read the mapping at event `i` entry by entry: `onEntry` gets the key, the event of its
value and the path of that value, and gives the event after the value. -/
def readEntries {σ} (d : Document) (path : Path) (depth : Nat) (i : Nat) (place : Mark) (start : σ)
    (onEntry : σ → String → Nat → Path → Reading (σ × Nat)) : Reading (σ × Nat) := do
  if depth = 0 then throw (.recursionLimit place)
  let mut acc := start
  let mut pos := i + 1
  for _ in [0:d.events.size] do
    let (next, _) ← liftM (d.eventAt pos)
    match next with
    | .mappingEnd | .void => break
    | _ =>
      let valuePath : Path := match next with
        | .scalar _ name _ => .key path name
        | _ => .unknown path
      let (k, afterKey) ← d.readKey readFuel path pos
      let (acc', afterValue) ← onEntry acc k afterKey valuePath
      acc := acc'
      pos := afterValue
  let _ ← liftM (d.eventAt pos)
  pure (acc, pos + 1)

/-- Read the node at event `i` as a table from strings to values. -/
def readTable (d : Document) : Nat → Path → Nat → Nat → Reading (List (String × Value) × Nat)
  | 0, _, _, i => do
    let (_, place) ← liftM (d.eventAt i)
    throw (.recursionLimit place)
  | fuel + 1, path, depth, i => do
    let (node, place) ← liftM (d.eventAt i)
    match node with
    | .alias anchor =>
      let j ← d.follow anchor
      let (t, _) ← d.readTable fuel (.alias path) depth j
      pure (t, i + 1)
    | .mappingStart _ =>
      d.readEntries path depth i place [] fun table key pos valuePath => do
        let (v, after) ← d.readValue readFuel valuePath (depth - 1) false pos
        pure (insertSorted key v table, after)
    | .scalar _ text style =>
      if text.isEmpty && style = .plain then pure ([], i + 1)
      else throw (mismatch node "a map" path place)
    | .void => pure ([], i + 1)
    | other => throw (mismatch other "a map" path place)

/-- Read the node at event `i` as a record whose only field is `frames`, a table. -/
def readFramesField (d : Document) : Nat → Path → Nat → Nat →
    Reading (Option (List (String × Value)) × Nat)
  | 0, _, _, i => do
    let (_, place) ← liftM (d.eventAt i)
    throw (.recursionLimit place)
  | fuel + 1, path, depth, i => do
    let (node, place) ← liftM (d.eventAt i)
    match node with
    | .alias anchor =>
      let j ← d.follow anchor
      let (t, _) ← d.readFramesField fuel (.alias path) depth j
      pure (t, i + 1)
    | .mappingStart _ =>
      d.readEntries path depth i place none fun frames key pos valuePath => do
        if key = "frames" then
          if frames.isSome then throw (dataError path place "duplicate field `frames`")
          let (t, after) ← d.readTable readFuel valuePath (depth - 1) pos
          pure (some t, after)
        else
          let after ← liftM (d.skipNode pos)
          pure (frames, after)
    | .scalar _ text style =>
      if text.isEmpty && style = .plain then pure (none, i + 1)
      else throw (mismatch node "struct NestedDocument" path place)
    | .void => pure (none, i + 1)
    | other => throw (mismatch other "struct NestedDocument" path place)

/-- Run a read of the whole document: its syntax error, if any, and a second document
are errors once the read itself has succeeded. -/
def finish {α} (d : Document) (more : Bool) (read : Reading (α × Nat)) : Except Error α := do
  let ((a, _), _) ← read.run 0
  if let some e := d.error then throw e
  if more then throw .moreThanOneDocument
  pure a

end Document

/-- The top-level table of a YAML text. -/
def rootTable (text : String) : Except Error (List (String × Value)) :=
  let (d, more) := Document.load text
  d.finish more (d.readTable Document.readFuel .root 128 0)

/-- The table under the one `frames` key of a YAML text's top level. -/
def framesTable (text : String) : Except Error (List (String × Value)) := do
  let (d, more) := Document.load text
  match ← d.finish more (d.readFramesField Document.readFuel .root 128 0) with
  | some t => pure t
  | none => throw (dataError .root ⟨0, 0, 0⟩ "missing field `frames`")

end CanDecoder.Yaml
