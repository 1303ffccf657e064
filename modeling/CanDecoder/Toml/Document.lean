import CanDecoder.Toml.Lexical

/-!
# TOML documents as nested tables

A document is a table. Its entries, in the order they were first written, are values,
tables and arrays of tables. A table is implicit when only a longer header or a dotted
key brought it about, and dotted when a dotted key did; such a table may still be given
its own header later, once, and a dotted key may extend an implicit table, but never one
that has a header.

The document is built statement by statement. A key and value go into the current table,
below it along the dotted part of the key. A `[table]` header finishes the current table
and starts a new one (taking over an implicit table of that name, if there is one); an
`[[array]]` header finishes it and starts a new element of an array of tables. Writing a
key twice, a table twice, or a key through a value is an error naming the key.
-/

namespace CanDecoder.Toml

/-- How a table came about. -/
structure TableKind where
  /-- Only brought about by a longer header or a dotted key. -/
  implicit : Bool := false
  /-- Brought about by a dotted key. -/
  dotted : Bool := false
  /-- Written inline, in braces. -/
  inline : Bool := false
  deriving Repr, Inhabited

/-- A TOML item with where it was written. -/
inductive Item where
  | string (s : String) (span : Span)
  | integer (n : Int) (span : Span)
  | float (x : Float) (span : Span)
  | boolean (b : Bool) (span : Span)
  | datetime (span : Span)
  | array (items : List Item) (span : Span)
  /-- A table: its entries in order, where it was written (none for a table only implied),
  and how it came about. -/
  | table (entries : List (Key × Item)) (span : Option Span) (kind : TableKind)
  /-- An array of tables, each written under its own `[[header]]`. -/
  | tables (items : List Item) (span : Option Span)
  deriving Inhabited

/-- Where an item was written. -/
def Item.span? : Item → Option Span
  | .string _ sp | .integer _ sp | .float _ sp | .boolean _ sp | .datetime sp | .array _ sp => some sp
  | .table _ sp _ | .tables _ sp => sp

/-- The name of the kind of a value, in messages. -/
def Item.typeName : Item → String
  | .string _ _ => "string"
  | .integer _ _ => "integer"
  | .float _ _ => "float"
  | .boolean _ _ => "boolean"
  | .datetime _ => "datetime"
  | .array _ _ => "array"
  | .table _ _ _ => "inline table"
  | .tables _ _ => "array of tables"

/-- A table, apart from the item it becomes. -/
structure Table where
  entries : List (Key × Item) := []
  span : Option Span := none
  kind : TableKind := {}
  deriving Inhabited

/-- The item of a table. -/
def Table.item (t : Table) : Item := .table t.entries t.span t.kind

/-- The entry named `name`. -/
def Table.find? (t : Table) (name : String) : Option Item :=
  (t.entries.find? (·.1.name = name)).map (·.2)

/-- Replace the entry named `name`. -/
def Table.replace (t : Table) (name : String) (v : Item) : Table :=
  { t with entries := t.entries.map fun (k, w) => if k.name = name then (k, v) else (k, w) }

/-- Remove the entry named `name`. -/
def Table.remove (t : Table) (name : String) : Table :=
  { t with entries := t.entries.filter (·.1.name != name) }

/-- Add an entry at the end. -/
def Table.push (t : Table) (k : Key) (v : Item) : Table := { t with entries := t.entries ++ [(k, v)] }

/-- Why a statement does not fit the document. -/
inductive Clash where
  /-- A key written twice; with the header path of the table it was written in, if the
  clash is with an entry of that table. -/
  | duplicateKey (key : String) (table : Option (List String))
  /-- A dotted key running through a value. -/
  | extendsValue (path : List String) (actual : String)
  /-- Keys or values nested too deep. -/
  | tooDeep

/-- The text of a clash. -/
def Clash.message : Clash → String
  | .duplicateKey key none => "duplicate key `" ++ key ++ "`"
  | .duplicateKey key (some []) => "duplicate key `" ++ key ++ "` in document root"
  | .duplicateKey key (some path) => "duplicate key `" ++ key ++ "` in table `" ++ ".".intercalate path ++ "`"
  | .extendsValue path actual =>
    "dotted key `" ++ ".".intercalate path ++ "` attempted to extend non-table type (" ++ actual ++ ")"
  | .tooDeep => "recursion limit exceeded"

/-- Whether `c` may stand in a bare key: an ASCII letter or digit, `-` or `_`. -/
def isBareKeyChar (c : Char) : Bool := c.isAlphanum || c = '-' || c = '_'

/-- Whether `c` must be escaped in a basic string: a control character. -/
def isEscapedControl (c : Char) : Bool := c.toNat ≤ 0x1F || c.toNat = 0x7F

/-- How `c` is written inside a basic string: the short escapes of TOML, `\uXXXX` for
other controls, and the character itself otherwise. -/
def basicStringChar (c : Char) : List Char :=
  if c.toNat = 0x08 then ['\\', 'b']
  else if c = '\t' then ['\\', 't']
  else if c = '\n' then ['\\', 'n']
  else if c.toNat = 0x0C then ['\\', 'f']
  else if c = '\r' then ['\\', 'r']
  else if c = '"' then ['\\', '"']
  else if c = '\\' then ['\\', '\\']
  else if isEscapedControl c then
    let hex := (Nat.toDigits 16 c.toNat).map Char.toUpper
    ['\\', 'u'] ++ List.replicate (4 - hex.length) '0' ++ hex
  else [c]

/-- A key as a message writes it: bare when it is a non-empty run of bare-key characters;
as a literal string when it holds a quote or a backslash and a literal string can hold it
on one line (no apostrophe, no control but the tab); else as a basic string. -/
def keyText (name : String) : String :=
  let cs := name.toList
  if !cs.isEmpty && cs.all isBareKeyChar then name
  else if cs.any (fun c => c = '"' || c = '\\') &&
      cs.all (fun c => c ≠ '\'' && (c = '\t' || !isEscapedControl c)) then
    "'" ++ name ++ "'"
  else String.ofList ('"' :: cs.flatMap basicStringChar ++ ['"'])

example : keyText "b c" = "\"b c\"" := by decide
example : keyText "a\\b" = "'a\\b'" := by decide
example : keyText "a\u007Fb" = "\"a\\u007Fb\"" := by decide

/-- The clash of the `i`-th key of a header path with an entry already there; the key is
named as a message writes it, the table by its plain key names. -/
def headerClash (path : List Key) (i : Nat) : Clash :=
  .duplicateKey ((path[i]?.map (keyText ·.name)).getD "") (some ((path.take i).map (·.name)))

/-- Work on the table at the end of `path` below `t`, creating implicit tables on the way
(dotted ones when `dotted`); `f` gives the new table and a result. Within an array of
tables the path goes on in its last element. `done` counts the keys already passed. -/
def descend {α} (dotted : Bool) (full : List Key) (f : Table → Except Clash (Table × α)) :
    Nat → List Key → Table → Except Clash (Table × α)
  | _, [], t => f t
  | done, k :: rest, t =>
    let wrongType := fun (v : Item) => Clash.extendsValue ((full.take (done + 1)).map (·.name)) v.typeName
    match t.find? k.name with
    | none => do
      let (child, a) ← descend dotted full f (done + 1) rest { kind := { implicit := true, dotted := dotted } }
      pure (t.push k child.item, a)
    | some (.table es sp kind) =>
      if kind.inline then .error (wrongType (.table es sp kind))
      else if dotted && !kind.implicit then .error (.duplicateKey k.name none)
      else do
        let (child, a) ← descend dotted full f (done + 1) rest ⟨es, sp, kind⟩
        pure (t.replace k.name child.item, a)
    | some (.tables items sp) =>
      match items.getLast? with
      | some (.table es esp kind) => do
        let (child, a) ← descend dotted full f (done + 1) rest ⟨es, esp, kind⟩
        pure (t.replace k.name (.tables (items.dropLast ++ [child.item]) sp), a)
      | _ => .error (wrongType (.tables items sp))
    | some v => .error (wrongType v)

/-- Work on the inline table at the end of the dotted `path` below `t`, creating dotted
inline tables on the way. -/
def descendInline {α} (full : List Key) (f : Table → Except Clash (Table × α)) :
    Nat → List Key → Table → Except Clash (Table × α)
  | _, [], t => f t
  | done, k :: rest, t =>
    let wrongType := fun (v : Item) => Clash.extendsValue ((full.take (done + 1)).map (·.name)) v.typeName
    match t.find? k.name with
    | none => do
      let (child, a) ← descendInline full f (done + 1) rest
        { kind := { implicit := true, dotted := true, inline := true } }
      pure (t.push k child.item, a)
    | some (.table es sp kind) =>
      if !kind.inline then .error (wrongType (.table es sp kind))
      else if !kind.implicit then .error (.duplicateKey k.name none)
      else do
        let (child, a) ← descendInline full f (done + 1) rest ⟨es, sp, kind⟩
        pure (t.replace k.name child.item, a)
    | some v => .error (wrongType v)

/-- The inline table of `{...}` from its key and value pairs, each a dotted path, a key
and a value. -/
def inlineTable (pairs : List (List Key × Key × Item)) : Except Clash Table := do
  let root ← pairs.foldlM (fun (root : Table) (path, key, v) => do
    let (t, ()) ← descendInline path (fun t =>
      if t.kind.dotted == path.isEmpty then .error (.duplicateKey key.name none)
      else if (t.find? key.name).isSome then .error (.duplicateKey key.name none)
      else .ok (t.push key v, ())) 0 path root
    pure t) { kind := { inline := true } }
  pure root

/-- The state of building a document. -/
structure Builder where
  /-- The document, apart from the table being filled. -/
  root : Table := {}
  /-- The table being filled. -/
  current : Table := { span := some ⟨0, 0⟩ }
  /-- The header path of the table being filled; empty for the top level. -/
  path : List Key := []
  /-- Whether the table being filled is an element of an array of tables. -/
  inArray : Bool := false
  deriving Inhabited

namespace Builder

/-- Put a key and its value into the current table, below it along `path`. -/
def addEntry (b : Builder) (path : List Key) (key : Key) (v : Item) : Except Clash Builder := do
  let current := match b.current.span, v.span? with
    | some e, some w => { b.current with span := some ⟨e.start, w.stop⟩ }
    | _, _ => b.current
  let (current, ()) ← descend true path (fun t =>
    if t.kind.dotted == path.isEmpty then .error (.duplicateKey key.name none)
    else if (t.find? key.name).isSome then .error (.duplicateKey key.name (some (b.path.map (·.name))))
    else .ok (t.push key v, ())) 0 path current
  pure { b with current := current }

/-- Put table `t`, filled under header `path`, into the document `root`. -/
def place (root : Table) (path : List Key) (inArray : Bool) (t : Table) : Except Clash Table :=
  match path.getLast? with
  | none => .ok t
  | some key => do
    let parent := path.dropLast
    let clash := headerClash path (path.length - 1)
    let (root, ()) ← descend false parent (fun p =>
      if inArray then
        match p.find? key.name with
        | none => .ok (p.push key (.tables [t.item] t.span), ())
        | some (.tables items _) =>
          let items := items ++ [t.item]
          let span := match items.head?.bind Item.span?, items.getLast?.bind Item.span? with
            | some first, some last => some ⟨first.start, last.stop⟩
            | _, _ => none
          .ok (p.replace key.name (.tables items span), ())
        | some _ => .error clash
      else
        match p.find? key.name with
        | none => .ok (p.push key t.item, ())
        | some (.table _ _ kind) =>
          if kind.implicit && !kind.inline then .ok (p.replace key.name t.item, ()) else .error clash
        | some _ => .error clash) 0 parent root
    pure root

/-- Finish the current table: put it into the document. -/
def close (b : Builder) : Except Clash Builder := do
  let root ← place b.root b.path b.inArray b.current
  pure { b with root := root, current := {}, path := [] }

/-- Start the table of a `[table]` header. -/
def openTable (b : Builder) (path : List Key) (span : Span) : Except Clash Builder := do
  let b ← b.close
  match path.getLast? with
  | none => pure b
  | some key =>
    let clash := headerClash path (path.length - 1)
    let (root, taken) ← descend false path.dropLast (fun p =>
      match p.find? key.name with
      | none => .ok (p, none)
      | some (.table es sp kind) =>
        if kind.implicit && !kind.dotted && !kind.inline then .ok (p.remove key.name, some (Table.mk es sp kind))
        else .error clash
      | some _ => .error clash) 0 path.dropLast b.root
    let t := taken.getD {}
    pure { b with root := root, current := { t with span := some span, kind := {} }, path := path, inArray := false }

/-- Start a new element of the array of tables of an `[[array]]` header. -/
def openArrayTable (b : Builder) (path : List Key) (span : Span) : Except Clash Builder := do
  let b ← b.close
  match path.getLast? with
  | none => pure b
  | some key =>
    let clash := headerClash path (path.length - 1)
    let (root, ()) ← descend false path.dropLast (fun p =>
      match p.find? key.name with
      | none => .ok (p.push key (.tables [] none), ())
      | some (.tables _ _) => .ok (p, ())
      | some _ => .error clash) 0 path.dropLast b.root
    pure { b with root := root, current := { span := some span }, path := path, inArray := true }

/-- The finished document. -/
def document (b : Builder) : Except Clash Table := do
  let b ← b.close
  pure b.root

end Builder

end CanDecoder.Toml
