import CanDecoder.Toml.Parse
import CanDecoder.PowerModule
import CanDecoder.Error
import CanDecoder.Decimal.Text

/-!
# Settings files

A settings file is a TOML document with five optional keys: `protocol`, the path of a
definition document; `fallback`, whether frames the definition lacks are decoded by the
built-in table (default true); `output`, the name of an output format; `no_color`; and
`pd16`, an array of tables each naming a PD16 module by its `device` letter. Other keys are
ignored. A key of the wrong type is an error pointing at its value.

Command-line options take precedence: a protocol path or output format given there
replaces the file's, a `--pd16` list replaces the file's list, and either side can switch
off the built-in table or colours. The file's output format is only looked at when the
command line gives none; it must then name a format, in any ASCII case.
-/

namespace CanDecoder

/-- How rows are printed. -/
inductive Format where
  | table
  | json
  | csv
  deriving Repr, DecidableEq, Inhabited

namespace Format

/-- The name of a format. -/
def name : Format → String
  | .table => "table"
  | .json => "json"
  | .csv => "csv"

/-- The formats in order. -/
def all : List Format := [.table, .json, .csv]

/-- The format a name stands for, ignoring ASCII case. -/
def ofName? (s : String) : Option Format :=
  let lower := String.ofList (s.toList.map Char.toLower)
  all.find? (·.name = lower)

end Format

/-- The contents of a settings file. -/
structure Settings where
  protocol : Option String := none
  fallback : Bool := true
  output : Option String := none
  noColor : Option Bool := none
  modules : List Module := []
  deriving Repr, Inhabited

namespace Toml

/-- How an item is named when it has the wrong type. -/
def Item.unexpected : Item → String
  | .string s _ => "string " ++ Text.quoted s
  | .integer n _ => "integer `" ++ toString n ++ "`"
  | .float x _ => "floating point `" ++ Decimal.pointedText x ++ "`"
  | .boolean b _ => "boolean `" ++ toString b ++ "`"
  | .datetime _ | .table _ _ _ => "map"
  | .array _ _ | .tables _ _ => "sequence"

/-- The problem of an item of the wrong type. -/
def wrongType (v : Item) (expected : String) : Problem :=
  { message := "invalid type: " ++ v.unexpected ++ ", expected " ++ expected, span := v.span? }

/-- A problem without a place of its own is placed at `sp`. -/
def placeAt {α} (sp : Option Span) : Except Problem α → Except Problem α
  | .error p => .error (if p.span.isNone then { p with span := sp } else p)
  | ok => ok

/-- A string item. -/
def readString (v : Item) (expected : String) : Except Problem String :=
  match v with
  | .string s _ => .ok s
  | _ => .error (wrongType v expected)

/-- A boolean item. -/
def readBool (v : Item) : Except Problem Bool :=
  match v with
  | .boolean b _ => .ok b
  | _ => .error (wrongType v "a boolean")

/-- A PD16 module letter. -/
def readDevice (v : Item) : Except Problem Module := do
  let s ← readString v "a string"
  match Module.parse? s with
  | some m => pure m
  | none => throw { message := (Error.invalidDevice s).message, span := none }

/-- A `pd16` element: a table with a `device` key, or an array whose first item is the
device. A date or time reads as a table without that key. -/
def readModule (v : Item) : Except Problem Module :=
  placeAt v.span? <|
  match v with
  | .table entries _ _ => do
    let found ← entries.foldlM (fun found (k, w) =>
      if k.name = "device" then do
        let m ← placeAt (w.span? <|> some k.span) (readDevice w)
        pure (some m)
      else pure found) none
    match found with
    | some m => pure m
    | none => throw { message := "missing field `device`", span := none }
  -- a date or time reads as a table whose one key is not `device`
  | .datetime _ => throw { message := "missing field `device`", span := none }
  | .array items _ =>
    match items with
    | [] => throw { message := "invalid length 0, expected struct Pd16Config with 1 element", span := none }
    | first :: _ => readDevice first
  | other => throw (wrongType other "struct Pd16Config")

/-- The `pd16` list. -/
def readModules (v : Item) : Except Problem (List Module) :=
  placeAt v.span? <|
  match v with
  | .array items _ | .tables items _ => items.mapM readModule
  | other => throw (wrongType other "a sequence")

end Toml

open Toml in
/-- The settings of a top-level table, keys taken in the order they were written. -/
def Settings.ofTable (t : Table) : Except Problem Settings :=
  placeAt t.span <| t.entries.foldlM (fun (s : Settings) (k, v) =>
    placeAt (v.span? <|> some k.span) <|
    match k.name with
    | "protocol" => do pure { s with protocol := some (← readString v "path string") }
    | "fallback" => do pure { s with fallback := ← readBool v }
    | "output" => do pure { s with output := some (← readString v "a string") }
    | "no_color" => do pure { s with noColor := some (← readBool v) }
    | "pd16" => do pure { s with modules := ← readModules v }
    | _ => pure s) {}

/-- Read a settings file; a problem is reported with the line it is on. -/
def Settings.parse (text : String) : Except String Settings :=
  match Toml.readDocument text >>= Settings.ofTable with
  | .ok s => .ok s
  | .error p => .error (p.render text)

/-- Settings given on the command line. -/
structure Overrides where
  protocol : Option String := none
  noFallback : Bool := false
  output : Option Format := none
  noColor : Bool := false
  modules : List Module := []
  deriving Repr, Inhabited

/-- Settings in force, once the command line and the file are combined. -/
structure Resolved where
  protocol : Option String
  fallback : Bool
  output : Format
  noColor : Bool
  modules : List Module
  deriving Repr, Inhabited

/-- Combine the file's settings with the command line's, which take precedence. -/
def Settings.merge (s : Settings) (o : Overrides) : Except String Resolved := do
  let output ← match o.output, s.output with
    | some f, _ => pure f
    | none, some name =>
      match Format.ofName? name with
      | some f => pure f
      | none => throw ("invalid output format in config: invalid variant: " ++ name)
    | none, none => pure .table
  pure {
    protocol := o.protocol <|> s.protocol
    fallback := s.fallback && !o.noFallback
    output := output
    noColor := o.noColor || s.noColor.getD false
    modules := if o.modules.isEmpty then s.modules else o.modules }

end CanDecoder
