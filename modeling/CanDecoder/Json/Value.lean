import CanDecoder.Decimal.Text

/-!
# JSON values

A JSON value as definition documents and reports hold it. Numbers keep their kind: an
unsigned integer up to `2^64 - 1`, a negative integer down to `-2^63`, or a binary64
float. Objects are lists of fields; a document reader keeps them sorted by key with one
entry per key, while a report writes its fields in the order it lists them.

Two written forms: compact (no blanks) and pretty (two-space indentation, a space after
each colon, empty arrays and objects as `[]` and `{}`). Strings escape the quote, the
backslash and control characters; floats use the shortest digits, and a non-finite float
is written `null`.
-/

namespace CanDecoder.Json

/-- A JSON number. -/
inductive Number where
  /-- An integer from `0` to `2^64 - 1`. -/
  | unsigned (n : Nat)
  /-- An integer from `-2^63` to `-1`. -/
  | negative (n : Int)
  | float (x : Float)
  deriving Repr

/-- A JSON value. -/
inductive Value where
  | null
  | bool (b : Bool)
  | num (n : Number)
  | str (s : String)
  | arr (items : List Value)
  | obj (fields : List (String × Value))
  deriving Repr, Inhabited

namespace Value

/-- The field `key` of an object. -/
def field? (v : Value) (key : String) : Option Value :=
  match v with
  | .obj fields => fields.lookup key
  | _ => none

/-- Put `key` into a sorted field list, replacing an earlier value of the same key. -/
def insertField (key : String) (v : Value) : List (String × Value) → List (String × Value)
  | [] => [(key, v)]
  | (k, w) :: rest =>
    if key < k then (key, v) :: (k, w) :: rest
    else if key = k then (key, v) :: rest
    else (k, w) :: insertField key v rest

end Value

/-- The hex digit of `n < 16`, lower case. -/
def hexDigit (n : Nat) : Char := if n < 10 then Char.ofNat (48 + n) else Char.ofNat (87 + n)

/-- A string as a JSON string literal. -/
def quote (s : String) : String :=
  let esc : Char → List Char := fun c =>
    if c = '"' then ['\\', '"']
    else if c = '\\' then ['\\', '\\']
    else if c = '\n' then ['\\', 'n']
    else if c = '\r' then ['\\', 'r']
    else if c = '\t' then ['\\', 't']
    else if c.toNat = 8 then ['\\', 'b']
    else if c.toNat = 12 then ['\\', 'f']
    else if c.toNat < 32 then ['\\', 'u', '0', '0', hexDigit (c.toNat / 16), hexDigit (c.toNat % 16)]
    else [c]
  String.ofList ('"' :: s.toList.flatMap esc ++ ['"'])

/-- The text of a number. -/
def Number.text : Number → String
  | .unsigned n => toString n
  | .negative n => toString n
  | .float x =>
    match Decimal.Binary.ofFloat x with
    | .finite .. => Decimal.jsonText x
    | _ => "null"

mutual
/-- The compact text of a value. -/
def Value.compact : Value → String
  | .null => "null"
  | .bool b => if b then "true" else "false"
  | .num n => n.text
  | .str s => quote s
  | .arr items => "[" ++ compactItems items ++ "]"
  | .obj fields => "\x7b" ++ compactFields fields ++ "\x7d"

/-- Compact texts of array items, comma separated. -/
def compactItems : List Value → String
  | [] => ""
  | [v] => v.compact
  | v :: vs => v.compact ++ "," ++ compactItems vs

/-- Compact texts of object fields, comma separated. -/
def compactFields : List (String × Value) → String
  | [] => ""
  | [(k, v)] => quote k ++ ":" ++ v.compact
  | (k, v) :: rest => quote k ++ ":" ++ v.compact ++ "," ++ compactFields rest
end

/-- Indentation of `depth` levels. -/
def indent (depth : Nat) : String := String.ofList (List.replicate (2 * depth) ' ')

mutual
/-- The pretty text of a value whose first line starts at indentation `depth`. -/
def Value.prettyAt (depth : Nat) : Value → String
  | .arr [] => "[]"
  | .obj [] => "\x7b\x7d"
  | .arr (v :: vs) => "[\n" ++ prettyItems (depth + 1) (v :: vs) ++ "\n" ++ indent depth ++ "]"
  | .obj (f :: fs) => "\x7b\n" ++ prettyFields (depth + 1) (f :: fs) ++ "\n" ++ indent depth ++ "\x7d"
  | .null => "null"
  | .bool b => if b then "true" else "false"
  | .num n => n.text
  | .str s => quote s

/-- Pretty array items at indentation `depth`, one per line. -/
def prettyItems (depth : Nat) : List Value → String
  | [] => ""
  | [v] => indent depth ++ v.prettyAt depth
  | v :: vs => indent depth ++ v.prettyAt depth ++ ",\n" ++ prettyItems depth vs

/-- Pretty object fields at indentation `depth`, one per line. -/
def prettyFields (depth : Nat) : List (String × Value) → String
  | [] => ""
  | [(k, v)] => indent depth ++ quote k ++ ": " ++ v.prettyAt depth
  | (k, v) :: rest => indent depth ++ quote k ++ ": " ++ v.prettyAt depth ++ ",\n" ++ prettyFields depth rest
end

/-- The pretty text of a value. -/
def Value.pretty (v : Value) : String := v.prettyAt 0

end CanDecoder.Json
