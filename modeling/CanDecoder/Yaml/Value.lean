import CanDecoder.Yaml.Document
import CanDecoder.Json.Reader
import CanDecoder.Decimal.Literal

/-!
# YAML values

A YAML value is null, a truth value, a number, a string, a sequence, a mapping with keys
of any kind, or a value under a local tag (one written `!name`).

A plain scalar without a tag is resolved by its text: empty, `~` and `null` (also
`Null`, `NULL`) are null; `true` and `false` in three spellings are truth values; an
integer is decimal, `0x` hex, `0o` octal or `0b` binary, with an optional sign, where a
decimal with a leading zero is text; a float is a finite decimal literal or one of
`.inf`, `-.inf`, `.nan`. Quoted and block scalars are text. The tags `!!bool`, `!!int`,
`!!float` and `!!null` force their kind, and a text that does not fit is an error.

Integers that do not fit 64 bits are an error when read into a value. Two keys of a
mapping are the same when they are equal as values, where floats compare as numbers and
every NaN is the same.
-/

namespace CanDecoder.Yaml

/-- A YAML value. -/
inductive Value where
  | null
  | bool (b : Bool)
  | natural (n : Nat)
  | negative (n : Int)
  | float (x : Float)
  | str (s : String)
  | seq (items : List Value)
  | map (entries : List (Value × Value))
  | tagged (tag : String) (v : Value)
  deriving Inhabited

/-- The value under any tags. -/
def Value.untag : Value → Value
  | .tagged _ v => v.untag
  | v => v

/-- A resolved scalar, as met while reading. -/
inductive Scalar where
  | null
  | bool (b : Bool)
  | natural (n : Nat)
  | negative (n : Int)
  | wideNatural (n : Nat)
  | wideNegative (n : Int)
  | float (x : Float)
  | str (s : String)
  deriving Inhabited

/-- How a scalar is named in an error message. -/
def Scalar.unexpected : Scalar → String
  | .null => "unit value"
  | .bool b => "boolean `" ++ (if b then "true" else "false") ++ "`"
  | .natural n => "integer `" ++ toString n ++ "`"
  | .negative n => "integer `" ++ toString n ++ "`"
  | .wideNatural n => "integer `" ++ toString n ++ "` as u128"
  | .wideNegative n => "integer `" ++ toString n ++ "` as i128"
  | .float x => "floating point `" ++ Decimal.pointedText x ++ "`"
  | .str s => "string " ++ Text.quoted s

/-- `invalid type` message for finding `found` where `expected` was wanted. -/
def invalidType (found expected : String) : String :=
  "invalid type: " ++ found ++ ", expected " ++ expected

/-- The null spellings. -/
def isNullText (s : String) : Bool := s = "null" || s = "Null" || s = "NULL" || s = "~"

/-- The truth value spellings. -/
def boolOfText? (s : String) : Option Bool :=
  if s = "true" || s = "True" || s = "TRUE" then some true
  else if s = "false" || s = "False" || s = "FALSE" then some false
  else none

/-- Read digits in `radix` with an optional sign; the value must lie in
`[-lowBound, highBound)`. -/
def readRadix (radix : Nat) (highBound lowBound : Nat) (s : String) : Option Int :=
  let (neg, digits) := match s.toList with
    | '+' :: rest => (false, rest)
    | '-' :: rest => (true, rest)
    | cs => (false, cs)
  if digits.isEmpty then none
  else
    let value? := digits.foldl (fun acc c =>
      acc.bind fun n =>
        let d := if c.isDigit then c.toNat - 48
          else if 'a' ≤ c && c ≤ 'z' then c.toNat - 87
          else if 'A' ≤ c && c ≤ 'Z' then c.toNat - 55
          else 99
        if d < radix then some (radix * n + d) else none) (some 0)
    match value? with
    | none => none
    | some n =>
      if neg then (if n ≤ lowBound then some (-(n : Int)) else none)
      else if n < highBound then some n else none

/-- Whether a text is digits with a leading zero, after an optional sign: such a text is
not a number. -/
def digitsButNotNumber (s : String) : Bool :=
  let cs := match s.toList with
    | '+' :: rest | '-' :: rest => rest
    | cs => cs
  match cs with
  | '0' :: rest => !rest.isEmpty && rest.all Char.isDigit
  | _ => false

/-- The text after `p`, if `s` starts with it. -/
def afterPrefix? (p s : String) : Option String :=
  if p.toList.isPrefixOf s.toList then some (String.ofList (s.toList.drop p.length)) else none

/-- Whether a text starts with a sign. -/
def startsWithSign (s : String) : Bool := s.toList.head? = some '+' || s.toList.head? = some '-'

/-- Read an unsigned integer below `bound`: `0x`, `0o` and `0b` prefixes, an optional `+`. -/
def readUnsignedInt (bound : Nat) (s : String) : Option Nat :=
  let unpositive := (afterPrefix? "+" s).getD s
  let prefixed : List (String × Nat) := [("0x", 16), ("0o", 8), ("0b", 2)]
  let viaPrefix := prefixed.findSome? fun (p, radix) =>
    match afterPrefix? p unpositive with
    | some rest =>
      if startsWithSign rest then some none
      else (readRadix radix bound 0 rest).map fun n => some n.toNat
    | none => none
  match viaPrefix with
  | some r => r
  | none =>
    if startsWithSign unpositive || digitsButNotNumber s then none
    else (readRadix 10 bound 0 unpositive).map Int.toNat

/-- Read a negative integer of at least `-lowBound`: `-0x`, `-0o` and `-0b` prefixes. -/
def readNegativeInt (highBound lowBound : Nat) (s : String) : Option Int :=
  let prefixed : List (String × Nat) := [("-0x", 16), ("-0o", 8), ("-0b", 2)]
  let viaPrefix := prefixed.findSome? fun (p, radix) =>
    (afterPrefix? p s).bind fun rest => readRadix radix highBound lowBound ("-" ++ rest)
  match viaPrefix with
  | some n => some n
  | none => if digitsButNotNumber s then none else readRadix 10 highBound lowBound s

/-- Resolve an integer text. -/
def intOfText? (s : String) : Option Scalar :=
  match readUnsignedInt (Nat.pow 2 64) s with
  | some n => some (.natural n)
  | none =>
    match readNegativeInt (Nat.pow 2 63) (Nat.pow 2 63) s with
    | some n => some (if n < 0 then .negative n else .natural n.toNat)
    | none =>
      match readUnsignedInt (Nat.pow 2 128) s with
      | some n => some (.wideNatural n)
      | none => (readNegativeInt (Nat.pow 2 127) (Nat.pow 2 127) s).map fun n =>
        if n < 0 then .wideNegative n else .wideNatural n.toNat

/-- Resolve a float text: a finite decimal literal or a spelling of infinity or NaN. -/
def floatOfText? (s : String) : Option Float :=
  let unpositive? := match afterPrefix? "+" s with
    | some rest => if startsWithSign rest then none else some rest
    | none => some s
  match unpositive? with
  | none => none
  | some unpositive =>
    if unpositive = ".inf" || unpositive = ".Inf" || unpositive = ".INF" then some (Decimal.ofFields false 2047 0)
    else if s = "-.inf" || s = "-.Inf" || s = "-.INF" then some (Decimal.ofFields true 2047 0)
    else if s = ".nan" || s = ".NaN" || s = ".NAN" then some (Decimal.ofFields false 2047 (Nat.pow 2 51))
    else match Decimal.readLiteral unpositive with
      | .ok x => match Decimal.Binary.ofFloat x with
        | .finite _ _ _ => some x
        | _ => none
      | .error _ => none

/-- Resolve the text of a plain scalar without a tag. -/
def resolvePlain (s : String) : Scalar :=
  if s.isEmpty || isNullText s then .null
  else match boolOfText? s with
    | some b => .bool b
    | none =>
      match intOfText? s with
      | some n => n
      | none =>
        match (if digitsButNotNumber s then none else floatOfText? s) with
        | some x => .float x
        | none => .str s

/-- The core tag named `name`. -/
def coreTag (name : String) : List UInt8 := asciiBytes ("tag:yaml.org,2002:" ++ name)

/-- `invalid value` message for a scalar text that does not fit its tag. -/
def invalidValue (text expected : String) : String :=
  "invalid value: string " ++ Text.quoted text ++ ", expected " ++ expected

/-- Resolve a scalar event; `taggedAlready` when its tag was taken as a local tag. An
error is the message of a text that does not fit its core tag. -/
def resolveScalar (tag : Option (List UInt8)) (text : String) (style : ScalarStyle) (taggedAlready : Bool) :
    Except String Scalar :=
  match tag, taggedAlready with
  | some t, false =>
    if t = coreTag "bool" then
      match boolOfText? text with
      | some b => .ok (.bool b)
      | none => .error (invalidValue text "a boolean")
    else if t = coreTag "int" then
      match intOfText? text with
      | some n => .ok n
      | none => .error (invalidValue text "an integer")
    else if t = coreTag "float" then
      match floatOfText? text with
      | some x => .ok (.float x)
      | none => .error (invalidValue text "a float")
    else if t = coreTag "null" then
      if isNullText text then .ok .null else .error (invalidValue text "null")
    else if t.head? = some 33 && style = .plain then .ok (resolvePlain text)
    else .ok (.str text)
  | _, _ => .ok (if style = .plain then resolvePlain text else .str text)

/-- The local tag that makes a node a tagged value: a tag starting with `!`, without that
`!` unless it is the whole tag. -/
def localTag? (tag : Option (List UInt8)) : Option String :=
  match tag with
  | some (33 :: rest) =>
    let bytes := if rest.isEmpty then [33] else rest
    String.fromUTF8? ⟨bytes.toArray⟩
  | _ => none

/-! ## Equality of keys -/

/-- A tag without one leading `!`, as tags are compared; a lone `!` stays. -/
def tagName (t : String) : String :=
  match t.toList with
  | '!' :: rest@(_ :: _) => String.ofList rest
  | _ => t

mutual
/-- A text that two values share exactly when they are the same key. -/
def Value.canonical : Value → String
  | .null => "n"
  | .bool b => if b then "t" else "f"
  | .natural n => "p" ++ toString n
  | .negative n => "m" ++ toString n
  | .float x =>
    if x.isNaN then "dnan" else if x == 0 then "d0" else "d" ++ toString x.toBits
  | .str s => "s" ++ Json.quote s
  | .seq items => "[" ++ canonicalItems items ++ "]"
  | .map entries => "\x7b" ++ ",".intercalate (canonicalEntries entries).mergeSort ++ "\x7d"
  | .tagged t v => "!" ++ Json.quote (tagName t) ++ v.canonical

/-- The shared texts of sequence items. -/
def canonicalItems : List Value → String
  | [] => ""
  | v :: vs => v.canonical ++ "," ++ canonicalItems vs

/-- The shared texts of mapping entries. -/
def canonicalEntries : List (Value × Value) → List String
  | [] => []
  | (k, v) :: rest => (k.canonical ++ ":" ++ v.canonical) :: canonicalEntries rest
end

/-- The text of a number key in a message. -/
def numberText : Value → String
  | .natural n => toString n
  | .negative n => toString n
  | .float x =>
    match Decimal.Binary.ofFloat x with
    | .nan => ".nan"
    | .infinite neg => if neg then "-.inf" else ".inf"
    | _ => Decimal.shortestText false x
  | _ => ""

/-- The message of a key met twice in one mapping. -/
def duplicateKeyMessage : Value → String
  | .null => "duplicate entry with null key"
  | .bool b => "duplicate entry with key `" ++ (if b then "true" else "false") ++ "`"
  | .natural n => "duplicate entry with key " ++ numberText (.natural n)
  | .negative n => "duplicate entry with key " ++ numberText (.negative n)
  | .float x => "duplicate entry with key " ++ numberText (.float x)
  | .str s => "duplicate entry with key " ++ Text.quoted s
  | _ => "duplicate entry in YAML map"

end CanDecoder.Yaml
