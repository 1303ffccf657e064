import CanDecoder.Json.Value
import CanDecoder.Decimal.Nearest
import CanDecoder.Text.Quoted

/-!
# Reading JSON documents

A strict JSON reader that reports the first problem with its line and column. Columns
count bytes from the start of the line. A problem found at a character, whether it was
taken or only looked at, is placed one byte past its start, since the text is read byte by
byte; one found after a complete token is placed where reading stopped.

Numbers: an integer that fits 64 bits stays an integer (`-0` and integers beyond the
range become floats); a number with a fraction or exponent becomes a float computed as
`digits × 10^exponent` in binary64 steps — the digits, then one multiplication or
division by a power of ten from a table of exactly rounded powers (repeated divisions by
`10^308` below that range). Digits past the nineteenth or twentieth are dropped, an
exponent that overflows 32 bits gives zero or an error, and a finite value beyond
binary64 is an error. Nesting deeper than 127 containers is an error.
-/

namespace CanDecoder.Json

/-- What a reader found in place of an expected value. -/
inductive Found where
  | null
  | bool (b : Bool)
  | unsigned (n : Nat)
  | signed (n : Int)
  | float (x : Float)
  | str (s : String)
  | seq
  | map

/-- How a JSON reader names what it found. -/
def Found.describe : Found → String
  | .null => "null"
  | .bool b => "boolean `" ++ (if b then "true" else "false") ++ "`"
  | .unsigned n => "integer `" ++ toString n ++ "`"
  | .signed n => "integer `" ++ toString n ++ "`"
  | .float x => "floating point `" ++ Decimal.jsonText x ++ "`"
  | .str s => "string " ++ Text.quoted s
  | .seq => "sequence"
  | .map => "map"

/-- What a value is, for messages. -/
def Value.found : Value → Found
  | .null => .null
  | .bool b => .bool b
  | .num (.unsigned n) => .unsigned n
  | .num (.negative n) => .signed n
  | .num (.float x) => .float x
  | .str s => .str s
  | .arr _ => .seq
  | .obj _ => .map

/-- Why reading stopped. -/
inductive Problem where
  | eofList
  | eofObject
  | eofString
  | eofValue
  | expectedColon
  | expectedListEnd
  | expectedObjectEnd
  | expectedIdent
  | expectedValue
  | invalidEscape
  | invalidNumber
  | numberOutOfRange
  | controlCharacter
  | keyMustBeString
  | loneSurrogate
  | trailingComma
  | trailingCharacters
  | unexpectedEndOfHexEscape
  | recursionLimit
  | invalidType (found : Found) (expected : String)
  | duplicateField (name : String)
  | missingField (name : String)

/-- The text of a problem. -/
def Problem.message : Problem → String
  | .eofList => "EOF while parsing a list"
  | .eofObject => "EOF while parsing an object"
  | .eofString => "EOF while parsing a string"
  | .eofValue => "EOF while parsing a value"
  | .expectedColon => "expected `:`"
  | .expectedListEnd => "expected `,` or `]`"
  | .expectedObjectEnd => "expected `,` or `\x7d`"
  | .expectedIdent => "expected ident"
  | .expectedValue => "expected value"
  | .invalidEscape => "invalid escape"
  | .invalidNumber => "invalid number"
  | .numberOutOfRange => "number out of range"
  | .controlCharacter => "control character (\\u0000-\\u001F) found while parsing a string"
  | .keyMustBeString => "key must be a string"
  | .loneSurrogate => "lone leading surrogate in hex escape"
  | .trailingComma => "trailing comma"
  | .trailingCharacters => "trailing characters"
  | .unexpectedEndOfHexEscape => "unexpected end of hex escape"
  | .recursionLimit => "recursion limit exceeded"
  | .invalidType found expected => "invalid type: " ++ found.describe ++ ", expected " ++ expected
  | .duplicateField name => "duplicate field `" ++ name ++ "`"
  | .missingField name => "missing field `" ++ name ++ "`"

/-- A problem and the byte offset where it was found. -/
structure Fault where
  problem : Problem
  offset : Nat

/-- A problem with its line and column, as reported. -/
structure ReadError where
  problem : Problem
  line : Nat
  column : Nat

/-- The text of a read error: the problem, then its line and column. -/
def ReadError.message (e : ReadError) : String :=
  e.problem.message ++ " at line " ++ toString e.line ++ " column " ++ toString e.column

/-- A document being read: its characters and the byte offset where each starts (one
more entry for the end). -/
structure Source where
  chars : Array Char
  starts : Array Nat

/-- The source of a text. -/
def Source.ofString (s : String) : Source :=
  let cs := s.toList
  let starts := cs.foldl (fun (acc : Array Nat × Nat) c => (acc.1.push acc.2, acc.2 + c.utf8Size)) (#[], 0)
  ⟨cs.toArray, starts.1.push starts.2⟩

namespace Source

/-- The character at position `i`. -/
def peek (src : Source) (i : Nat) : Option Char := src.chars[i]?

/-- The byte offset of position `i`. -/
def offset (src : Source) (i : Nat) : Nat := (src.starts[i]?).getD (src.starts.back?.getD 0)

/-- The total number of bytes. -/
def size (src : Source) : Nat := src.offset src.chars.size

/-- A problem found after taking the characters before position `i`. -/
def stopAt {α} (src : Source) (i : Nat) (p : Problem) : Except Fault α :=
  .error ⟨p, src.offset i⟩

/-- A problem found at the character at position `i`: one byte past its start. -/
def lookAt {α} (src : Source) (i : Nat) (p : Problem) : Except Fault α :=
  .error ⟨p, if i < src.chars.size then src.offset i + 1 else src.size⟩

/-- Line and column of a byte offset: the column counts bytes since the last line feed. -/
def lineColumn (src : Source) (off : Nat) : Nat × Nat :=
  let (line, lineStart) := (List.range src.chars.size).foldl
    (fun (acc : Nat × Nat) i =>
      if src.offset i < off ∧ src.chars[i]? = some '\n' then (acc.1 + 1, src.offset i + 1) else acc)
    (1, 0)
  (line, off - lineStart)

/-- The reported form of a fault. -/
def report (src : Source) (f : Fault) : ReadError :=
  let (line, column) := src.lineColumn f.offset
  ⟨f.problem, line, column⟩

/-- The position after the blanks (space, tab, line feed, carriage return) from `i`. -/
def skipBlanks (src : Source) (i : Nat) : Nat :=
  let rec go : Nat → Nat → Nat
    | 0, j => j
    | fuel + 1, j =>
      match src.peek j with
      | some ' ' | some '\n' | some '\t' | some '\r' => go fuel (j + 1)
      | _ => j
  go (src.chars.size + 1) i

end Source

/-- A reader step: from a position to a result and the next position. -/
abbrev Step (α : Type) := Nat → Except Fault (α × Nat)

/-- Whether a number exceeds `2^64 - 1` once the digit `d` is appended. -/
def appendOverflows (n d : Nat) : Bool := n * 10 + d > Nat.pow 2 64 - 1

/-- Whether an exponent exceeds `2^31 - 1` once the digit `d` is appended. -/
def exponentOverflows (n d : Nat) : Bool := n * 10 + d > Nat.pow 2 31 - 1

/-- The binary64 powers of ten from `10^0` to `10^308`, each exactly rounded. -/
def powersOfTen : Array Float := (List.range 309).toArray.map fun (k : Nat) => Decimal.ofDecimal false 1 (k : Int)

/-- A number that is taken as a float. -/
inductive Parsed where
  | unsigned (n : Nat)
  | negative (n : Int)
  | float (x : Float)

/-- The value `±significand · 10^exponent` in binary64 steps, or out of range. -/
def floatOfParts (positive : Bool) (significand : Nat) (exponent : Int) : Option Float :=
  let rec go : Nat → Float → Int → Option Float
    | 0, f, _ => some f
    | fuel + 1, f, e =>
      match powersOfTen[e.natAbs]? with
      | some pow =>
        if 0 ≤ e then
          let g := f * pow
          if g.isInf then none else some g
        else some (f / pow)
      | none =>
        if f == 0.0 then some f
        else if 0 ≤ e then none
        else go fuel (f / (powersOfTen[308]?).getD 1.0) (e + 308)
  (go 8 (Decimal.ofDecimal false significand 0) exponent).map fun f => if positive then f else -f

section Numbers
variable (src : Source)

/-- The float at the end of a number, or an out-of-range problem at position `i`. -/
def finishFloat (positive : Bool) (significand : Nat) (exponent : Int) (i : Nat) :
    Except Fault (Parsed × Nat) :=
  match floatOfParts positive significand exponent with
  | some f => .ok (.float f, i)
  | none => src.stopAt i .numberOutOfRange

/-- Take the digits of an exponent from `i` on, then finish the number. -/
def exponentDigits (positive : Bool) (significand : Nat) (start : Int) (positiveExp : Bool) :
    Nat → Nat → Nat → Except Fault (Parsed × Nat)
  | 0, _, i => src.stopAt i .eofValue
  | fuel + 1, e, i =>
    match src.peek i with
    | some c =>
      if c.isDigit then
        let d := c.toNat - 48
        if exponentOverflows e d then
          -- an exponent beyond 32 bits: an error for a positive power of a non-zero
          -- significand, else zero
          if significand ≠ 0 ∧ positiveExp then src.stopAt (i + 1) .numberOutOfRange
          else
            let rest := (src.chars.toList.drop (i + 1)).takeWhile Char.isDigit
            .ok (.float (if positive then 0.0 else -0.0), i + 1 + rest.length)
        else exponentDigits positive significand start positiveExp fuel (e * 10 + d) (i + 1)
      else finishFloat src positive significand (if positiveExp then start + e else start - e) i
    | none => finishFloat src positive significand (if positiveExp then start + e else start - e) i

/-- Read an exponent; position `i` holds the `e` or `E`. -/
def exponentPart (positive : Bool) (significand : Nat) (start : Int) (i : Nat) :
    Except Fault (Parsed × Nat) :=
  let (positiveExp, j) := match src.peek (i + 1) with
    | some '+' => (true, i + 2)
    | some '-' => (false, i + 2)
    | _ => (true, i + 1)
  match src.peek j with
  | none => src.stopAt j .eofValue
  | some c =>
    if c.isDigit then exponentDigits src positive significand start positiveExp src.chars.size (c.toNat - 48) (j + 1)
    else src.lookAt j .invalidNumber

/-- Skip further digits once the significand is full, then read an exponent or finish. -/
def afterFullSignificand (positive : Bool) (significand : Nat) (exponent : Int) (i : Nat) :
    Except Fault (Parsed × Nat) :=
  let rest := (src.chars.toList.drop i).takeWhile Char.isDigit
  let j := i + rest.length
  match src.peek j with
  | some 'e' | some 'E' => exponentPart src positive significand exponent j
  | _ => finishFloat src positive significand exponent j

/-- Read the fraction digits; position `i` holds the point. -/
def fractionPart (positive : Bool) (significand : Nat) (before : Int) (i : Nat) :
    Except Fault (Parsed × Nat) :=
  let rec go : Nat → Nat → Nat → Nat → Except Fault (Parsed × Nat)
    | 0, _, _, j => src.stopAt j .eofValue
    | fuel + 1, sig, count, j =>
      match src.peek j with
      | some c =>
        if c.isDigit then
          let d := c.toNat - 48
          if appendOverflows sig d then afterFullSignificand src positive sig (before - count) j
          else go fuel (sig * 10 + d) (count + 1) (j + 1)
        else done sig count j
      | none => done sig count j
  , done (sig count j : Nat) : Except Fault (Parsed × Nat) :=
      if count = 0 then
        match src.peek j with
        | some _ => src.lookAt j .invalidNumber
        | none => src.lookAt j .eofValue
      else
        match src.peek j with
        | some 'e' | some 'E' => exponentPart src positive sig (before - count) j
        | _ => finishFloat src positive sig (before - count) j
  go (src.chars.size + 1) significand 0 (i + 1)

/-- After the integer digits: a fraction, an exponent, or an integer. -/
def afterInteger (positive : Bool) (significand : Nat) (i : Nat) : Except Fault (Parsed × Nat) :=
  match src.peek i with
  | some '.' => fractionPart src positive significand 0 i
  | some 'e' | some 'E' => exponentPart src positive significand 0 i
  | _ =>
    if positive then .ok (.unsigned significand, i)
    else if 1 ≤ significand ∧ significand ≤ Nat.pow 2 63 then .ok (.negative (-(significand : Int)), i)
    else .ok (.float (-(Decimal.ofDecimal false significand 0)), i)

/-- Digits beyond the 64-bit range only raise the power of ten. -/
def longInteger (positive : Bool) (significand : Nat) (i : Nat) : Except Fault (Parsed × Nat) :=
  let rest := (src.chars.toList.drop i).takeWhile Char.isDigit
  let j := i + rest.length
  match src.peek j with
  | some '.' => fractionPart src positive significand rest.length j
  | some 'e' | some 'E' => exponentPart src positive significand rest.length j
  | _ => finishFloat src positive significand rest.length j

/-- Read a number whose first digit is at position `i` (after any minus sign). -/
def number (positive : Bool) (i : Nat) : Except Fault (Parsed × Nat) :=
  match src.peek i with
  | none => src.stopAt i .eofValue
  | some '0' =>
    match src.peek (i + 1) with
    | some c => if c.isDigit then src.lookAt (i + 1) .invalidNumber else afterInteger src positive 0 (i + 1)
    | none => afterInteger src positive 0 (i + 1)
  | some c =>
    if c.isDigit then
      let rec go : Nat → Nat → Nat → Except Fault (Parsed × Nat)
        | 0, sig, j => afterInteger src positive sig j
        | fuel + 1, sig, j =>
          match src.peek j with
          | some d =>
            if d.isDigit then
              if appendOverflows sig (d.toNat - 48) then longInteger src positive sig j
              else go fuel (sig * 10 + (d.toNat - 48)) (j + 1)
            else afterInteger src positive sig j
          | none => afterInteger src positive sig j
      go (src.chars.size + 1) (c.toNat - 48) (i + 1)
    else src.lookAt i .invalidNumber

end Numbers

/-- The value of four ASCII hex digits. -/
def hexQuad? (cs : List Char) : Option Nat :=
  cs.foldl (fun acc c => acc.bind fun n =>
    if '0' ≤ c ∧ c ≤ '9' then some (16 * n + (c.toNat - 48))
    else if 'a' ≤ c ∧ c ≤ 'f' then some (16 * n + (c.toNat - 87))
    else if 'A' ≤ c ∧ c ≤ 'F' then some (16 * n + (c.toNat - 55))
    else none) (some 0)

section Strings
variable (src : Source)

/-- Read the four hex digits of a `\u` escape starting at position `i`. -/
def hexEscape (i : Nat) : Except Fault (Nat × Nat) :=
  if src.size < src.offset i + 4 then .error ⟨.eofString, src.size⟩
  else
    let four := (src.chars.toList.drop i).take 4
    match (if four.all (·.toNat < 128) then hexQuad? four else none) with
    | some n => .ok (n, i + 4)
    | none => .error ⟨.invalidEscape, src.offset i + 4⟩

/-- Read a `\u` escape (the `u` already taken) at position `i`; a high surrogate must be
followed by an escaped low surrogate. -/
def unicodeEscape (i : Nat) : Except Fault (Char × Nat) := do
  let (n, j) ← hexEscape src i
  if 0xDC00 ≤ n ∧ n ≤ 0xDFFF then src.stopAt j .loneSurrogate
  else if n < 0xD800 ∨ 0xDBFF < n then .ok (Char.ofNat n, j)
  else
    match src.peek j with
    | none => .error ⟨.eofString, src.size⟩
    | some '\\' =>
      match src.peek (j + 1) with
      | none => .error ⟨.eofString, src.size⟩
      | some 'u' =>
        let (n2, k) ← hexEscape src (j + 2)
        if 0xDC00 ≤ n2 ∧ n2 ≤ 0xDFFF then
          .ok (Char.ofNat (((n - 0xD800) * 1024 + (n2 - 0xDC00)) + 0x10000), k)
        else src.stopAt k .loneSurrogate
      | some _ => .error ⟨.unexpectedEndOfHexEscape, src.offset (j + 1) + 1⟩
    | some _ => .error ⟨.unexpectedEndOfHexEscape, src.offset j + 1⟩

/-- Read an escape whose backslash was at position `i - 1`. -/
def escape (i : Nat) : Except Fault (Char × Nat) :=
  match src.peek i with
  | none => .error ⟨.eofString, src.size⟩
  | some c =>
    if c = '"' then .ok ('"', i + 1)
    else if c = '\\' then .ok ('\\', i + 1)
    else if c = '/' then .ok ('/', i + 1)
    else if c = 'b' then .ok ('\x08', i + 1)
    else if c = 'f' then .ok ('\x0c', i + 1)
    else if c = 'n' then .ok ('\n', i + 1)
    else if c = 'r' then .ok ('\r', i + 1)
    else if c = 't' then .ok ('\t', i + 1)
    else if c = 'u' then unicodeEscape src (i + 1)
    else src.lookAt i .invalidEscape

/-- Read a string whose opening quote was at position `i - 1`. -/
def string (i : Nat) : Except Fault (String × Nat) :=
  let rec go : Nat → List Char → Nat → Except Fault (String × Nat)
    | 0, _, j => .error ⟨.eofString, src.offset j⟩
    | fuel + 1, acc, j =>
      match src.peek j with
      | none => .error ⟨.eofString, src.size⟩
      | some '"' => .ok (String.ofList acc.reverse, j + 1)
      | some '\\' =>
        match escape src (j + 1) with
        | .ok (c, k) => go fuel (c :: acc) k
        | .error f => .error f
      | some c =>
        if c.toNat < 32 then src.stopAt (j + 1) .controlCharacter
        else go fuel (c :: acc) (j + 1)
  go (src.chars.size + 1) [] i

end Strings

section Values
variable (src : Source)

/-- Take the rest of a keyword whose first letter is at position `i - 1`. -/
def keyword (rest : List Char) (i : Nat) : Except Fault Nat :=
  let rec go : List Char → Nat → Except Fault Nat
    | [], j => .ok j
    | c :: cs, j =>
      match src.peek j with
      | none => src.stopAt j .eofValue
      | some d => if d = c then go cs (j + 1) else src.lookAt j .expectedIdent
  go rest i

/-- The value of a parsed number. -/
def Parsed.value : Parsed → Value
  | .unsigned n => .num (.unsigned n)
  | .negative n => .num (.negative n)
  | .float x => .num (.float x)

mutual
/-- Read a value at position `i` (blanks first); `depth` counts the containers that may
still open. -/
def value (fuel depth : Nat) (i : Nat) : Except Fault (Value × Nat) :=
  match fuel with
  | 0 => src.stopAt i .eofValue
  | fuel + 1 =>
  let i := src.skipBlanks i
  match src.peek i with
  | none => src.lookAt i .eofValue
  | some 'n' => (keyword src "ull".toList (i + 1)).map fun j => (.null, j)
  | some 't' => (keyword src "rue".toList (i + 1)).map fun j => (.bool true, j)
  | some 'f' => (keyword src "alse".toList (i + 1)).map fun j => (.bool false, j)
  | some '-' => (number src false (i + 1)).map fun (p, j) => (p.value, j)
  | some '"' => (string src (i + 1)).map fun (s, j) => (.str s, j)
  | some '[' =>
    if depth ≤ 1 then src.lookAt i .recursionLimit
    else (items fuel (depth - 1) true [] (i + 1)).map fun (vs, j) => (.arr vs, j)
  | some '{' =>
    if depth ≤ 1 then src.lookAt i .recursionLimit
    else (fields fuel (depth - 1) true [] (i + 1)).map fun (fs, j) => (.obj fs, j)
  | some c =>
    if c.isDigit then (number src true i).map fun (p, j) => (p.value, j)
    else src.lookAt i .expectedValue

/-- Read array items from position `i`, after `acc` (reversed). -/
def items (fuel depth : Nat) (first : Bool) (acc : List Value) (i : Nat) :
    Except Fault (List Value × Nat) :=
  match fuel with
  | 0 => src.stopAt i .eofList
  | fuel + 1 =>
  let i := src.skipBlanks i
  match src.peek i with
  | some ']' => .ok (acc.reverse, i + 1)
  | none => src.lookAt i .eofList
  | some c =>
    let next : Except Fault Nat :=
      if c = ',' ∧ !first then .ok (src.skipBlanks (i + 1))
      else if first then .ok i
      else src.lookAt i .expectedListEnd
    match next with
    | .error f => .error f
    | .ok j =>
      match src.peek j with
      | some ']' => src.lookAt j .trailingComma
      | none => src.lookAt j .eofValue
      | some _ =>
        match value fuel depth j with
        | .ok (v, k) => items fuel depth false (v :: acc) k
        | .error f => .error f

/-- Read object fields from position `i`, into the sorted field list `acc`. -/
def fields (fuel depth : Nat) (first : Bool) (acc : List (String × Value)) (i : Nat) :
    Except Fault (List (String × Value) × Nat) :=
  match fuel with
  | 0 => src.stopAt i .eofObject
  | fuel + 1 =>
  let i := src.skipBlanks i
  match src.peek i with
  | some '\x7d' => .ok (acc, i + 1)
  | none => src.lookAt i .eofObject
  | some c =>
    let next : Except Fault Nat :=
      if c = ',' ∧ !first then .ok (src.skipBlanks (i + 1))
      else if first then .ok i
      else src.lookAt i .expectedObjectEnd
    match next with
    | .error f => .error f
    | .ok j =>
      match src.peek j with
      | some '"' =>
        match string src (j + 1) with
        | .error f => .error f
        | .ok (key, k) =>
          let k := src.skipBlanks k
          match src.peek k with
          | some ':' =>
            match value fuel depth (k + 1) with
            | .ok (v, l) => fields fuel depth false (Value.insertField key v acc) l
            | .error f => .error f
          | some _ => src.lookAt k .expectedColon
          | none => src.lookAt k .eofObject
      | some '\x7d' => src.lookAt j .trailingComma
      | some _ => src.lookAt j .keyMustBeString
      | none => src.lookAt j .eofValue
end

/-- The fuel for reading `src`: every step takes at least one character. -/
def Source.fuel (src : Source) : Nat := 2 * src.chars.size + 4

/-- The containers a document may open. -/
def maxDepth : Nat := 128

/-- Check that only blanks follow position `i`. -/
def finish (i : Nat) : Except Fault Unit :=
  let j := src.skipBlanks i
  if j < src.chars.size then src.lookAt j .trailingCharacters else .ok ()

/-- What stands at position `i` where a container of kind `expected` was wanted: the
token is read so that a broken one is reported as such. -/
def invalidTypeAt (expected : String) (i : Nat) : Fault :=
  let typeError (found : Found) (j : Nat) : Fault := ⟨.invalidType found expected, src.offset j⟩
  match src.peek i with
  | some 'n' => match keyword src "ull".toList (i + 1) with
    | .ok j => typeError .null j
    | .error f => f
  | some 't' => match keyword src "rue".toList (i + 1) with
    | .ok j => typeError (.bool true) j
    | .error f => f
  | some 'f' => match keyword src "alse".toList (i + 1) with
    | .ok j => typeError (.bool false) j
    | .error f => f
  | some '-' => match number src false (i + 1) with
    | .ok (p, j) => typeError (p.value.found) j
    | .error f => f
  | some '"' => match string src (i + 1) with
    | .ok (s, j) => typeError (.str s) j
    | .error f => f
  | some '[' => typeError .seq i
  | some '\x7b' => typeError .map i
  | some c =>
    if c.isDigit then
      match number src true i with
      | .ok (p, j) => typeError (p.value.found) j
      | .error f => f
    else ⟨.expectedValue, src.offset i + 1⟩
  | none => ⟨.expectedValue, src.size⟩

end Values

/-- Read a whole JSON document. -/
def read (text : String) : Except ReadError Value :=
  let src := Source.ofString text
  match value src src.fuel maxDepth 0 with
  | .error f => .error (src.report f)
  | .ok (v, i) =>
    match finish src i with
    | .error f => .error (src.report f)
    | .ok () => .ok v

end CanDecoder.Json

namespace CanDecoder.Json

/-- A field of the root object with the positions around it: after the key, at the first
character of the value and after the value. -/
structure Entry where
  key : String
  keyEnd : Nat
  valueStart : Nat
  valueEnd : Nat
  value : Value

/-- Read the root object's fields from position `i` in document order. -/
def rootFields (src : Source) (fuel depth : Nat) (first : Bool) (acc : List Entry) (i : Nat) :
    Except Fault (List Entry × Nat) :=
  match fuel with
  | 0 => src.stopAt i .eofObject
  | fuel + 1 =>
  let i := src.skipBlanks i
  match src.peek i with
  | some '\x7d' => .ok (acc.reverse, i + 1)
  | none => src.lookAt i .eofObject
  | some c =>
    let next : Except Fault Nat :=
      if c = ',' ∧ !first then .ok (src.skipBlanks (i + 1))
      else if first then .ok i
      else src.lookAt i .expectedObjectEnd
    match next with
    | .error f => .error f
    | .ok j =>
      match src.peek j with
      | some '"' =>
        match string src (j + 1) with
        | .error f => .error f
        | .ok (key, k) =>
          let k' := src.skipBlanks k
          match src.peek k' with
          | some ':' =>
            let start := src.skipBlanks (k' + 1)
            match value src src.fuel depth start with
            | .ok (v, l) => rootFields src fuel depth false (⟨key, k, start, l, v⟩ :: acc) l
            | .error f => .error f
          | some _ => src.lookAt k' .expectedColon
          | none => src.lookAt k' .eofObject
      | some '\x7d' => src.lookAt j .trailingComma
      | some _ => src.lookAt j .keyMustBeString
      | none => src.lookAt j .eofValue

/-- Read a document whose root must be an object, keeping its fields in document order.
Anything else at the root is reported as the wrong type, expected a map. -/
def readRoot (text : String) : Except ReadError (Source × List Entry) :=
  let src := Source.ofString text
  let i := src.skipBlanks 0
  let result : Except Fault (List Entry) :=
    match src.peek i with
    | none => src.lookAt i .eofValue
    | some '\x7b' =>
      match rootFields src src.fuel (maxDepth - 1) true [] (i + 1) with
      | .ok (es, j) => (finish src j).map fun () => es
      | .error f => .error f
    | some _ => .error (invalidTypeAt src "a map" i)
  match result with
  | .ok es => .ok (src, es)
  | .error f => .error (src.report f)

/-- The fields of a root object as a map: sorted by key, a later field replacing an
earlier one with the same key. -/
def entriesMap (es : List Entry) : List (String × Value) :=
  es.foldl (fun m e => Value.insertField e.key e.value m) []

/-- The wrong-type fault for the value of an entry: after a scalar, at the bracket of a
container. -/
def Entry.typeFault (src : Source) (e : Entry) (expected : String) : Fault :=
  match e.value with
  | .arr _ | .obj _ => ⟨.invalidType e.value.found expected, src.offset e.valueStart⟩
  | v => ⟨.invalidType v.found expected, src.offset e.valueEnd⟩

end CanDecoder.Json
