import CanDecoder.Toml.Rule
import CanDecoder.Decimal.Literal

/-!
# The lexical rules of TOML

Blanks, comments and line ends; the four kinds of strings; keys, plain or quoted and
joined by dots; integers in four bases, floats, booleans and dates and times. Every rule
reads bytes of the document: a non-ASCII character is a run of bytes from `0x80` up, and
everywhere text is allowed all of them are.

A string escape, a digit after an underscore, the rest of a date once its first dash is
seen, and a number that does not fit 64 bits are cut failures: no other reading of the
value is tried after them.
-/

namespace CanDecoder.Toml

/-- The bytes of a document. -/
structure Source where
  bytes : Array UInt8

/-- A range `[start, stop)` of byte offsets. -/
structure Span where
  start : Nat
  stop : Nat
  deriving Repr, Inhabited, DecidableEq

/-- A key as written: its name and where it stands. -/
structure Key where
  name : String
  span : Span
  deriving Repr, Inhabited

/-- The byte of an ASCII character. -/
def ch (c : Char) : UInt8 := c.toNat.toUInt8

/-- The most nested arrays, inline tables and dotted key parts a document may use, plus one. -/
def nestingLimit : Nat := 80

namespace Source

/-- The text of bytes `[start, stop)`, which begin and end at character boundaries. -/
def text (s : Source) (start stop : Nat) : String :=
  (String.fromUTF8? ⟨(s.bytes.extract start stop)⟩).getD ""

/-- How many bytes from `i + acc` on satisfy `p`, counting on from `acc`, at most `cap` more. -/
def countWhile (s : Source) (p : UInt8 → Bool) (i acc : Nat) : Nat → Nat
  | 0 => acc
  | cap + 1 =>
    match s.bytes[i + acc]? with
    | some b => if p b then s.countWhile p i (acc + 1) cap else acc
    | none => acc

/-- Whether the bytes from `i` on start with `bs`. -/
def startsWithAt (s : Source) (i : Nat) : List UInt8 → Bool
  | [] => true
  | b :: bs => s.bytes[i]? == some b && s.startsWithAt (i + 1) bs

/-- A bound on the steps any repetition over the document can take. -/
def bound (s : Source) : Nat := s.bytes.size + 1

end Source

/-! ## Byte classes -/

/-- Space or tab. -/
def isBlank (b : UInt8) : Bool := b == 0x20 || b == 0x09

/-- A byte of a non-ASCII character. -/
def isHigh (b : UInt8) : Bool := 0x80 ≤ b

/-- A byte a comment may hold. -/
def isCommentByte (b : UInt8) : Bool := b == 0x09 || (0x20 ≤ b && b ≤ 0x7E) || isHigh b

/-- A byte a basic string holds as it is. -/
def isBasicByte (b : UInt8) : Bool :=
  isBlank b || b == 0x21 || (0x23 ≤ b && b ≤ 0x5B) || (0x5D ≤ b && b ≤ 0x7E) || isHigh b

/-- A byte a literal string may hold. -/
def isLiteralByte (b : UInt8) : Bool :=
  b == 0x09 || (0x20 ≤ b && b ≤ 0x26) || (0x28 ≤ b && b ≤ 0x7E) || isHigh b

/-- A decimal digit. -/
def isDigitByte (b : UInt8) : Bool := ch '0' ≤ b && b ≤ ch '9'

/-- A hexadecimal digit. -/
def isHexByte (b : UInt8) : Bool :=
  isDigitByte b || (ch 'a' ≤ b && b ≤ ch 'f') || (ch 'A' ≤ b && b ≤ ch 'F')

/-- A byte of a plain key. -/
def isKeyByte (b : UInt8) : Bool :=
  isDigitByte b || (ch 'a' ≤ b && b ≤ ch 'z') || (ch 'A' ≤ b && b ≤ ch 'Z') || b == ch '-' || b == ch '_'

/-- A sign. -/
def isSign (b : UInt8) : Bool := b == ch '+' || b == ch '-'

/-- The value of a hexadecimal digit. -/
def hexValue (b : UInt8) : Nat :=
  if isDigitByte b then b.toNat - 48
  else if ch 'a' ≤ b && b ≤ ch 'f' then b.toNat - 87
  else b.toNat - 55

/-! ## Byte rules -/

section Bytes

variable (s : Source)

/-- Any one byte. -/
def anyByte : Rule UInt8 := fun i =>
  match s.bytes[i]? with
  | some b => .ok (b, i + 1)
  | none => .error { pos := i }

/-- One byte satisfying `p`. -/
def byteWhere (p : UInt8 → Bool) : Rule UInt8 := fun i =>
  match s.bytes[i]? with
  | some b => if p b then .ok (b, i + 1) else .error { pos := i }
  | none => .error { pos := i }

/-- The byte `b`. -/
def byte (b : UInt8) : Rule Unit := fun i =>
  if s.bytes[i]? == some b then .ok ((), i + 1) else .error { pos := i }

/-- The bytes `bs`. -/
def bytesOf (bs : List UInt8) : Rule Unit := fun i =>
  if s.startsWithAt i bs then .ok ((), i + bs.length) else .error { pos := i }

/-- The next byte, if any, without consuming it. -/
def nextByte : Rule (Option UInt8) := fun i => .ok (s.bytes[i]?, i)

/-- At least `min` and at most `max` bytes satisfying `p`, as a span. -/
def takeWhile (min max : Nat) (p : UInt8 → Bool) : Rule Span := fun i =>
  let n := s.countWhile p i 0 max
  if n < min then .error { pos := i } else .ok (⟨i, i + n⟩, i + n)

/-- Any number of bytes satisfying `p`. -/
def skipWhile (p : UInt8 → Bool) : Rule Unit := do
  let _ ← takeWhile s 0 s.bytes.size p
  pure ()

/-- The end of the document. -/
def eof : Rule Unit := fun i => if i < s.bytes.size then .error { pos := i } else .ok ((), i)

end Bytes

/-! ## Blanks, comments and line ends -/

section Trivia

variable (s : Source)

/-- Spaces and tabs. -/
def blanks : Rule Unit := skipWhile s isBlank

/-- A comment: `#` and the rest of the line. -/
def comment : Rule Unit := do
  byte s (ch '#')
  skipWhile s isCommentByte

/-- A line feed, alone or after a carriage return. -/
def newline : Rule Unit := (byte s 0x0A).orElse (do byte s 0x0D; byte s 0x0A)

/-- A line end or the end of the document. -/
def lineEnd : Rule Unit := (newline s).orElse (eof s)

/-- Blanks, an optional comment and the line end. -/
def lineTrailing : Rule Unit := do
  blanks s
  let _ ← (comment s).opt
  lineEnd s

/-- Blanks and line ends. -/
def blanksAndNewlines : Rule Unit := do
  let _ ← Rule.many ((newline s).orElse (do let _ ← takeWhile s 1 s.bytes.size isBlank; pure ())) s.bound
  pure ()

/-- A line end, then blanks and line ends. -/
def newlines : Rule Unit := do
  newline s
  blanksAndNewlines s

/-- Blanks, line ends and comments, each comment ending its line. -/
def blanksCommentsNewlines : Rule Unit := do
  for _ in [0:s.bound] do
    blanks s
    match ← nextByte s with
    | some b =>
      if b == ch '#' then do comment s; newline s
      else if b == 0x0A || b == 0x0D then newline s
      else break
    | none => break

end Trivia

/-! ## Strings -/

section Strings

variable (s : Source)

/-- The character of `n` hexadecimal digits after `\u` or `\U`. -/
def hexEscape (n : Nat) : Rule Char :=
  ((takeWhile s 0 n isHexByte).ensure (fun sp => sp.stop - sp.start = n)).check fun sp =>
    let v := ((s.bytes.extract sp.start sp.stop).toList).foldl (fun acc b => 16 * acc + hexValue b) 0
    if v < 0xD800 || (0xDFFF < v && v ≤ 0x10FFFF) then .ok (Char.ofNat v)
    else .error "value is out of range"

/-- The character an escape stands for, after its backslash. -/
def escapeChar : Rule Char := do
  let b ← anyByte s
  if b == ch 'b' then pure (Char.ofNat 8)
  else if b == ch 'f' then pure (Char.ofNat 12)
  else if b == ch 'n' then pure '\n'
  else if b == ch 'r' then pure '\r'
  else if b == ch 't' then pure '\t'
  else if b == ch 'u' then (hexEscape s 4).cut.labelled "unicode 4-digit hex code"
  else if b == ch 'U' then (hexEscape s 8).cut.labelled "unicode 8-digit hex code"
  else if b == ch '\\' then pure '\\'
  else if b == ch '"' then pure '"'
  else
    ((["b", "f", "n", "r", "t", "u", "U", "\\", "\""].foldl
      (fun r c => r.expecting ("`" ++ c ++ "`")) (Rule.fail.cut.labelled "escape sequence")) : Rule Char)

/-- A backslash escape. -/
def escaped : Rule Char := do
  byte s (ch '\\')
  escapeChar s

/-- A run of plain characters or one escape of a basic string. -/
def basicPiece : Rule String :=
  (do let sp ← takeWhile s 1 s.bytes.size isBasicByte; pure (s.text sp.start sp.stop)).orElse
    (do let c ← escaped s; pure c.toString)

/-- A basic string, in double quotes. -/
def basicString : Rule String := do
  byte s (ch '"')
  let pieces ← Rule.many (basicPiece s) s.bound
  (byte s (ch '"')).cut.labelled "basic string"
  pure (String.join pieces)

/-- One or two quotes inside a multi-line string, followed by what `follow` accepts. -/
def innerQuotes (quote : UInt8) (follow : Rule Unit) : Rule String := fun i =>
  match (do bytesOf s [quote, quote]; follow.peek) i with
  | .ok (_, j) => .ok (String.ofList [Char.ofNat quote.toNat, Char.ofNat quote.toNat], j)
  | .error e =>
    if e.cut then .error e
    else (do byte s quote; follow.peek; pure (String.singleton (Char.ofNat quote.toNat))) i

/-- A piece of a multi-line basic string: plain characters, a line-ending backslash with
the blanks after it, an escape or a line end. -/
def multiBasicPiece : Rule String :=
  (do let sp ← takeWhile s 1 s.bytes.size isBasicByte; pure (s.text sp.start sp.stop)).orElse <|
  (do
    let escapedLineEnd : Rule Unit := do byte s (ch '\\'); blanks s; newlines s
    escapedLineEnd
    let _ ← Rule.many escapedLineEnd s.bound
    pure "").orElse <|
  (do let c ← escaped s; pure c.toString).orElse
  (do newline s; pure "\n")

/-- The body of a multi-line basic string. -/
def multiBasicBody : Rule String := do
  let first ← Rule.many (multiBasicPiece s) s.bound
  let mut acc := String.join first
  let notQuote : Rule Unit := do let _ ← byteWhere s (· != ch '"'); pure ()
  for _ in [0:s.bound] do
    match ← (innerQuotes s (ch '"') notQuote).opt with
    | none => break
    | some q =>
      match ← (multiBasicPiece s).opt with
      | none => break
      | some c =>
        let more ← Rule.many (multiBasicPiece s) s.bound
        acc := acc ++ q ++ c ++ String.join more
  match ← (innerQuotes s (ch '"') (bytesOf s [ch '"', ch '"', ch '"'])).opt with
  | some q => pure (acc ++ q)
  | none => pure acc

/-- A multi-line basic string, in triple double quotes; a line end right after the
opening quotes is dropped. -/
def multiBasicString : Rule String :=
  (do
    bytesOf s [ch '"', ch '"', ch '"']
    let _ ← (newline s).opt
    let body ← (multiBasicBody s).cut
    (bytesOf s [ch '"', ch '"', ch '"']).cut
    pure body).labelled "multiline basic string"

/-- A literal string, in single quotes. -/
def literalString : Rule String :=
  (do
    byte s (ch '\'')
    let sp ← (takeWhile s 0 s.bytes.size isLiteralByte).cut
    (byte s (ch '\'')).cut
    pure (s.text sp.start sp.stop)).labelled "literal string"

/-- A character or line end of a multi-line literal string. -/
def multiLiteralPiece : Rule Unit := (do let _ ← byteWhere s isLiteralByte; pure ()).orElse (newline s)

/-- The body of a multi-line literal string. -/
def multiLiteralBody : Rule Unit := do
  let _ ← Rule.many (multiLiteralPiece s) s.bound
  let notApostrophe : Rule Unit := do let _ ← byteWhere s (· != ch '\''); pure ()
  let _ ← Rule.many (do
    let _ ← innerQuotes s (ch '\'') notApostrophe
    multiLiteralPiece s
    let _ ← Rule.many (multiLiteralPiece s) s.bound
    pure ()) s.bound
  let _ ← (innerQuotes s (ch '\'') (bytesOf s [ch '\'', ch '\'', ch '\''])).opt
  pure ()

/-- Replace every carriage return and line feed pair by a line feed. -/
def joinLineEnds : List Char → List Char
  | '\r' :: '\n' :: rest => '\n' :: joinLineEnds rest
  | c :: rest => c :: joinLineEnds rest
  | [] => []

/-- A multi-line literal string, in triple single quotes. -/
def multiLiteralString : Rule String :=
  (do
    bytesOf s [ch '\'', ch '\'', ch '\'']
    let _ ← (newline s).opt
    let ((), sp) ← (multiLiteralBody s).cut.spanned
    (bytesOf s [ch '\'', ch '\'', ch '\'']).cut
    pure (String.ofList (joinLineEnds (s.text sp.1 sp.2).toList))).labelled "multiline literal string"

/-- A string of any of the four kinds. -/
def stringValue : Rule String :=
  (multiBasicString s).orElse ((basicString s).orElse ((multiLiteralString s).orElse (literalString s)))

end Strings

/-! ## Keys -/

section Keys

variable (s : Source)

/-- A key part: a plain key or a quoted string. -/
def simpleKey : Rule Key := do
  let start ← Rule.offset
  let b ← (anyByte s).peek
  let name ← if b == ch '"' then basicString s
    else if b == ch '\'' then literalString s
    else do
      let sp ← takeWhile s 1 s.bytes.size isKeyByte
      pure (s.text sp.start sp.stop)
  let stop ← Rule.offset
  pure ⟨name, ⟨start, stop⟩⟩

/-- A key: parts joined by dots, each with blanks around it. -/
def keyPath : Rule (List Key) :=
  ((Rule.sepBy1 (do blanks s; let k ← simpleKey s; blanks s; pure k) (byte s (ch '.')) s.bound).labelled
    "key").check fun ks =>
      if ks.length < nestingLimit then .ok ks else .error "recursion limit exceeded"

end Keys

/-! ## Numbers, booleans, dates and times -/

section Numbers

variable (s : Source)

/-- The digits of `[start, stop)` without underscores. -/
def Source.digitsIn (s : Source) (sp : Span) : List UInt8 :=
  (s.bytes.extract sp.start sp.stop).toList.filter (· != ch '_')

/-- The message of an integer that does not fit 64 bits. -/
def overflowMessage (negative : Bool) : String :=
  if negative then "number too small to fit in target type" else "number too large to fit in target type"

/-- The 64-bit integer written by `bytes`, an optional sign and digits in `radix`. -/
def int64Of (radix : Nat) (bytes : List UInt8) : Except String Int :=
  let (negative, digits) := match bytes with
    | b :: rest => if b == ch '-' then (true, rest) else if b == ch '+' then (false, rest) else (false, bytes)
    | [] => (false, [])
  let n := digits.foldl (fun acc b => radix * acc + hexValue b) 0
  if negative then (if n ≤ Nat.pow 2 63 then .ok (-(n : Int)) else .error (overflowMessage true))
  else if n < Nat.pow 2 63 then .ok n else .error (overflowMessage false)

/-- A digit, or an underscore that must be followed by one. -/
def digitOrJoined (isDigit : UInt8 → Bool) : Rule Unit :=
  (do let _ ← byteWhere s isDigit; pure ()).orElse
    (do byte s (ch '_'); let _ ← ((byteWhere s isDigit).cut.expecting "digit"); pure ())

/-- A decimal integer as written: a sign, then `0` or digits without a leading zero. -/
def decimalInt : Rule Span :=
  (do
    let ((), sp) ← Rule.spanned (do
      let _ ← (byteWhere s isSign).opt
      (do
        let _ ← byteWhere s (fun b => ch '1' ≤ b && b ≤ ch '9')
        let _ ← Rule.many (digitOrJoined s isDigitByte) s.bound
        pure ()).orElse (do let _ ← byteWhere s isDigitByte; pure ()))
    pure (Span.mk sp.1 sp.2)).labelled "integer"

/-- An integer with a base prefix; gives the span of its digits. -/
def prefixedInt (pre : List UInt8) (isDigit : UInt8 → Bool) (label : String) : Rule Span :=
  (do
    bytesOf s pre
    let ((), sp) ← (Rule.spanned (do
      let _ ← byteWhere s isDigit
      let _ ← Rule.many (digitOrJoined s isDigit) s.bound
      pure ())).cut
    pure (Span.mk sp.1 sp.2)).labelled label

/-- An integer: hexadecimal, octal or binary after `0x`, `0o`, `0b`, else decimal. -/
def integer : Rule Int := do
  let start ← Rule.offset
  let radixOf := fun (pre : Char) (radix : Nat) (isDigit : UInt8 → Bool) (label : String) =>
    (((prefixedInt s [ch '0', ch pre] isDigit label).check fun sp => int64Of radix (s.digitsIn sp)) : Rule Int).cut
  if s.startsWithAt start [ch '0', ch 'x'] then radixOf 'x' 16 isHexByte "hexadecimal integer"
  else if s.startsWithAt start [ch '0', ch 'o'] then
    radixOf 'o' 8 (fun b => ch '0' ≤ b && b ≤ ch '7') "octal integer"
  else if s.startsWithAt start [ch '0', ch 'b'] then
    radixOf 'b' 2 (fun b => b == ch '0' || b == ch '1') "binary integer"
  else (decimalInt s).reread fun sp =>
    match int64Of 10 (s.digitsIn sp) with
    | .ok n => .ok n
    | .error msg => .error { pos := 0, cause := some msg, cut := true }

/-- Digits where a leading zero is allowed. -/
def digitRun : Rule Unit := do
  let _ ← byteWhere s isDigitByte
  let _ ← Rule.many (digitOrJoined s isDigitByte) s.bound
  pure ()

/-- A fraction: a point and digits. -/
def fraction : Rule Unit := do
  byte s (ch '.')
  (digitRun s).cut.expecting "digit"

/-- An exponent: `e` or `E`, a sign and digits. -/
def exponent : Rule Unit := do
  let _ ← byteWhere s (fun b => b == ch 'e' || b == ch 'E')
  let _ ← (byteWhere s isSign).opt
  (digitRun s).cut

/-- A float as written with digits. -/
def floatDigits : Rule Span := do
  let ((), sp) ← Rule.spanned (do
    let _ ← decimalInt s
    (exponent s).orElse (do fraction s; let _ ← (exponent s).opt; pure ()))
  pure (Span.mk sp.1 sp.2)

/-- Positive infinity. -/
def infinity : Float := Decimal.ofFields false 2047 0

/-- A quiet NaN. -/
def notANumber : Float := Decimal.ofFields false 2047 (Nat.pow 2 51)

/-- `inf` or `nan` with an optional sign. -/
def specialFloat : Rule Float := do
  let sign ← (byteWhere s isSign).opt
  let x ← (do bytesOf s [ch 'i', ch 'n', ch 'f']; pure infinity).orElse
    (do bytesOf s [ch 'n', ch 'a', ch 'n']; pure notANumber)
  pure (if sign == some (ch '-') then -x else x)

/-- A float: digits with a fraction or exponent, or a special value. A float too large for
64 bits is an error. -/
def float : Rule Float :=
  (((floatDigits s).reread fun sp =>
    let text := String.ofList ((s.digitsIn sp).map fun b => Char.ofNat b.toNat)
    match Decimal.readLiteral text with
    | .ok x => if x == infinity then .error { pos := 0, cut := true } else .ok x
    | .error _ => .error { pos := 0, cut := true }).orElse (specialFloat s)).labelled "floating-point number"

/-- `true`, once its first letter is seen. -/
def trueValue : Rule Bool := do
  (byte s (ch 't')).peek
  (bytesOf s [ch 't', ch 'r', ch 'u', ch 'e']).cut
  pure true

/-- `false`, once its first letter is seen. -/
def falseValue : Rule Bool := do
  (byte s (ch 'f')).peek
  (bytesOf s [ch 'f', ch 'a', ch 'l', ch 's', ch 'e']).cut
  pure false

/-- Exactly `n` digits, with their value. -/
def digitsValue (n : Nat) : Rule Nat := do
  let sp ← takeWhile s n n isDigitByte
  pure ((s.bytes.extract sp.start sp.stop).toList.foldl (fun acc b => 10 * acc + (b.toNat - 48)) 0)

/-- Two digits with a value from `lo` to `hi`. -/
def twoDigitsIn (lo hi : Nat) : Rule Nat :=
  (digitsValue s 2).check fun v => if lo ≤ v && v ≤ hi then .ok v else .error "value is out of range"

/-- The number of days of a month. -/
def daysInMonth (year month : Nat) : Nat :=
  let leap := year % 4 = 0 && (year % 100 != 0 || year % 400 = 0)
  if month = 2 then (if leap then 29 else 28)
  else if month = 4 || month = 6 || month = 9 || month = 11 then 30
  else 31

/-- A date: four digits of year, then month and day. -/
def fullDate : Rule Unit := do
  let year ← digitsValue s 4
  byte s (ch '-')
  let month ← (twoDigitsIn s 1 12).cut
  (byte s (ch '-')).cut
  let dayStart ← Rule.offset
  let day ← (twoDigitsIn s 1 31).cut
  if daysInMonth year month < day then
    Rule.failAt dayStart (some "value is out of range") true
  else pure ()

/-- A time of day: hours, minutes, seconds and an optional fraction. -/
def partialTime : Rule Unit := do
  let _ ← twoDigitsIn s 0 23
  byte s (ch ':')
  (do
    let _ ← twoDigitsIn s 0 59
    byte s (ch ':')
    let _ ← twoDigitsIn s 0 60
    let _ ← (do byte s (ch '.'); let _ ← takeWhile s 1 s.bytes.size isDigitByte; pure ()).opt
    pure ()).cut

/-- A time offset: `Z` or a signed hours and minutes. -/
def timeOffset : Rule Unit :=
  ((do let _ ← byteWhere s (fun b => b == ch 'Z' || b == ch 'z'); pure ()).orElse
    (do
      let _ ← byteWhere s isSign
      (do let _ ← twoDigitsIn s 0 23; byte s (ch ':'); let _ ← twoDigitsIn s 0 59; pure ()).cut)).labelled
    "time offset"

/-- A date with an optional time and offset, or a time alone. -/
def dateTime : Rule Unit :=
  (do
    fullDate s
    let _ ← (do
      let _ ← byteWhere s (fun b => b == ch 'T' || b == ch 't' || b == ch ' ')
      partialTime s
      let _ ← (timeOffset s).opt
      pure ()).opt
    pure ()).labelled "date-time" |>.orElse ((partialTime s).labelled "time")

end Numbers

end CanDecoder.Toml
