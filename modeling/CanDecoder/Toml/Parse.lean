import CanDecoder.Toml.Document

/-!
# Reading a TOML document

A document is a sequence of lines: blank lines, comments, `[table]` and `[[array]]`
headers and key and value pairs, each ending its line (a comment may close it). A value
is told by its first character: a quote starts a string, `[` an array, `{` an inline
table, a sign or digit a date, float or integer (tried in that order), and `t`, `f`,
`i`, `n` the words `true`, `false`, `inf`, `nan`. Anything else is reported as a string
that lacks its quotes. Arrays and inline tables nest at most 79 deep.

A problem is reported with a message and the span it concerns: for a syntax error, the
character where reading stopped; for a statement that clashes with the document, the start of
the statement; for a clash found only when the last table is closed, no span at all.
-/

namespace CanDecoder.Toml

/-- A problem with a document: the message and the bytes it concerns. -/
structure Problem where
  message : String
  span : Option Span
  deriving Repr, Inhabited

/-- Give an item the span it was read from. -/
def Item.placed (v : Item) (sp : Span) : Item :=
  match v with
  | .string t _ => .string t sp
  | .integer n _ => .integer n sp
  | .float x _ => .float x sp
  | .boolean b _ => .boolean b sp
  | .datetime _ => .datetime sp
  | .array items _ => .array items sp
  | .table es _ kind => .table es (some sp) kind
  | .tables items _ => .tables items (some sp)

/-- The span every item gets before it is placed. -/
def unplaced : Span := ⟨0, 0⟩

/-- A key path split into its dotted part and its last key. -/
def splitKey (path : List Key) : List Key × Key := (path.dropLast, path.getLast?.getD default)

section Values

variable (s : Source)

/-- A failure for nesting too deep, at the opening bracket. -/
def tooDeep {α} : Rule α := do
  let i ← Rule.offset
  Rule.failAt i (some Clash.tooDeep.message) true

/-- A rule reported as a string without its quotes. -/
def asString {α} (p : Rule α) : Rule α := ((p.labelled "string").expecting "`\"`").expecting "`'`"

/-- An array, with `value` for its elements. -/
def arrayOf (value : Rule Item) : Rule Item := do
  byte s (ch '[')
  let element : Rule Item := do
    blanksCommentsNewlines s
    let v ← value
    blanksCommentsNewlines s
    pure v
  let items ← (do
    let items ← (do
      let vs ← Rule.sepBy1 element (byte s (ch ',')) s.bound
      let _ ← (byte s (ch ',')).opt
      pure vs).opt
    blanksCommentsNewlines s
    pure (items.getD [])).cut
  ((byte s (ch ']')).cut.labelled "array").expecting "`]`"
  pure (.array items unplaced)

/-- A key and value inside an inline table. -/
def inlineEntry (value : Rule Item) : Rule (List Key × Key × Item) := do
  let path ← keyPath s
  let v ← (do
    ((byte s (ch '=')).expecting "`.`").expecting "`=`"
    blanks s
    let v ← value
    blanks s
    pure v).cut
  let (dotted, key) := splitKey path
  pure (dotted, key, v)

/-- An inline table, with `value` for its values. -/
def inlineTableOf (value : Rule Item) : Rule Item := do
  byte s (ch '{')
  let t ← ((do
    let pairs ← Rule.sepBy (inlineEntry s value) (byte s (ch ',')) s.bound
    blanks s
    pure pairs).check fun pairs =>
      match inlineTable pairs with
      | .ok t => .ok t
      | .error c => .error c.message).cut
  ((byte s (ch '}')).cut.labelled "inline table").expecting "`\x7d`"
  pure t.item

/-- A value, with `inner` for the values of its arrays and inline tables, none when no
more nesting is allowed. -/
def valueWith (inner : Option (Rule Item)) : Rule Item := do
  let (v, a, b) ← Rule.spanned (do
    match ← nextByte s with
    | none => asString Rule.fail
    | some c =>
      if c == ch '"' || c == ch '\'' then do
        let t ← stringValue s
        pure (.string t unplaced)
      else if c == ch '[' then
        match inner with
        | some value => arrayOf s value
        | none => tooDeep
      else if c == ch '{' then
        match inner with
        | some value => inlineTableOf s value
        | none => tooDeep
      else if isSign c || isDigitByte c then
        (do dateTime s; pure (Item.datetime unplaced)).orElse
          ((do let x ← float s; pure (Item.float x unplaced)).orElse
            (do let n ← integer s; pure (Item.integer n unplaced)))
      else if c == ch '_' then (do let n ← integer s; pure (Item.integer n unplaced)).expecting "leading digit"
      else if c == ch '.' then (do let x ← float s; pure (Item.float x unplaced)).expecting "leading digit"
      else if c == ch 't' then asString (do let v ← trueValue s; pure (Item.boolean v unplaced))
      else if c == ch 'f' then asString (do let v ← falseValue s; pure (Item.boolean v unplaced))
      else if c == ch 'i' then
        asString (do bytesOf s [ch 'i', ch 'n', ch 'f']; pure (Item.float infinity unplaced))
      else if c == ch 'n' then
        asString (do bytesOf s [ch 'n', ch 'a', ch 'n']; pure (Item.float notANumber unplaced))
      else asString Rule.fail)
  pure (v.placed ⟨a, b⟩)

/-- A value that may nest `depth` more arrays or inline tables. -/
def valueAt : Nat → Rule Item
  | 0 => valueWith s none
  | depth + 1 => valueWith s (some (valueAt depth))

/-- A value of a key and value line. -/
def topValue : Rule Item := valueAt s (nestingLimit - 1)

end Values

section Lines

variable (s : Source)

/-- A key and value line. -/
def entryLine : Rule (List Key × Key × Item) := do
  let path ← keyPath s
  let v ← (do
    ((byte s (ch '=')).expecting "`.`").expecting "`=`"
    blanks s
    let v ← topValue s
    ((lineTrailing s).expecting (charShown '\n')).expecting "`#`"
    pure v).cut
  let (dotted, key) := splitKey path
  pure (dotted, key, v)

/-- The header path of a table of an array, between `[[` and `]]`. -/
def arrayHeader : Rule (List Key × Span) := do
  let (path, a, b) ← Rule.spanned (do
    bytesOf s [ch '[', ch '[']
    let path ← (keyPath s).cut
    (((bytesOf s [ch ']', ch ']']).cut.expecting "`.`").expecting "`]`")
    pure path)
  ((lineTrailing s).cut.expecting (charShown '\n')).expecting "`#`"
  pure (path, ⟨a, b⟩)

/-- The header path of a table, between `[` and `]`. -/
def tableHeader : Rule (List Key × Span) := do
  let (path, a, b) ← Rule.spanned (do
    byte s (ch '[')
    let path ← (keyPath s).cut
    (((byte s (ch ']')).cut.expecting "`.`").expecting "`]`")
    pure path)
  ((lineTrailing s).cut.expecting (charShown '\n')).expecting "`#`"
  pure (path, ⟨a, b⟩)

/-- A header line: whether it starts an array of tables, the path and the header's span. -/
def headerLine : Rule (Bool × List Key × Span) :=
  (do
    let i ← Rule.offset
    if s.bytes.size < i + 2 then Rule.fail
    else if s.startsWithAt i [ch '[', ch '['] then do
      let (path, sp) ← arrayHeader s
      pure (true, path, sp)
    else do
      let (path, sp) ← tableHeader s
      pure (false, path, sp)).labelled "table header"

end Lines

/-- Run a rule at `i` and give up the whole read on failure. -/
def runAt {α} (p : Rule α) (i : Nat) : Except Fault (α × Nat) := p.cut i

/-- The number of bytes of the UTF-8 character whose first byte is `b`; one for a byte
that starts no character. -/
def charByteCount (b : UInt8) : Nat :=
  if b < 0xC0 then 1 else if b < 0xE0 then 2 else if b < 0xF0 then 3 else 4

/-- The problem of a syntax failure: its message at the character where reading stopped,
or at the end of the text. -/
def Fault.problem (f : Fault) (bytes : Array UInt8) : Problem :=
  let stop := match bytes[f.pos]? with
    | some b => min (f.pos + charByteCount b) bytes.size
    | none => f.pos
  { message := f.message, span := some ⟨f.pos, stop⟩ }

/-- Read the statements of a document into a builder. -/
def readLines (s : Source) : Except Fault Builder := do
  let start := if s.startsWithAt 0 [0xEF, 0xBB, 0xBF] then 3 else 0
  let ((), first) ← blanks s start
  let mut pos := first
  let mut b : Builder := {}
  for _ in [0:s.bound] do
    match s.bytes[pos]? with
    | none => break
    | some c =>
      if c == ch '#' then
        let ((), next) ← runAt (do comment s; lineEnd s) pos
        pos := next
      else if c == ch '[' then
        let ((isArray, path, span), next) ← runAt (headerLine s) pos
        let opened := if isArray then b.openArrayTable path span else b.openTable path span
        match opened with
        | .ok b' => b := b'
        | .error clash =>
          throw { pos := pos, context := [.label "table header"], cause := some clash.message, cut := true }
        pos := next
      else if c == 0x0A || c == 0x0D then
        match newline s pos with
        | .ok ((), next) => pos := next
        | .error _ => break
      else
        let ((path, key, v), next) ← runAt (entryLine s) pos
        match b.addEntry path key v with
        | .ok b' => b := b'
        | .error clash => throw { pos := pos, cause := some clash.message, cut := true }
        pos := next
    let ((), next) ← blanks s pos
    pos := next
  if pos < s.bytes.size then throw { pos := pos }
  pure b

/-- Read a TOML document into its top-level table. -/
def readDocument (text : String) : Except Problem Table :=
  let s : Source := ⟨text.toUTF8.data⟩
  match readLines s with
  | .error f => .error (f.problem s.bytes)
  | .ok b =>
    match b.document with
    | .ok t => .ok t
    | .error clash => .error { message := clash.message, span := none }

/-! ## Showing a problem -/

/-- The line and column of byte `index`: the column counts characters, or bytes when the
byte at `index` is not the last byte of a character. -/
def position (bytes : Array UInt8) (index : Nat) : Nat × Nat :=
  if bytes.size = 0 then (0, index)
  else
    let safe := min index (bytes.size - 1)
    let extra := index - safe
    let before := (bytes.extract 0 safe).toList
    let lineStart := match (before.zipIdx.filter (·.1 == 0x0A)).getLast? with
      | some (_, p) => p + 1
      | none => 0
    let line := ((bytes.extract 0 lineStart).toList.filter (· == 0x0A)).length
    let column := match String.fromUTF8? ⟨bytes.extract lineStart (safe + 1)⟩ with
      | some piece => piece.length - 1
      | none => safe - lineStart
    (line, column + extra)

/-- `n` copies of a character. -/
def repeatChar (c : Char) (n : Nat) : String := String.ofList (List.replicate n c)

/-- The report of a problem in `raw`: where it is, the line it is on with the span marked,
and the message. Without a span, only the message. -/
def Problem.render (p : Problem) (raw : String) : String :=
  match p.span with
  | none => p.message ++ "\n"
  | some sp =>
    let (line, column) := position raw.toUTF8.data sp.start
    let lineNum := toString (line + 1)
    let content := ((raw.splitOn "\n")[line]?).getD ""
    let width := min (sp.stop - sp.start) (content.utf8ByteSize - column)
    let gutter := repeatChar ' ' (lineNum.length + 1)
    "TOML parse error at line " ++ lineNum ++ ", column " ++ toString (column + 1) ++ "\n" ++
    gutter ++ "|\n" ++
    lineNum ++ " | " ++ content ++ "\n" ++
    gutter ++ "|" ++ repeatChar ' ' (column + 1) ++ "^" ++ repeatChar '^' (width - 1) ++ "\n" ++
    p.message ++ "\n"

end CanDecoder.Toml
