import CanDecoder.Yaml.Token

/-!
# Scanning YAML text into tokens

The scanner reads the characters of a YAML text and queues tokens for the parser. It
follows the YAML 1.1 scanning rules:

* Indentation opens block collections: a `-` entry or a key in a column deeper than the
  current indentation queues the start of a block sequence or mapping, and a line that
  starts left of it closes blocks with block-end tokens.
* A simple key is a node on one line followed by `:`. Where a key may start, the
  scanner remembers the position and the number of the token that would begin it; when
  the `:` comes, a key token (and, in block context, the start of a mapping) is inserted
  at that place in the queue. A key at the indentation column of a block is required;
  losing it is an error.
* Tokens are handed out only when no remembered key could still claim the head of the
  queue, so an error further on can stop the stream before tokens already queued.

Every loop consumes a character per step, so the number of characters bounds it.
-/

namespace CanDecoder.Yaml

/-- A place where a simple key may start. -/
structure SimpleKey where
  possible : Bool
  required : Bool
  tokenNumber : Nat
  mark : Mark
  deriving Inhabited

/-- The key slot of a fresh flow level. -/
def SimpleKey.none : SimpleKey := ⟨false, false, 0, ⟨0, 0, 0⟩⟩

/-- The state of the scanner. -/
structure Scanner where
  chars : Array Char
  pos : Nat := 0
  mark : Mark := ⟨0, 0, 0⟩
  /-- Tokens scanned and not yet taken, the head first. -/
  queue : List Token := []
  /-- How many tokens were taken. -/
  taken : Nat := 0
  /-- Whether the head of the queue may be handed out. -/
  available : Bool := false
  started : Bool := false
  /-- Whether the stream end was taken. -/
  finished : Bool := false
  indent : Int := -1
  indents : List Int := []
  keyAllowed : Bool := false
  /-- One key slot per flow level, the innermost first. -/
  keys : List SimpleKey := []
  flowLevel : Nat := 0
  deriving Inhabited

/-- The character `k` places ahead, the character zero past the end. -/
def Scanner.at (s : Scanner) (k : Nat) : Char := (s.chars[s.pos + k]?).getD '\x00'

/-- A bound on the steps of a loop that consumes a character per step. -/
def Scanner.budget (s : Scanner) : Nat := s.chars.size + 2

/-- Scanning steps. -/
abbrev Scan := StateT Scanner (Except Error)

/-- The character `k` places ahead. -/
def look (k : Nat) : Scan Char := return (← get).at k

/-- The current mark. -/
def here : Scan Mark := return (← get).mark

/-- A loop bound for the current text. -/
def budget : Scan Nat := return (← get).budget

/-- Stop with a problem at the current mark. -/
def fail {α : Type} (problem : String) (context : Option (String × Mark)) : Scan α := do
  throw (.malformed problem (← get).mark context)

/-- Pass one character that is no line break; the offset grows by its UTF-8 length. -/
def skip : Scan Unit := modify fun s =>
  { s with pos := s.pos + 1,
           mark := { s.mark with index := s.mark.index + (s.at 0).utf8Size, column := s.mark.column + 1 } }

/-- Pass one line break; a carriage return and line feed count as one. -/
def skipLine : Scan Unit := modify fun s =>
  if s.at 0 = '\r' && s.at 1 = '\n' then
    { s with pos := s.pos + 2, mark := ⟨s.mark.index + 2, s.mark.line + 1, 0⟩ }
  else if isBreak (s.at 0) then
    { s with pos := s.pos + 1, mark := ⟨s.mark.index + (s.at 0).utf8Size, s.mark.line + 1, 0⟩ }
  else s

/-- Pass one line break and return its text in a scalar: line separators and paragraph
separators stay, every other break becomes a line feed. -/
def readBreak : Scan String := do
  let c ← look 0
  if isBreak c then
    skipLine
    return if c = '\u2028' || c = '\u2029' then String.singleton c else "\n"
  else return ""

/-- Pass blanks. -/
def skipBlanks : Scan Unit := do
  for _ in [0:← budget] do
    if isBlank (← look 0) then skip else break

/-- Pass the rest of a line, up to its break. -/
def skipToBreak : Scan Unit := do
  for _ in [0:← budget] do
    if isBreakOrEnd (← look 0) then break else skip

/-- Queue a token. -/
def enqueue (t : Token) : Scan Unit := modify fun s => { s with queue := s.queue ++ [t] }

/-- Insert `a` before the element at position `n`. -/
def insertAt {α : Type} : Nat → α → List α → List α
  | 0, a, xs => a :: xs
  | n + 1, a, x :: xs => x :: insertAt n a xs
  | _ + 1, a, [] => [a]

/-! ## Simple keys -/

/-- The error of a required key without its `:`. -/
def missingColon {α : Type} (k : SimpleKey) : Scan α :=
  fail "could not find expected ':'" (some ("while scanning a simple key", k.mark))

/-- Give up the remembered keys that can no longer be keys: those on an earlier line or
more than 1024 bytes back. -/
def dropStaleKeys : Scan Unit := do
  let s ← get
  let mut kept : List SimpleKey := []
  for k in s.keys.reverse do
    if k.possible && (k.mark.line < s.mark.line || k.mark.index + 1024 < s.mark.index) then
      if k.required then missingColon k
      kept := { k with possible := false } :: kept
    else kept := k :: kept
  set { s with keys := kept }

/-- Give up the key remembered at the current flow level. -/
def removeKey : Scan Unit := do
  let s ← get
  match s.keys with
  | k :: rest =>
    if k.possible && k.required then missingColon k
    set { s with keys := { k with possible := false } :: rest }
  | [] => pure ()

/-- Remember the current position as a possible simple key, if a key may start here. -/
def saveKey : Scan Unit := do
  let s ← get
  if s.keyAllowed then
    let required := s.flowLevel == 0 && s.indent == (s.mark.column : Int)
    let key : SimpleKey := ⟨true, required, s.taken + s.queue.length, s.mark⟩
    removeKey
    modify fun s => { s with keys := key :: s.keys.drop 1 }

/-- Enter a flow collection. -/
def enterFlow : Scan Unit := modify fun s =>
  { s with keys := SimpleKey.none :: s.keys, flowLevel := s.flowLevel + 1 }

/-- Leave a flow collection. -/
def leaveFlow : Scan Unit := modify fun s =>
  if s.flowLevel > 0 then { s with flowLevel := s.flowLevel - 1, keys := s.keys.drop 1 } else s

/-! ## Indentation -/

/-- Open a block at `column` if it is deeper than the current indentation, queueing
`kind` at the end or, for a confirmed key, at the token number `number`. -/
def rollIndent (column : Nat) (number : Option Nat) (kind : TokenKind) (mark : Mark) : Scan Unit :=
  modify fun s =>
    if s.flowLevel > 0 then s
    else if s.indent < (column : Int) then
      let t : Token := ⟨kind, mark, mark⟩
      { s with indents := s.indent :: s.indents, indent := (column : Int),
               queue := match number with
                 | none => s.queue ++ [t]
                 | some n => insertAt (n - s.taken) t s.queue }
    else s

/-- The block ends for closing every indentation deeper than `column`, with the
indentation and stack left. -/
def closeBlocks (column : Int) (mark : Mark) : Int → List Int → List Token × Int × List Int
  | indent, [] => ([], indent, [])
  | indent, i :: rest =>
    if indent > column then
      let (ts, ind, rs) := closeBlocks column mark i rest
      (⟨.blockEnd, mark, mark⟩ :: ts, ind, rs)
    else ([], indent, i :: rest)

/-- Close every block deeper than `column`. -/
def unrollIndent (column : Int) : Scan Unit := modify fun s =>
  if s.flowLevel > 0 then s
  else
    let (ts, ind, rs) := closeBlocks column s.mark s.indent s.indents
    { s with queue := s.queue ++ ts, indent := ind, indents := rs }

/-! ## Directives, anchors and tags -/

/-- Read a directive name. -/
def scanDirectiveName (start : Mark) : Scan String := do
  let mut name := ""
  for _ in [0:← budget] do
    let c ← look 0
    if isWordChar c then
      name := name.push c
      skip
    else break
  if name.isEmpty then
    fail "could not find expected directive name" (some ("while scanning a directive", start))
  if !isBlankOrEnd (← look 0) then
    fail "found unexpected non-alphabetical character" (some ("while scanning a directive", start))
  return name

/-- Read one number of a `%YAML` directive: at most nine digits. -/
def scanVersionNumber (start : Mark) : Scan Nat := do
  let mut value := 0
  let mut length := 0
  for _ in [0:← budget] do
    let c ← look 0
    if c.isDigit then
      length := length + 1
      if length > 9 then
        fail "found extremely long version number" (some ("while scanning a %YAML directive", start))
      value := 10 * value + (c.toNat - 48)
      skip
    else break
  if length = 0 then
    fail "did not find expected version number" (some ("while scanning a %YAML directive", start))
  return value

/-- Read the value of a `%YAML` directive: two numbers joined by a dot. -/
def scanVersion (start : Mark) : Scan (Nat × Nat) := do
  skipBlanks
  let major ← scanVersionNumber start
  if (← look 0) ≠ '.' then
    fail "did not find expected digit or '.' character" (some ("while scanning a %YAML directive", start))
  skip
  let minor ← scanVersionNumber start
  return (major, minor)

/-- Read a tag handle: `!`, `!!` or `!word!`. Outside a directive a lone `!` and word
characters may also begin a tag's suffix. -/
def scanTagHandle (directive : Bool) (start : Mark) : Scan (List UInt8) := do
  if (← look 0) ≠ '!' then
    fail "did not find expected '!'"
      (some (if directive then "while scanning a tag directive" else "while scanning a tag", start))
  let mut handle : List UInt8 := [33]
  skip
  for _ in [0:← budget] do
    let c ← look 0
    if isWordChar c then
      handle := handle ++ charBytes c
      skip
    else break
  if (← look 0) = '!' then
    handle := handle ++ [33]
    skip
  else if directive && handle ≠ [33] then
    fail "did not find expected '!'" (some ("while parsing a tag directive", start))
  return handle

/-- Whether `c` may appear in a tag; inside `!<...>` also `,`, `[` and `]`. -/
def isTagChar (verbatim : Bool) (c : Char) : Bool :=
  isWordChar c || ";/?:@&=+$.%!~*'()".contains c || (verbatim && (c = ',' || c = '[' || c = ']'))

/-- Read `%` escapes spelling one UTF-8 encoded character. -/
def scanEscapedOctets (directive : Bool) (start : Mark) : Scan (List UInt8) := do
  let context := some (if directive then "while parsing a %TAG directive" else "while parsing a tag", start)
  let mut width := 0
  let mut out : List UInt8 := []
  for _ in [0:4] do
    let s ← get
    if !(s.at 0 = '%' && isHexDigit (s.at 1) && isHexDigit (s.at 2)) then
      fail "did not find URI escaped octet" context
    let octet := 16 * hexDigitValue (s.at 1) + hexDigitValue (s.at 2)
    if width = 0 then
      width :=
        if octet &&& 0x80 = 0 then 1
        else if octet &&& 0xE0 = 0xC0 then 2
        else if octet &&& 0xF0 = 0xE0 then 3
        else if octet &&& 0xF8 = 0xF0 then 4
        else 0
      if width = 0 then fail "found an incorrect leading UTF-8 octet" context
    else if octet &&& 0xC0 ≠ 0x80 then
      fail "found an incorrect trailing UTF-8 octet" context
    out := out ++ [octet.toUInt8]
    skip
    skip
    skip
    width := width - 1
    if width = 0 then break
  return out

/-- Read the rest of a tag after `head`, whose leading `!` is dropped. -/
def scanTagText (verbatim directive : Bool) (head : List UInt8) (start : Mark) : Scan (List UInt8) := do
  let mut out : List UInt8 := head.drop 1
  let mut length := head.length
  for _ in [0:← budget] do
    let c ← look 0
    if isTagChar verbatim c then
      if c = '%' then out := out ++ (← scanEscapedOctets directive start)
      else
        out := out ++ charBytes c
        skip
      length := length + 1
    else break
  if length = 0 then
    fail "did not find expected tag URI"
      (some (if directive then "while parsing a %TAG directive" else "while parsing a tag", start))
  return out

/-- Read the value of a `%TAG` directive: a handle and a prefix. -/
def scanTagDirective (start : Mark) : Scan (List UInt8 × List UInt8) := do
  skipBlanks
  let handle ← scanTagHandle true start
  if !isBlank (← look 0) then
    fail "did not find expected whitespace" (some ("while scanning a %TAG directive", start))
  skipBlanks
  let tagPrefix ← scanTagText true true [] start
  if !isBlankOrEnd (← look 0) then
    fail "did not find expected whitespace or line break" (some ("while scanning a %TAG directive", start))
  return (handle, tagPrefix)

/-- Read a directive line starting with `%`. -/
def scanDirective : Scan Token := do
  let start ← here
  skip
  let name ← scanDirectiveName start
  let kind ←
    if name = "YAML" then do
      let (major, minor) ← scanVersion start
      pure (TokenKind.versionDirective major minor)
    else if name = "TAG" then do
      let (handle, tagPrefix) ← scanTagDirective start
      pure (TokenKind.tagDirective handle tagPrefix)
    else fail "found unknown directive name" (some ("while scanning a directive", start))
  let stop ← here
  skipBlanks
  if (← look 0) = '#' then skipToBreak
  if !isBreakOrEnd (← look 0) then
    fail "did not find expected comment or line break" (some ("while scanning a directive", start))
  if isBreak (← look 0) then skipLine
  return ⟨kind, start, stop⟩

/-- Read an anchor `&name` or an alias `*name`. -/
def scanAnchor (isAlias : Bool) : Scan Token := do
  let start ← here
  skip
  let mut name := ""
  for _ in [0:← budget] do
    let c ← look 0
    if isWordChar c then
      name := name.push c
      skip
    else break
  let stop ← here
  let c ← look 0
  if name.isEmpty || !(isBlankOrEnd c || "?:,]\x7d%@`".contains c) then
    fail "did not find expected alphabetic or numeric character"
      (some (if isAlias then "while scanning an alias" else "while scanning an anchor", start))
  return ⟨if isAlias then .alias name else .anchor name, start, stop⟩

/-- Read a tag: `!<verbatim>`, `!handle!suffix`, `!suffix` or a lone `!`. -/
def scanTag : Scan Token := do
  let start ← here
  let (handle, suffix) ←
    if (← look 1) = '<' then do
      skip
      skip
      let suffix ← scanTagText true false [] start
      if (← look 0) ≠ '>' then
        fail "did not find the expected '>'" (some ("while scanning a tag", start))
      skip
      pure ([], suffix)
    else do
      let handle ← scanTagHandle false start
      if 2 ≤ handle.length && handle.getLast? = some 33 then
        let suffix ← scanTagText false false [] start
        pure (handle, suffix)
      else
        let suffix ← scanTagText false false handle start
        if suffix.isEmpty then pure ([], [33]) else pure ([33], suffix)
  let c ← look 0
  if !isBlankOrEnd c then
    if (← get).flowLevel = 0 || c ≠ ',' then
      fail "did not find expected whitespace or line break" (some ("while scanning a tag", start))
  let stop ← here
  return ⟨.tag handle suffix, start, stop⟩

/-! ## Scalars -/

/-- Pass the indentation and empty lines before a line of a block scalar. With no
indentation fixed yet (`indent = 0`) it is found here: the deepest of these lines, at
least one past the enclosing block. Returns the indentation, the line breaks passed
and the mark after the last of them. -/
def scanBlockBreaks (indent : Nat) (start : Mark) : Scan (Nat × String × Mark) := do
  let mut stop ← here
  let mut deepest := 0
  let mut breaks := ""
  for _ in [0:← budget] do
    for _ in [0:← budget] do
      let s ← get
      if (indent = 0 || s.mark.column < indent) && s.at 0 = ' ' then skip else break
    let s ← get
    if s.mark.column > deepest then deepest := s.mark.column
    if (indent = 0 || s.mark.column < indent) && s.at 0 = '\t' then
      fail "found a tab character where an indentation space is expected"
        (some ("while scanning a block scalar", start))
    if !isBreak (s.at 0) then break
    breaks := breaks ++ (← readBreak)
    stop ← here
  let s ← get
  let mut found := indent
  if found = 0 then
    found := deepest
    if (found : Int) < s.indent + 1 then found := (s.indent + 1).toNat
    if found < 1 then found := 1
  return (found, breaks, stop)

/-- Read a literal (`|`) or folded (`>`) block scalar. -/
def scanBlockScalar (literal : Bool) : Scan Token := do
  let start ← here
  let context := some ("while scanning a block scalar", start)
  skip
  let mut chomping : Int := 0
  let mut increment := 0
  let c ← look 0
  if c = '+' || c = '-' then
    chomping := if c = '+' then 1 else -1
    skip
    let d ← look 0
    if d.isDigit then
      if d = '0' then fail "found an indentation indicator equal to 0" context
      increment := d.toNat - 48
      skip
  else if c.isDigit then
    if c = '0' then fail "found an indentation indicator equal to 0" context
    increment := c.toNat - 48
    skip
    let d ← look 0
    if d = '+' || d = '-' then
      chomping := if d = '+' then 1 else -1
      skip
  skipBlanks
  if (← look 0) = '#' then skipToBreak
  if !isBreakOrEnd (← look 0) then
    fail "did not find expected comment or line break" context
  if isBreak (← look 0) then skipLine
  let s ← get
  let mut indent : Nat :=
    if increment = 0 then 0
    else if 0 ≤ s.indent then s.indent.toNat + increment else increment
  let (i₀, breaks₀, stop₀) ← scanBlockBreaks indent start
  indent := i₀
  let mut trailingBreaks := breaks₀
  let mut stop := stop₀
  let mut text := ""
  let mut leadingBreak := ""
  let mut leadingBlank := false
  for _ in [0:← budget] do
    let s ← get
    if !(s.mark.column = indent && !isEnd (s.at 0)) then break
    let trailingBlank := isBlank (s.at 0)
    if !literal && leadingBreak.startsWith "\n" && !leadingBlank && !trailingBlank then
      if trailingBreaks.isEmpty then text := text.push ' '
    else text := text ++ leadingBreak
    leadingBreak := ""
    text := text ++ trailingBreaks
    trailingBreaks := ""
    leadingBlank := isBlank (s.at 0)
    for _ in [0:← budget] do
      let c ← look 0
      if isBreakOrEnd c then break
      text := text.push c
      skip
    leadingBreak ← readBreak
    let (i, breaks, st) ← scanBlockBreaks indent start
    indent := i
    trailingBreaks := breaks
    stop := st
  if chomping ≠ -1 then text := text ++ leadingBreak
  if chomping = 1 then text := text ++ trailingBreaks
  return ⟨.scalar text (if literal then .literal else .folded), start, stop⟩

/-- The text of a one-character escape of a double-quoted scalar, or the number of hex
digits of a numeric one. -/
def escapeOf (c : Char) : Option (String ⊕ Nat) :=
  match c with
  | '0' => some (.inl "\x00")
  | 'a' => some (.inl "\x07")
  | 'b' => some (.inl "\x08")
  | 't' | '\t' => some (.inl "\t")
  | 'n' => some (.inl "\n")
  | 'v' => some (.inl "\x0B")
  | 'f' => some (.inl "\x0C")
  | 'r' => some (.inl "\r")
  | 'e' => some (.inl "\x1B")
  | ' ' => some (.inl " ")
  | '"' => some (.inl "\"")
  | '/' => some (.inl "/")
  | '\\' => some (.inl "\\")
  | 'N' => some (.inl "\x85")
  | '_' => some (.inl "\xA0")
  | 'L' => some (.inl "\u2028")
  | 'P' => some (.inl "\u2029")
  | 'x' => some (.inr 2)
  | 'u' => some (.inr 4)
  | 'U' => some (.inr 8)
  | _ => none

/-- Whether the current line starts with a document marker `---` or `...`. -/
def Scanner.atDocumentMarker (s : Scanner) : Bool :=
  s.mark.column = 0 &&
    ((s.at 0 = '-' && s.at 1 = '-' && s.at 2 = '-') || (s.at 0 = '.' && s.at 1 = '.' && s.at 2 = '.')) &&
    isBlankOrEnd (s.at 3)

/-- Fold the blanks between two pieces of a flow or plain scalar: a single line break
becomes a space, further breaks stay; blanks without a break stay as they are. -/
def foldBlanks (leadingBlanks : Bool) (leadingBreak trailingBreaks whitespaces : String) : String :=
  if leadingBlanks then
    if leadingBreak.startsWith "\n" then
      if trailingBreaks.isEmpty then " " else trailingBreaks
    else leadingBreak ++ trailingBreaks
  else whitespaces

/-- Read a single-quoted or double-quoted scalar. -/
def scanQuoted (single : Bool) : Scan Token := do
  let start ← here
  let quote := if single then '\'' else '"'
  skip
  let mut text := ""
  for _ in [0:← budget] do
    let s ← get
    if s.atDocumentMarker then
      fail "found unexpected document indicator" (some ("while scanning a quoted scalar", start))
    if isEnd (s.at 0) then
      fail "found unexpected end of stream" (some ("while scanning a quoted scalar", start))
    let mut leadingBlanks := false
    for _ in [0:← budget] do
      let s ← get
      let c := s.at 0
      if isBlankOrEnd c then break
      if single && c = '\'' && s.at 1 = '\'' then
        text := text.push '\''
        skip
        skip
      else if c = quote then break
      else if !single && c = '\\' && isBreak (s.at 1) then
        skip
        skipLine
        leadingBlanks := true
        break
      else if !single && c = '\\' then
        match escapeOf (s.at 1) with
        | none =>
          fail "found unknown escape character" (some ("while parsing a quoted scalar", start))
        | some (.inl e) =>
          text := text ++ e
          skip
          skip
        | some (.inr digits) =>
          skip
          skip
          let s ← get
          let mut value := 0
          for k in [0:digits] do
            if !isHexDigit (s.at k) then
              fail "did not find expected hexadecimal number" (some ("while parsing a quoted scalar", start))
            value := 16 * value + hexDigitValue (s.at k)
          if (0xD800 ≤ value && value ≤ 0xDFFF) || 0x10FFFF < value then
            fail "found invalid Unicode character escape code" (some ("while parsing a quoted scalar", start))
          text := text.push (Char.ofNat value)
          for _ in [0:digits] do skip
      else
        text := text.push c
        skip
    if (← look 0) = quote then break
    let mut leadingBreak := ""
    let mut trailingBreaks := ""
    let mut whitespaces := ""
    for _ in [0:← budget] do
      let c ← look 0
      if isBlank c then
        if !leadingBlanks then whitespaces := whitespaces.push c
        skip
      else if isBreak c then
        if !leadingBlanks then
          whitespaces := ""
          leadingBreak ← readBreak
          leadingBlanks := true
        else trailingBreaks := trailingBreaks ++ (← readBreak)
      else break
    text := text ++ foldBlanks leadingBlanks leadingBreak trailingBreaks whitespaces
  skip
  let stop ← here
  return ⟨.scalar text (if single then .singleQuoted else .doubleQuoted), start, stop⟩

/-- Read a plain scalar. It ends before `: `, before ` #`, at a document marker, at a
flow indicator inside a flow collection, and in block context at a line less indented
than the enclosing block's content. -/
def scanPlain : Scan Token := do
  let s₀ ← get
  let indent : Int := s₀.indent + 1
  let start := s₀.mark
  let mut stop := start
  let mut text := ""
  let mut leadingBreak := ""
  let mut trailingBreaks := ""
  let mut whitespaces := ""
  let mut leadingBlanks := false
  for _ in [0:← budget] do
    let s ← get
    if s.atDocumentMarker then break
    if s.at 0 = '#' then break
    for _ in [0:← budget] do
      let s ← get
      let c := s.at 0
      if isBlankOrEnd c then break
      if s.flowLevel > 0 && c = ':' && ",?[]\x7b\x7d".contains (s.at 1) then
        fail "found unexpected ':'" (some ("while scanning a plain scalar", start))
      if (c = ':' && isBlankOrEnd (s.at 1)) || (s.flowLevel > 0 && ",[]\x7b\x7d".contains c) then break
      if leadingBlanks || !whitespaces.isEmpty then
        text := text ++ foldBlanks leadingBlanks leadingBreak trailingBreaks whitespaces
        leadingBreak := ""
        trailingBreaks := ""
        whitespaces := ""
        leadingBlanks := false
      text := text.push c
      skip
      stop ← here
    let c ← look 0
    if !(isBlank c || isBreak c) then break
    for _ in [0:← budget] do
      let s ← get
      let c := s.at 0
      if isBlank c then
        if leadingBlanks && (s.mark.column : Int) < indent && c = '\t' then
          fail "found a tab character that violates indentation" (some ("while scanning a plain scalar", start))
        if !leadingBlanks then whitespaces := whitespaces.push c
        skip
      else if isBreak c then
        if !leadingBlanks then
          whitespaces := ""
          leadingBreak ← readBreak
          leadingBlanks := true
        else trailingBreaks := trailingBreaks ++ (← readBreak)
      else break
    let s ← get
    if s.flowLevel = 0 && (s.mark.column : Int) < indent then break
  if leadingBlanks then modify fun s => { s with keyAllowed := true }
  return ⟨.scalar text .plain, start, stop⟩

/-! ## Fetching tokens -/

/-- Pass blanks, comments and line breaks up to the next token. A line break in block
context allows a simple key. -/
def scanToNextToken : Scan Unit := do
  for _ in [0:← budget] do
    let s ← get
    if s.mark.column = 0 && s.at 0 = '\uFEFF' then skip
    for _ in [0:← budget] do
      let s ← get
      if s.at 0 = ' ' || ((s.flowLevel > 0 || !s.keyAllowed) && s.at 0 = '\t') then skip else break
    if (← look 0) = '#' then skipToBreak
    if isBreak (← look 0) then
      skipLine
      if (← get).flowLevel = 0 then modify fun s => { s with keyAllowed := true }
    else break

/-- Queue the start of the stream. -/
def fetchStreamStart : Scan Unit := modify fun s =>
  { s with indent := -1, keys := [SimpleKey.none], keyAllowed := true, started := true,
           queue := s.queue ++ [⟨.streamStart, s.mark, s.mark⟩] }

/-- Queue the end of the stream, closing every open block. -/
def fetchStreamEnd : Scan Unit := do
  modify fun s =>
    if s.mark.column ≠ 0 then { s with mark := { s.mark with column := 0, line := s.mark.line + 1 } } else s
  unrollIndent (-1)
  removeKey
  modify fun s => { s with keyAllowed := false }
  let m ← here
  enqueue ⟨.streamEnd, m, m⟩

/-- Queue a directive. -/
def fetchDirective : Scan Unit := do
  unrollIndent (-1)
  removeKey
  modify fun s => { s with keyAllowed := false }
  enqueue (← scanDirective)

/-- Queue a three-character token such as a document marker. -/
def fetchIndicator (kind : TokenKind) (width : Nat) : Scan Unit := do
  let start ← here
  for _ in [0:width] do skip
  enqueue ⟨kind, start, ← here⟩

/-- Queue a document start or end marker. -/
def fetchDocumentMarker (kind : TokenKind) : Scan Unit := do
  unrollIndent (-1)
  removeKey
  modify fun s => { s with keyAllowed := false }
  fetchIndicator kind 3

/-- Queue `[` or `{`. -/
def fetchFlowStart (kind : TokenKind) : Scan Unit := do
  saveKey
  enterFlow
  modify fun s => { s with keyAllowed := true }
  fetchIndicator kind 1

/-- Queue `]` or `}`. -/
def fetchFlowEnd (kind : TokenKind) : Scan Unit := do
  removeKey
  leaveFlow
  modify fun s => { s with keyAllowed := false }
  fetchIndicator kind 1

/-- Queue `,`. -/
def fetchFlowEntry : Scan Unit := do
  removeKey
  modify fun s => { s with keyAllowed := true }
  fetchIndicator .flowEntry 1

/-- Queue a block entry `-`, opening a block sequence if needed. -/
def fetchBlockEntry : Scan Unit := do
  let s ← get
  if s.flowLevel = 0 then
    if !s.keyAllowed then fail "block sequence entries are not allowed in this context" none
    rollIndent s.mark.column none .blockSequenceStart s.mark
  removeKey
  modify fun s => { s with keyAllowed := true }
  fetchIndicator .blockEntry 1

/-- Queue a complex key `?`, opening a block mapping if needed. -/
def fetchKey : Scan Unit := do
  let s ← get
  if s.flowLevel = 0 then
    if !s.keyAllowed then fail "mapping keys are not allowed in this context" none
    rollIndent s.mark.column none .blockMappingStart s.mark
  removeKey
  modify fun s => { s with keyAllowed := s.flowLevel = 0 }
  fetchIndicator .key 1

/-- Queue a value `:`. A remembered simple key becomes a key token inserted where it
started, with the start of a block mapping before it if needed. -/
def fetchValue : Scan Unit := do
  let s ← get
  match s.keys with
  | k :: rest =>
    if k.possible then
      modify fun s => { s with queue := insertAt (k.tokenNumber - s.taken) ⟨.key, k.mark, k.mark⟩ s.queue }
      rollIndent k.mark.column (some k.tokenNumber) .blockMappingStart k.mark
      modify fun s => { s with keys := { k with possible := false } :: rest, keyAllowed := false }
    else
      if s.flowLevel = 0 then
        if !s.keyAllowed then fail "mapping values are not allowed in this context" none
        rollIndent s.mark.column none .blockMappingStart s.mark
      modify fun s => { s with keyAllowed := s.flowLevel = 0 }
  | [] => pure ()
  fetchIndicator .value 1

/-- Queue an anchor or alias. -/
def fetchAnchor (isAlias : Bool) : Scan Unit := do
  saveKey
  modify fun s => { s with keyAllowed := false }
  enqueue (← scanAnchor isAlias)

/-- Queue a tag. -/
def fetchTag : Scan Unit := do
  saveKey
  modify fun s => { s with keyAllowed := false }
  enqueue (← scanTag)

/-- Queue a block scalar. -/
def fetchBlockScalar (literal : Bool) : Scan Unit := do
  removeKey
  modify fun s => { s with keyAllowed := true }
  enqueue (← scanBlockScalar literal)

/-- Queue a quoted scalar. -/
def fetchQuoted (single : Bool) : Scan Unit := do
  saveKey
  modify fun s => { s with keyAllowed := false }
  enqueue (← scanQuoted single)

/-- Queue a plain scalar. -/
def fetchPlain : Scan Unit := do
  saveKey
  modify fun s => { s with keyAllowed := false }
  enqueue (← scanPlain)

/-- Whether `c`, followed by `next`, may start a plain scalar. -/
def startsPlain (flow : Bool) (c next : Char) : Bool :=
  !(isBlankOrEnd c || "-?:,[]\x7b\x7d#&*!|>'\"%@`".contains c) ||
    (c = '-' && !isBlank next) ||
    (!flow && (c = '?' || c = ':') && !isBlankOrEnd next)

/-- Scan the next token. -/
def fetchNextToken : Scan Unit := do
  if !(← get).started then fetchStreamStart
  else
    scanToNextToken
    dropStaleKeys
    unrollIndent (← get).mark.column
    let s ← get
    let c := s.at 0
    let flow := s.flowLevel > 0
    if isEnd c then fetchStreamEnd
    else if s.mark.column = 0 && c = '%' then fetchDirective
    else if s.mark.column = 0 && c = '-' && s.at 1 = '-' && s.at 2 = '-' && isBlankOrEnd (s.at 3) then
      fetchDocumentMarker .documentStart
    else if s.mark.column = 0 && c = '.' && s.at 1 = '.' && s.at 2 = '.' && isBlankOrEnd (s.at 3) then
      fetchDocumentMarker .documentEnd
    else if c = '[' then fetchFlowStart .flowSequenceStart
    else if c = '{' then fetchFlowStart .flowMappingStart
    else if c = ']' then fetchFlowEnd .flowSequenceEnd
    else if c = '}' then fetchFlowEnd .flowMappingEnd
    else if c = ',' then fetchFlowEntry
    else if c = '-' && isBlankOrEnd (s.at 1) then fetchBlockEntry
    else if c = '?' && (flow || isBlankOrEnd (s.at 1)) then fetchKey
    else if c = ':' && (flow || isBlankOrEnd (s.at 1)) then fetchValue
    else if c = '*' then fetchAnchor true
    else if c = '&' then fetchAnchor false
    else if c = '!' then fetchTag
    else if c = '|' && !flow then fetchBlockScalar true
    else if c = '>' && !flow then fetchBlockScalar false
    else if c = '\'' then fetchQuoted true
    else if c = '"' then fetchQuoted false
    else if startsPlain flow c (s.at 1) then fetchPlain
    else
      fail "found character that cannot start any token" (some ("while scanning for the next token", s.mark))

/-- Scan until the head of the queue can be handed out: the queue is not empty and no
remembered key could still put a key token before its head. -/
def fetchMoreTokens : Scan Unit := do
  for _ in [0:(← budget) + 4] do
    let need ←
      if (← get).queue.isEmpty then pure true
      else do
        dropStaleKeys
        let s ← get
        pure (s.keys.any fun k => k.possible && k.tokenNumber == s.taken)
    if !need then break
    fetchNextToken
  modify fun s => { s with available := true }

/-- The next token, scanning as far as needed. -/
def peekToken : Scan Token := do
  if !(← get).available then fetchMoreTokens
  match (← get).queue with
  | t :: _ => return t
  | [] => let m ← here; return ⟨.streamEnd, m, m⟩

/-- Take the next token. -/
def skipToken : Scan Unit := modify fun s =>
  match s.queue with
  | t :: rest =>
    { s with queue := rest, available := false, taken := s.taken + 1,
             finished := match t.kind with | .streamEnd => true | _ => false }
  | [] => s

/-- The scanner of a text, or the offset of the first character that may not appear in
YAML. A byte order mark stays in the text: it is passed over like a blank where a line
starts, and counts as a column. -/
def Scanner.ofText (text : String) : Except Error Scanner :=
  let cs := text.toList
  let rec check : List Char → Nat → Except Error Unit
    | [], _ => .ok ()
    | c :: rest, n =>
      if isAllowedInput c then check rest (n + (String.singleton c).utf8ByteSize)
      else .error (.unreadable "control characters are not allowed" n)
  (check cs 0).map fun _ => { chars := cs.toArray }

end CanDecoder.Yaml
