import CanDecoder.Yaml.Scanner

/-!
# YAML events

The parser turns tokens into events: the start and end of the stream and of each
document, scalars, aliases, and the starts and ends of sequences and mappings. It is a
state machine over the grammar of YAML 1.1 with a stack of states to return to and a
stack of marks where open collections started, used in its error messages.

A node may carry an anchor and a tag, in either order. A tag's handle is replaced by the
prefix a `%TAG` directive gives it; `!` and `!!` have default prefixes. A missing node
(a key or value left out, an entry with only `-`) is an empty plain scalar.
-/

namespace CanDecoder.Yaml

/-- What an event is. -/
inductive EventKind where
  | streamStart
  | streamEnd
  | documentStart (implicit : Bool)
  | documentEnd (implicit : Bool)
  | alias (name : String)
  | scalar (anchor : Option String) (tag : Option (List UInt8)) (text : String) (style : ScalarStyle)
  | sequenceStart (anchor : Option String) (tag : Option (List UInt8))
  | sequenceEnd
  | mappingStart (anchor : Option String) (tag : Option (List UInt8))
  | mappingEnd
  deriving Repr, Inhabited

/-- An event with the marks where it starts and stops. -/
structure Event where
  kind : EventKind
  start : Mark
  stop : Mark
  deriving Repr, Inhabited

/-- What the parser expects next. -/
inductive ParseState where
  | streamStart
  | implicitDocumentStart
  | documentStart
  | documentContent
  | documentEnd
  | blockNode
  | blockNodeOrIndentlessSequence
  | flowNode
  | blockSequenceFirstEntry
  | blockSequenceEntry
  | indentlessSequenceEntry
  | blockMappingFirstKey
  | blockMappingKey
  | blockMappingValue
  | flowSequenceFirstEntry
  | flowSequenceEntry
  | flowSequenceEntryMappingKey
  | flowSequenceEntryMappingValue
  | flowSequenceEntryMappingEnd
  | flowMappingFirstKey
  | flowMappingKey
  | flowMappingValue
  | flowMappingEmptyValue
  | finished
  deriving Repr, DecidableEq, Inhabited

/-- The state of the parser. -/
structure Parser where
  scanner : Scanner
  state : ParseState := .streamStart
  states : List ParseState := []
  marks : List Mark := []
  tagDirectives : List (List UInt8 × List UInt8) := []
  deriving Inhabited

/-- Parsing steps. -/
abbrev Parse := StateT Parser (Except Error)

/-- Run a scanning step inside the parser. -/
def scan {α : Type} (m : Scan α) : Parse α := fun p => do
  let (a, s) ← m.run p.scanner
  pure (a, { p with scanner := s })

/-- The next token. -/
def peek : Parse Token := scan peekToken

/-- Take the next token. -/
def advance : Parse Unit := scan skipToken

/-- Stop with a problem at `mark`. -/
def parseError {α : Type} (problem : String) (mark : Mark) (context : Option (String × Mark)) : Parse α :=
  throw (.malformed problem mark context)

/-- Continue in state `st`. -/
def goTo (st : ParseState) : Parse Unit := modify fun p => { p with state := st }

/-- Remember a state to return to. -/
def pushState (st : ParseState) : Parse Unit := modify fun p => { p with states := st :: p.states }

/-- Return to the last remembered state. -/
def returnState : Parse Unit := modify fun p =>
  match p.states with
  | st :: rest => { p with state := st, states := rest }
  | [] => { p with state := .finished }

/-- Remember where a collection started. -/
def pushMark (m : Mark) : Parse Unit := modify fun p => { p with marks := m :: p.marks }

/-- Forget where the innermost collection started, returning it. -/
def popMark : Parse Mark := do
  let p ← get
  match p.marks with
  | m :: rest =>
    set { p with marks := rest }
    return m
  | [] => return ⟨0, 0, 0⟩

/-- An empty plain scalar at `mark`. -/
def emptyScalar (mark : Mark) : Event := ⟨.scalar none none "" .plain, mark, mark⟩

/-- A loop bound for the current text. -/
def parseBudget : Parse Nat := return (← get).scanner.budget

/-- The tag handles every document knows. -/
def defaultTagDirectives : List (List UInt8 × List UInt8) :=
  [([33], [33]), ([33, 33], asciiBytes "tag:yaml.org,2002:")]

/-- Take the directives before a document and add the default tag handles. -/
def processDirectives : Parse Unit := do
  let mut seenVersion := false
  for _ in [0:← parseBudget] do
    let t ← peek
    match t.kind with
    | .versionDirective major minor =>
      if seenVersion then parseError "found duplicate %YAML directive" t.start none
      if major ≠ 1 || (minor ≠ 1 && minor ≠ 2) then
        parseError "found incompatible YAML document" t.start none
      seenVersion := true
      advance
    | .tagDirective handle tagPrefix =>
      if (← get).tagDirectives.any (·.1 == handle) then
        parseError "found duplicate %TAG directive" t.start none
      modify fun p => { p with tagDirectives := p.tagDirectives ++ [(handle, tagPrefix)] }
      advance
    | _ => break
  for (handle, tagPrefix) in defaultTagDirectives do
    if !(← get).tagDirectives.any (·.1 == handle) then
      modify fun p => { p with tagDirectives := p.tagDirectives ++ [(handle, tagPrefix)] }

/-- Whether a token opens an explicit document or ends the stream, or is a directive: the
tokens that cannot begin an implicit document. A document end marker can, and the implicit
document then lacks its content. -/
def TokenKind.isDocumentBoundary : TokenKind → Bool
  | .versionDirective _ _ | .tagDirective _ _ | .documentStart | .streamEnd => true
  | _ => false

/-- The start of the stream. -/
def parseStreamStart : Parse Event := do
  let t ← peek
  match t.kind with
  | .streamStart =>
    goTo .implicitDocumentStart
    advance
    return ⟨.streamStart, t.start, t.start⟩
  | _ => parseError "did not find expected <stream-start>" t.start none

/-- The start of a document, or the end of the stream. -/
def parseDocumentStart (implicit : Bool) : Parse Event := do
  let mut t ← peek
  if !implicit then
    for _ in [0:← parseBudget] do
      match t.kind with
      | .documentEnd =>
        advance
        t ← peek
      | _ => break
  match t.kind with
  | .streamEnd =>
    goTo .finished
    advance
    return ⟨.streamEnd, t.start, t.stop⟩
  | kind =>
    if implicit && !kind.isDocumentBoundary then
      processDirectives
      pushState .documentEnd
      goTo .blockNode
      return ⟨.documentStart true, t.start, t.start⟩
    else
      let start := t.start
      processDirectives
      let marker ← peek
      match marker.kind with
      | .documentStart =>
        pushState .documentEnd
        goTo .documentContent
        advance
        return ⟨.documentStart false, start, marker.stop⟩
      | _ => parseError "did not find expected <document start>" marker.start none

/-- The content of an explicit document; empty if the document ends at once, by a marker,
a directive or the end of the stream. -/
def parseNodeOrEmpty (parseNode : Parse Event) : Parse Event := do
  let t ← peek
  if t.kind.isDocumentBoundary || t.kind matches .documentEnd then
    returnState
    return emptyScalar t.start
  else parseNode

/-- The end of a document, with or without `...`. -/
def parseDocumentEnd : Parse Event := do
  let t ← peek
  let (stop, implicit) ← match t.kind with
    | .documentEnd => do
      advance
      pure (t.stop, false)
    | _ => pure (t.start, true)
  modify fun p => { p with tagDirectives := [] }
  goTo .documentStart
  return ⟨.documentEnd implicit, t.start, stop⟩

/-- A node: an alias, or a scalar or collection with optional anchor and tag. -/
def parseNode (block indentless : Bool) : Parse Event := do
  let first ← peek
  match first.kind with
  | .alias name =>
    returnState
    advance
    return ⟨.alias name, first.start, first.stop⟩
  | _ =>
    let mut start := first.start
    let mut stop := first.start
    let mut anchor : Option String := none
    let mut tagParts : Option (List UInt8 × List UInt8) := none
    let mut tagMark := first.start
    let mut t := first
    match first.kind with
    | .anchor name =>
      anchor := some name
      stop := first.stop
      advance
      t ← peek
      match t.kind with
      | .tag handle suffix =>
        tagParts := some (handle, suffix)
        tagMark := t.start
        stop := t.stop
        advance
        t ← peek
      | _ => pure ()
    | .tag handle suffix =>
      tagParts := some (handle, suffix)
      tagMark := first.start
      stop := first.stop
      advance
      t ← peek
      match t.kind with
      | .anchor name =>
        anchor := some name
        stop := t.stop
        advance
        t ← peek
      | _ => pure ()
    | _ => pure ()
    let tag ← match tagParts with
      | none => pure none
      | some (handle, suffix) =>
        if handle.isEmpty then pure (some suffix)
        else match (← get).tagDirectives.find? (·.1 == handle) with
          | some (_, tagPrefix) => pure (some (tagPrefix ++ suffix))
          | none => parseError "found undefined tag handle" tagMark (some ("while parsing a node", start))
    match t.kind with
    | .blockEntry =>
      if indentless then
        goTo .indentlessSequenceEntry
        return ⟨.sequenceStart anchor tag, start, t.stop⟩
    | _ => pure ()
    match t.kind with
    | .scalar text style =>
      returnState
      advance
      return ⟨.scalar anchor tag text style, start, t.stop⟩
    | .flowSequenceStart =>
      goTo .flowSequenceFirstEntry
      return ⟨.sequenceStart anchor tag, start, t.stop⟩
    | .flowMappingStart =>
      goTo .flowMappingFirstKey
      return ⟨.mappingStart anchor tag, start, t.stop⟩
    | .blockSequenceStart =>
      if block then
        goTo .blockSequenceFirstEntry
        return ⟨.sequenceStart anchor tag, start, t.stop⟩
    | .blockMappingStart =>
      if block then
        goTo .blockMappingFirstKey
        return ⟨.mappingStart anchor tag, start, t.stop⟩
    | _ => pure ()
    if anchor.isSome || tag.isSome then
      returnState
      return ⟨.scalar anchor tag "" .plain, start, stop⟩
    parseError "did not find expected node content" t.start
      (some (if block then "while parsing a block node" else "while parsing a flow node", start))

/-- An entry of a block sequence, or its end. -/
def parseBlockSequenceEntry (first : Bool) : Parse Event := do
  if first then
    pushMark (← peek).start
    advance
  let t ← peek
  match t.kind with
  | .blockEntry =>
    let mark := t.stop
    advance
    let t ← peek
    match t.kind with
    | .blockEntry | .blockEnd =>
      goTo .blockSequenceEntry
      return emptyScalar mark
    | _ =>
      pushState .blockSequenceEntry
      parseNode true false
  | .blockEnd =>
    returnState
    let _ ← popMark
    advance
    return ⟨.sequenceEnd, t.start, t.stop⟩
  | _ =>
    let m ← popMark
    parseError "did not find expected '-' indicator" t.start (some ("while parsing a block collection", m))

/-- An entry of a sequence written without indentation under a mapping key. -/
def parseIndentlessSequenceEntry : Parse Event := do
  let t ← peek
  match t.kind with
  | .blockEntry =>
    let mark := t.stop
    advance
    let t ← peek
    match t.kind with
    | .blockEntry | .key | .value | .blockEnd =>
      goTo .indentlessSequenceEntry
      return emptyScalar mark
    | _ =>
      pushState .indentlessSequenceEntry
      parseNode true false
  | _ =>
    returnState
    return ⟨.sequenceEnd, t.start, t.start⟩

/-- A key of a block mapping, or its end. -/
def parseBlockMappingKey (first : Bool) : Parse Event := do
  if first then
    pushMark (← peek).start
    advance
  let t ← peek
  match t.kind with
  | .key =>
    let mark := t.stop
    advance
    let t ← peek
    match t.kind with
    | .key | .value | .blockEnd =>
      goTo .blockMappingValue
      return emptyScalar mark
    | _ =>
      pushState .blockMappingValue
      parseNode true true
  | .blockEnd =>
    returnState
    let _ ← popMark
    advance
    return ⟨.mappingEnd, t.start, t.stop⟩
  | _ =>
    let m ← popMark
    parseError "did not find expected key" t.start (some ("while parsing a block mapping", m))

/-- A value of a block mapping; empty if left out. -/
def parseBlockMappingValue : Parse Event := do
  let t ← peek
  match t.kind with
  | .value =>
    let mark := t.stop
    advance
    let t ← peek
    match t.kind with
    | .key | .value | .blockEnd =>
      goTo .blockMappingKey
      return emptyScalar mark
    | _ =>
      pushState .blockMappingKey
      parseNode true true
  | _ =>
    goTo .blockMappingKey
    return emptyScalar t.start

/-- An entry of a flow sequence, or its end. -/
def parseFlowSequenceEntry (first : Bool) : Parse Event := do
  if first then
    pushMark (← peek).start
    advance
  let mut t ← peek
  match t.kind with
  | .flowSequenceEnd => pure ()
  | _ =>
    if !first then
      match t.kind with
      | .flowEntry =>
        advance
        t ← peek
      | _ =>
        let m ← popMark
        parseError "did not find expected ',' or ']'" t.start (some ("while parsing a flow sequence", m))
    match t.kind with
    | .key =>
      goTo .flowSequenceEntryMappingKey
      advance
      return ⟨.mappingStart none none, t.start, t.stop⟩
    | .flowSequenceEnd => pure ()
    | _ =>
      pushState .flowSequenceEntry
      return ← parseNode false false
  returnState
  let _ ← popMark
  advance
  return ⟨.sequenceEnd, t.start, t.stop⟩

/-- The key of a single-pair mapping inside a flow sequence. -/
def parseFlowSequenceEntryMappingKey : Parse Event := do
  let t ← peek
  match t.kind with
  | .value | .flowEntry | .flowSequenceEnd =>
    goTo .flowSequenceEntryMappingValue
    return emptyScalar t.start
  | _ =>
    pushState .flowSequenceEntryMappingValue
    parseNode false false

/-- The value of a single-pair mapping inside a flow sequence. -/
def parseFlowSequenceEntryMappingValue : Parse Event := do
  let mut t ← peek
  match t.kind with
  | .value =>
    advance
    t ← peek
    match t.kind with
    | .flowEntry | .flowSequenceEnd => pure ()
    | _ =>
      pushState .flowSequenceEntryMappingEnd
      return ← parseNode false false
  | _ => pure ()
  goTo .flowSequenceEntryMappingEnd
  return emptyScalar t.start

/-- The end of a single-pair mapping inside a flow sequence. -/
def parseFlowSequenceEntryMappingEnd : Parse Event := do
  let t ← peek
  goTo .flowSequenceEntry
  return ⟨.mappingEnd, t.start, t.start⟩

/-- A key of a flow mapping, or its end. -/
def parseFlowMappingKey (first : Bool) : Parse Event := do
  if first then
    pushMark (← peek).start
    advance
  let mut t ← peek
  match t.kind with
  | .flowMappingEnd => pure ()
  | _ =>
    if !first then
      match t.kind with
      | .flowEntry =>
        advance
        t ← peek
      | _ =>
        let m ← popMark
        parseError "did not find expected ',' or '\x7d'" t.start (some ("while parsing a flow mapping", m))
    match t.kind with
    | .key =>
      advance
      let next ← peek
      match next.kind with
      | .value | .flowEntry | .flowMappingEnd =>
        goTo .flowMappingValue
        return emptyScalar next.start
      | _ =>
        pushState .flowMappingValue
        return ← parseNode false false
    | .flowMappingEnd => pure ()
    | _ =>
      pushState .flowMappingEmptyValue
      return ← parseNode false false
  returnState
  let _ ← popMark
  advance
  return ⟨.mappingEnd, t.start, t.stop⟩

/-- A value of a flow mapping; empty if left out. -/
def parseFlowMappingValue (empty : Bool) : Parse Event := do
  let mut t ← peek
  if empty then
    goTo .flowMappingKey
    return emptyScalar t.start
  match t.kind with
  | .value =>
    advance
    t ← peek
    match t.kind with
    | .flowEntry | .flowMappingEnd => pure ()
    | _ =>
      pushState .flowMappingKey
      return ← parseNode false false
  | _ => pure ()
  goTo .flowMappingKey
  return emptyScalar t.start

/-- The next event. -/
def nextEvent : Parse Event := do
  match (← get).state with
  | .streamStart => parseStreamStart
  | .implicitDocumentStart => parseDocumentStart true
  | .documentStart => parseDocumentStart false
  | .documentContent => parseNodeOrEmpty (parseNode true false)
  | .documentEnd => parseDocumentEnd
  | .blockNode => parseNode true false
  | .blockNodeOrIndentlessSequence => parseNode true true
  | .flowNode => parseNode false false
  | .blockSequenceFirstEntry => parseBlockSequenceEntry true
  | .blockSequenceEntry => parseBlockSequenceEntry false
  | .indentlessSequenceEntry => parseIndentlessSequenceEntry
  | .blockMappingFirstKey => parseBlockMappingKey true
  | .blockMappingKey => parseBlockMappingKey false
  | .blockMappingValue => parseBlockMappingValue
  | .flowSequenceFirstEntry => parseFlowSequenceEntry true
  | .flowSequenceEntry => parseFlowSequenceEntry false
  | .flowSequenceEntryMappingKey => parseFlowSequenceEntryMappingKey
  | .flowSequenceEntryMappingValue => parseFlowSequenceEntryMappingValue
  | .flowSequenceEntryMappingEnd => parseFlowSequenceEntryMappingEnd
  | .flowMappingFirstKey => parseFlowMappingKey true
  | .flowMappingKey => parseFlowMappingKey false
  | .flowMappingValue => parseFlowMappingValue false
  | .flowMappingEmptyValue => parseFlowMappingValue true
  | .finished =>
    let m := (← get).scanner.mark
    return ⟨.streamEnd, m, m⟩

end CanDecoder.Yaml
