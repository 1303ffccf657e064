import CanDecoder.Yaml.Event

/-!
# YAML documents as event lists

Only the first document of a stream is read. Its node events are kept in order, with
anchors replaced by numbers: the `n`-th distinct anchor name gets number `n`, a name
defined again gets the next free number, and an alias refers to the number its name has
at that point. Each number remembers the event its anchor was last put on.

Reading stops at the first syntax error, keeping the events before it and the error, or
at an alias whose name has no anchor yet. An empty stream reads as one empty document.
Whether a second document follows is decided by the event after the first document's
end: only the end of the stream means there is none.
-/

namespace CanDecoder.Yaml

/-- A node event of a loaded document. -/
inductive Node where
  | alias (anchor : Nat)
  | scalar (tag : Option (List UInt8)) (text : String) (style : ScalarStyle)
  | sequenceStart (tag : Option (List UInt8))
  | sequenceEnd
  | mappingStart (tag : Option (List UInt8))
  | mappingEnd
  /-- The content of an empty stream. -/
  | void
  deriving Repr, Inhabited

/-- The first document of a stream. -/
structure Document where
  /-- The node events with the marks where they start. -/
  events : Array (Node × Mark)
  /-- For each anchor number, the event its anchor stands on. -/
  anchorEvents : List (Nat × Nat)
  /-- The error that stopped reading, if any. -/
  error : Option Error
  deriving Inhabited

/-- The state of loading: the document so far and the anchor names seen. -/
structure Loading where
  events : Array (Node × Mark) := #[]
  anchorEvents : List (Nat × Nat) := []
  anchorNames : List (String × Nat) := []

namespace Loading

/-- Give the next event an anchor. -/
def anchor (l : Loading) : Option String → Loading
  | none => l
  | some name =>
    let number := l.anchorNames.length
    let names := if l.anchorNames.any (·.1 == name)
      then l.anchorNames.map fun (n, k) => if n == name then (n, number) else (n, k)
      else l.anchorNames ++ [(name, number)]
    { l with anchorNames := names,
             anchorEvents := (number, l.events.size) :: l.anchorEvents.filter (·.1 != number) }

/-- Add an event. -/
def push (l : Loading) (n : Node) (m : Mark) : Loading := { l with events := l.events.push (n, m) }

/-- The document read so far. -/
def document (l : Loading) (error : Option Error) : Document := ⟨l.events, l.anchorEvents, error⟩

end Loading

/-- Whether the event after the first document shows a second one. -/
def followedByDocument (p : Parser) : Bool :=
  match nextEvent.run p with
  | .ok (e, _) => match e.kind with
    | .streamEnd => false
    | _ => true
  | .error _ => true

/-- Read the first document of a text, and whether a second document follows. -/
def Document.load (text : String) : Document × Bool :=
  match Scanner.ofText text with
  | .error e => (⟨#[], [], some e⟩, false)
  | .ok scanner => Id.run do
    let mut p : Parser := { scanner := scanner }
    let mut l : Loading := {}
    for _ in [0:4 * scanner.budget + 8] do
      match nextEvent.run p with
      | .error e => return (l.document (some e), false)
      | .ok (e, p') =>
        p := p'
        match e.kind with
        | .streamStart | .documentStart _ => pure ()
        | .streamEnd =>
          if l.events.isEmpty then l := l.push .void e.start
          return (l.document none, false)
        | .documentEnd _ => return (l.document none, followedByDocument p)
        | .alias name =>
          match l.anchorNames.find? (·.1 == name) with
          | some (_, number) => l := l.push (.alias number) e.start
          | none => return (l.document (some (.unknownAnchor e.start)), false)
        | .scalar anchor tag text style => l := (l.anchor anchor).push (.scalar tag text style) e.start
        | .sequenceStart anchor tag => l := (l.anchor anchor).push (.sequenceStart tag) e.start
        | .sequenceEnd => l := l.push .sequenceEnd e.start
        | .mappingStart anchor tag => l := (l.anchor anchor).push (.mappingStart tag) e.start
        | .mappingEnd => l := l.push .mappingEnd e.start
    return (l.document none, false)

end CanDecoder.Yaml
