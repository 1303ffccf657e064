import CanDecoder.Failure
import CanDecoder.Text.Blank

/-!
# Lines of a CAN capture log

A capture log holds one frame per line, in one of three layouts:

* `(1700000000.123456) can0 360#0DAC03F501F40000`: a timestamp in parentheses, the
  interface, and the identifier joined to the payload by `#`;
* `360#0DAC03F501F40000`: the joined form alone;
* `can0  360   [8]  0D AC 03 F5 01 F4 00 00`: interface, identifier, the payload length
  in brackets and the payload bytes as separate hex words.

A line is split into blank-separated words. A first word in parentheses is the
timestamp. Then the first word holding `#` is the joined form, with the word before it
as interface; failing that, the first word in brackets is a length field, with the
identifier before it and the interface before that. Blank lines and lines starting with
`#` hold no frame. A payload has at most eight bytes.
-/

namespace CanDecoder.Log

/-- One frame read from a log line. -/
structure LoggedFrame where
  timestamp : Option Float
  interface : Option String
  id : FrameId
  data : Payload
  deriving Inhabited

/-- The most bytes a classic CAN frame carries. -/
def maxPayload : Nat := 8

/-- Split `xs` at its first element satisfying `p`: the elements before, that element
and those after. -/
def splitAtFirst {α : Type} (p : α → Bool) : List α → Option (List α × α × List α)
  | [] => none
  | x :: xs =>
    if p x then some ([], x, xs)
    else (splitAtFirst p xs).map fun (before, y, after) => (x :: before, y, after)

/-- Refuse a payload longer than a classic frame carries. -/
def checkLength (data : Payload) : Except Failure Unit :=
  if maxPayload < data.length then
    .error (.stated ("payload of " ++ toString data.length ++ " bytes exceeds " ++ toString maxPayload))
  else .ok ()

/-- Read a frame identifier word. -/
def readId (w : List Char) : Except Failure FrameId :=
  (FrameId.read (String.ofList w)).mapError fun e => .of (.decoder e)

/-- Read a hex word, naming `what` it was in the context of a failure. -/
def readHex (what : String) (w : List Char) : Except Failure Payload :=
  let s := String.ofList w
  (decodeHex s).mapError fun e => (Failure.of (.hex e)).within (what ++ s)

/-- The text inside a word written in parentheses. -/
def parenthesized : List Char → Option (List Char)
  | '(' :: rest => if rest.getLast? = some ')' then some rest.dropLast else none
  | _ => none

/-- The text inside a word written in brackets. -/
def bracketed : List Char → Option (List Char)
  | '[' :: rest => if rest.getLast? = some ']' then some rest.dropLast else none
  | _ => none

/-- Read the timestamp of a word in parentheses. -/
def readTimestamp (word inner : List Char) : Except Failure Float :=
  (Decimal.readLiteral (String.ofList inner)).mapError fun e =>
    (Failure.of (.literal e)).within ("invalid timestamp: " ++ String.ofList word)

/-- Read the joined form `ID#DATA`. -/
def readJoined (word : List Char) : Except Failure (FrameId × Payload) := do
  let some (idPart, _, data) := splitAtFirst (· == '#') word
    | .error (.stated "missing '#' separator")
  match data with
  | '#' :: _ => .error (.stated "CAN FD frames are not supported")
  | 'R' :: _ | 'r' :: _ => .error (.stated "remote frames carry no data")
  | _ => pure ()
  let id ← readId idPart
  let payload ← readHex "invalid payload: " data
  checkLength payload
  pure (id, payload)

/-- Read the spaced form from the words before the length field, the field's word and
the text inside its brackets, and the payload words after it. -/
def readSpaced (before : List (List Char)) (word inner : List Char) (after : List (List Char)) :
    Except Failure (Option String × FrameId × Payload) := do
  let some idWord := before.getLast?
    | .error (.stated "missing frame ID before length field")
  let interface := before.dropLast.getLast?.map String.ofList
  let id ← readId idWord
  let count ← (Decimal.readNatural Decimal.wordBound (String.ofList inner)).mapError fun e =>
    (Failure.of (.natural e)).within ("invalid length field: " ++ String.ofList word)
  let pieces ← after.mapM (readHex "invalid data byte: ")
  let data := pieces.flatten
  if data.length ≠ count then
    .error (.stated ("length field says " ++ toString count ++ " bytes, found " ++ toString data.length))
  checkLength data
  pure (interface, id, data)

/-- Read the frame of the words of a line, after any timestamp. -/
def readWords (timestamp : Option Float) (words : List (List Char)) :
    Except Failure LoggedFrame :=
  match splitAtFirst (·.contains '#') words with
  | some (before, word, _) => do
    let (id, data) ← readJoined word
    pure ⟨timestamp, before.getLast?.map String.ofList, id, data⟩
  | none =>
    match splitAtFirst (fun w => (bracketed w).isSome) words with
    | some (before, word, after) =>
      match bracketed word with
      | some inner => do
        let (interface, id, data) ← readSpaced before word inner after
        pure ⟨timestamp, interface, id, data⟩
      | none => .error (.stated "unrecognised candump line")
    | none => .error (.stated "unrecognised candump line")

/-- Read one log line: `none` for a blank or comment line, else the frame it holds. -/
def parseLine (line : String) : Except Failure (Option LoggedFrame) :=
  let cs := Text.trimChars line.toList
  match cs with
  | [] => .ok none
  | '#' :: _ => .ok none
  | _ =>
    match Text.wordsOf cs with
    | first :: rest =>
      match parenthesized first with
      | some inner => do
        let t ← readTimestamp first inner
        some <$> readWords (some t) rest
      | none => some <$> readWords none (first :: rest)
    | [] => some <$> readWords none []

end CanDecoder.Log
