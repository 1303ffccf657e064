/-!
# YAML errors

A YAML document fails either in its syntax, where the scanner or parser names a problem,
the place it was found and what was being read around it, or in its data, where a value
does not have the shape the reader wants. Places are marks: a byte offset and a
zero-based line and column, the column counting characters. A mark at the very start of
the document is not written; a character that may not appear at all is placed by its byte
offset instead.
-/

namespace CanDecoder.Yaml

/-- A place in a YAML document. -/
structure Mark where
  index : Nat
  line : Nat
  column : Nat
  deriving Repr, DecidableEq, Inhabited

/-- The text of a mark: one-based line and column. -/
def Mark.text (m : Mark) : String :=
  "line " ++ toString (m.line + 1) ++ " column " ++ toString (m.column + 1)

/-- Whether the mark is the start of the document. -/
def Mark.isStart (m : Mark) : Bool := m.line = 0 && m.column = 0

/-- Why a YAML document could not be read. -/
inductive Error where
  /-- A character that may not appear in a document, at a byte offset. -/
  | unreadable (problem : String) (offset : Nat)
  /-- A syntax problem, with what was being read when it was found. -/
  | malformed (problem : String) (place : Mark) (context : Option (String × Mark))
  /-- A value of the wrong shape: the message, the path of keys leading to it, and where
  it starts. -/
  | data (message : String) (path : String) (place : Option Mark)
  /-- The text holds no document. -/
  | endOfStream
  /-- The text holds more than one document. -/
  | moreThanOneDocument
  /-- An alias names no anchor. -/
  | unknownAnchor (place : Mark)
  /-- Collections nested too deep. -/
  | recursionLimit (place : Mark)
  /-- Aliases followed too often. -/
  | repetitionLimit
  deriving Repr

/-- The text of a YAML error. -/
def Error.message : Error → String
  | .unreadable problem offset =>
    problem ++ (if offset = 0 then "" else " at position " ++ toString offset)
  | .malformed problem place context =>
    let head := problem ++ (if place.isStart then "" else " at " ++ place.text)
    match context with
    | none => head
    | some (ctx, mark) =>
      head ++ ", " ++ ctx ++
        (if mark.isStart || (mark.line = place.line && mark.column = place.column) then ""
         else " at " ++ mark.text)
  | .data msg path place =>
    (if path = "." then "" else path ++ ": ") ++ msg ++
      (match place with
       | some m => if m.isStart then "" else " at " ++ m.text
       | none => "")
  | .endOfStream => "EOF while parsing a value"
  | .moreThanOneDocument => "deserializing from YAML containing more than one document is not supported"
  | .unknownAnchor m => "unknown anchor" ++ (if m.isStart then "" else " at " ++ m.text)
  | .recursionLimit m => "recursion limit exceeded" ++ (if m.isStart then "" else " at " ++ m.text)
  | .repetitionLimit => "repetition limit exceeded"

end CanDecoder.Yaml
