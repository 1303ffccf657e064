import CanDecoder.Json.Reader
import CanDecoder.Yaml.Error
import CanDecoder.FrameId

/-!
# Errors of the decoding library

Decoding itself never fails: unknown or truncated frames give fewer readings. Errors
come from configuring a decoder: a bad frame identifier, a document without frames, an
unknown or repeated PD16 module, and a document that cannot be read from disk or parsed.
Each error has one text; a read or parse error also has the error it stems from as its
cause.
-/

namespace CanDecoder

/-- Why a file could not be read. -/
inductive IoError where
  | notFound
  | isDirectory
  | notADirectory
  | invalidUtf8
  /-- Any other failure, with its text. -/
  | other (message : String)
  deriving Repr, DecidableEq

/-- The text of a file error, as the operating system words it. -/
def IoError.message : IoError → String
  | .notFound => "No such file or directory (os error 2)"
  | .isDirectory => "Is a directory (os error 21)"
  | .notADirectory => "Not a directory (os error 20)"
  | .invalidUtf8 => "stream did not contain valid UTF-8"
  | .other m => m

/-- Errors of loading definitions and configuring decoders. -/
inductive Error where
  | invalidFrameId (text : String)
  | emptySchema
  | invalidDevice (text : String)
  | duplicateDevice (letter : Char)
  | yaml (e : Yaml.Error)
  | io (e : IoError)
  | json (e : Json.ReadError)
  deriving Inhabited

namespace Error

/-- The text of an error. -/
def message : Error → String
  | .invalidFrameId s => "invalid frame ID: " ++ s
  | .emptySchema => "protocol definition contains no frames"
  | .invalidDevice s => "invalid PD16 device: " ++ s ++ " (expected A, B, C or D)"
  | .duplicateDevice c => "PD16 device " ++ c.toString ++ " already registered"
  | .yaml e => "YAML parse error: " ++ e.message
  | .io e => "IO error: " ++ e.message
  | .json e => "JSON error: " ++ e.message

/-- The text of the error this one stems from, if any. -/
def cause? : Error → Option String
  | .yaml e => some e.message
  | .io e => some e.message
  | .json e => some e.message
  | _ => none

end Error

/-- Read a frame identifier; a text that is none is refused, named as it was given. -/
def FrameId.read (s : String) : Except Error FrameId :=
  match FrameId.parse? s with
  | some id => .ok id
  | none => .error (.invalidFrameId s)

end CanDecoder
