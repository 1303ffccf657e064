import CanDecoder.Error
import CanDecoder.Hex
import CanDecoder.Decimal.Literal
import CanDecoder.Decimal.Natural

/-!
# Failures with context

A failure of the log reader or of the command line is a cause wrapped in context: each
layer that passes the failure on may say what it was doing. The failure is shown as
its chain of texts, the outermost context first and the innermost cause last; an error
of the decoding library that stems from another error adds that error's text at the end.
-/

namespace CanDecoder

/-- The innermost reason a failure happened. -/
inductive Cause where
  | literal (e : Decimal.LiteralError)
  | natural (e : Decimal.NaturalError)
  | hex (e : HexError)
  | decoder (e : Error)
  | io (e : IoError)
  | stated (message : String)
  deriving Inhabited

/-- The texts of a cause, outermost first. -/
def Cause.chain : Cause → List String
  | .literal e => [e.message]
  | .natural e => [e.message]
  | .hex e => [e.message]
  | .decoder e => e.message :: e.cause?.toList
  | .io e => [e.message]
  | .stated m => [m]

/-- A cause with the context of the layers it passed, outermost first. -/
structure Failure where
  context : List String
  cause : Cause
  deriving Inhabited

namespace Failure

/-- A failure with no context. -/
def of (c : Cause) : Failure := ⟨[], c⟩

/-- A failure stated by its text alone. -/
def stated (m : String) : Failure := of (.stated m)

/-- Wrap `f` in one more layer of context. -/
def within (outer : String) (f : Failure) : Failure := { f with context := outer :: f.context }

/-- All texts of the failure, outermost first. -/
def chain (f : Failure) : List String := f.context ++ f.cause.chain

/-- The failure on one line: its texts joined by a colon. -/
def message (f : Failure) : String := ": ".intercalate f.chain

/-- `s` right-aligned in `width` columns. -/
def padLeft (width : Nat) (s : String) : String :=
  String.ofList (List.replicate (width - s.length) ' ') ++ s

/-- The failure as the program reports it on exit: `Error:` and the outermost text, then
the rest below `Caused by:`, one per line and indented, numbered from 0 when there are
several; a text of several lines keeps its indentation on each. -/
def report (f : Failure) : String :=
  match f.chain with
  | [] => "Error: \n"
  | top :: causes =>
    let body := match causes with
      | [] => ""
      | [one] => "\n\nCaused by:\n    " ++ one.replace "\n" "\n    "
      | _ => "\n\nCaused by:" ++ String.join (causes.zipIdx.map fun (c, i) =>
          "\n" ++ padLeft 5 (toString i) ++ ": " ++ c.replace "\n" "\n       ")
    "Error: " ++ top ++ body ++ "\n"

end Failure

end CanDecoder
