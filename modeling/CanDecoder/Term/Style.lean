import CanDecoder.Term.Control

/-!
# Styled terminal text

Messages for a terminal are built from pieces, each drawn in a style: errors in bold red,
the offending input in yellow, accepted alternatives in green, names to type in bold and
section headings bold and underlined. Whether the styles reach the terminal is decided
only when the text is written: with colours on, each styled piece is wrapped in its ANSI
escape sequence and a reset; with colours off, the text is written as a terminal would
show it, without the styles and without any control sequence the text itself carries.
Neighbouring plain pieces read as one.

Separately, one-line notices (warnings, failures, an empty report) are painted whole in a
single colour.
-/

namespace CanDecoder.Term

/-- How a piece of text is drawn. -/
inductive Style where
  | plain
  /-- The word `error:` opening a refusal: bold red. -/
  | error
  /-- Input that was refused: yellow. -/
  | invalid
  /-- Input that would be accepted: green. -/
  | valid
  /-- Something to type as shown: bold. -/
  | literal
  /-- A section heading: bold and underlined. -/
  | header
  deriving DecidableEq, Repr, Inhabited

/-- The escape sequence that starts a style. -/
def Style.codes : Style → String
  | .plain => ""
  | .error => "\x1b[1m\x1b[31m"
  | .invalid => "\x1b[33m"
  | .valid => "\x1b[32m"
  | .literal => "\x1b[1m"
  | .header => "\x1b[1m\x1b[4m"

/-- The escape sequence that ends every style. -/
def reset : String := "\x1b[0m"

/-- Text made of styled pieces, in order. -/
abbrev Styled := List (Style × String)

namespace Styled

/-- A plain piece. -/
def text (s : String) : Styled := [(.plain, s)]

/-- A piece in style `st`. -/
def styled (st : Style) (s : String) : Styled := [(st, s)]

/-- The characters of the text, without styles. -/
def plainText (t : Styled) : String := String.join (t.map (·.2))

/-- Write the text with the escape sequences of its styles when `colors` holds; otherwise
write only what a terminal would show of it, so that neither the styles nor control
sequences within the text reach the output. -/
def render (colors : Bool) (t : Styled) : String :=
  let raw := String.join (t.map fun (st, s) => if st != .plain then st.codes ++ s ++ reset else s)
  if colors then raw else shownText raw

/-- Join neighbouring plain pieces, which no escape separates. -/
def mergePlain : Styled → Styled
  | (.plain, a) :: (.plain, b) :: rest => mergePlain ((.plain, a ++ b) :: rest)
  | p :: rest => p :: mergePlain rest
  | [] => []
termination_by t => t.length

/-- Replace every line feed by a line feed and `indent`. -/
def indent (indent : String) (t : Styled) : Styled :=
  t.map fun (st, s) => (st, s.replace "\n" ("\n" ++ indent))

end Styled

/-- A colour for a whole notice. -/
inductive Paint where
  | red
  | yellow
  | dimmed
  deriving DecidableEq, Repr

/-- The escape sequence of a paint. -/
def Paint.codes : Paint → String
  | .red => "\x1b[31m"
  | .yellow => "\x1b[33m"
  | .dimmed => "\x1b[2m"

/-- Paint `s` whole when `on` holds. A reset inside `s` would end the paint early, so the
paint is started again after each one. -/
def Paint.apply (p : Paint) (on : Bool) (s : String) : String :=
  if on then p.codes ++ s.replace reset (reset ++ p.codes) ++ reset else s

end CanDecoder.Term
