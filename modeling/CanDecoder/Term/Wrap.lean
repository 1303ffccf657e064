import CanDecoder.Term.Style
import CanDecoder.Term.Control
import CanDecoder.Text.Blank

/-!
# Wrapping help text

Help text is wrapped to the terminal width word by word. A word is a run of characters
other than the space together with the spaces after it; spaces that open a line form a
word of their own. A word takes a column per character, except that an ASCII control
character (a tab or carriage return too) starts a stretch that takes no room, up to and
including the next `m`, the letter that ends a colour sequence. Words are laid out
greedily: a word that would reach past the width starts a new line, unless nothing but
blanks stands before it on its line. When the word that ends the old line was handed over
with it, the old line
loses its trailing blanks; and when the first word of the text was only spaces, each new
line starts with that same indentation.

A line feed in the text starts a new line and resets the count. A styled text is wrapped
piece by piece with one running count, and so is each shown run of a piece: control
sequences inside the text are passed on where they stand and take no room. At the end
trailing blanks are dropped.
-/

namespace CanDecoder.Term

/-- `s` without blanks at its end. -/
def trimEnd (s : String) : String :=
  String.ofList (s.toList.reverse.dropWhile Text.isBlank).reverse

/-- The words of `cs`: `cur` holds the current word reversed, `inSpace` whether its last
character was a space. -/
def wordsFrom (cur : List Char) (inSpace : Bool) : List Char → List (List Char)
  | [] => if cur.isEmpty then [] else [cur.reverse]
  | c :: cs =>
    if inSpace && c != ' ' then cur.reverse :: wordsFrom [c] false cs
    else wordsFrom (c :: cur) (c == ' ') cs

/-- The words of a line, each with the spaces that follow it. -/
def lineWords (line : String) : List String := (wordsFrom [] false line.toList).map String.ofList

/-- The lines of `s`, each with its line feed. -/
def linesWithEnds (s : String) : List String :=
  let parts := s.splitOn "\n"
  let n := parts.length
  (parts.zipIdx.filterMap fun (p, i) =>
    if i + 1 < n then some (p ++ "\n") else if p.isEmpty then none else some p)

/-- The columns help text takes: one per character, where an ASCII control character
starts a stretch that takes none, up to and including the next `m`. -/
def textWidth (s : String) : Nat :=
  (s.toList.foldl (fun (acc : Nat × Bool) c =>
    let (w, inControl) := acc
    if c.toNat < 0x20 || c.toNat = 0x7F then (w, true)
    else if inControl && c = 'm' then (w, false)
    else if inControl then (w, true)
    else (w + 1, false)) (0, false)).1

example : textWidth "a\x1b[1mbc" = 3 := by decide
example : textWidth "a\tbbb" = 1 := by decide

/-- The state of a greedy wrap. -/
structure Wrapper where
  /-- The widest a line may be. -/
  width : Nat
  /-- The width of the line so far. -/
  lineWidth : Nat := 0
  /-- The indentation of new lines, fixed by the first word seen. -/
  carryover : Option String := none
  /-- Whether the line so far holds a word that is not only blanks. -/
  lineHasWord : Bool := false
  deriving Inhabited

namespace Wrapper

/-- Start a fresh line after a line feed of the text. -/
def restart (w : Wrapper) : Wrapper :=
  { w with lineWidth := 0, carryover := none, lineHasWord := false }

/-- Lay out `words`; `out` holds the words of this batch laid out so far, newest first. -/
def place (w : Wrapper) (out : List String) : List String → List String × Wrapper
  | [] => (out.reverse, w)
  | word :: rest =>
    let trimmed := trimEnd word
    let wordWidth := textWidth trimmed
    let delta := word.utf8ByteSize - trimmed.utf8ByteSize
    let breaks := w.lineHasWord && 0 < w.lineWidth && w.width < w.lineWidth + wordWidth
    let (out, lineWidth) :=
      if breaks then
        let out := match out with
          | last :: more => trimEnd last :: more
          | [] => []
        match w.carryover with
        | some c => (c :: "\n" :: out, c.utf8ByteSize)
        | none => ("\n" :: out, 0)
      else (out, w.lineWidth)
    let hasWord := (w.lineHasWord && !breaks) || !trimmed.isEmpty
    place { w with lineWidth := lineWidth + wordWidth + delta, lineHasWord := hasWord }
      (word :: out) rest

/-- Lay out the words of one piece of text. -/
def wrapWords (w : Wrapper) (words : List String) : List String × Wrapper :=
  let w := match w.carryover, words.head? with
    | none, some first => { w with carryover := some (if (Text.trim first).isEmpty then first else "") }
    | _, _ => w
  w.place [] words

/-- Wrap one piece of text, line by line. -/
def wrapPiece (w : Wrapper) (s : String) : String × Wrapper :=
  let (texts, w) := (linesWithEnds s).zipIdx.foldl (fun (acc : List String × Wrapper) (line, i) =>
    let w := if i > 0 then acc.2.restart else acc.2
    let (ws, w) := w.wrapWords (lineWords line)
    (acc.1 ++ [String.join ws], w)) ([], w)
  (String.join texts, w)

end Wrapper

/-- Drop the blanks that end a styled text; a styled last piece ends in its escape
sequence, so only a plain last piece loses any. -/
def trimStyledEnd (t : Styled) : Styled :=
  match t.reverse with
  | (.plain, s) :: rest => (rest.reverse ++ [(.plain, trimEnd s)])
  | _ => t

/-- Wrap the shown runs of a piece, passing its hidden parts through. -/
def wrapShown (w : Wrapper) (s : String) : String × Wrapper :=
  let (texts, w) := (parts s).foldl (fun (acc : List String × Wrapper) (shown, t) =>
    if shown then
      let (t', w) := acc.2.wrapPiece t
      (acc.1 ++ [t'], w)
    else (acc.1 ++ [t], acc.2)) ([], w)
  (String.join texts, w)

/-- Wrap a styled text to `width` columns. -/
def wrap (width : Nat) (t : Styled) : Styled :=
  let (pieces, _) := (Styled.mergePlain t).foldl (fun (acc : Styled × Wrapper) (st, s) =>
    if s.isEmpty then (acc.1 ++ [(st, s)], acc.2)
    else
      let (s', w) := wrapShown acc.2 s
      (acc.1 ++ [(st, s')], w)) ([], { width := width })
  trimStyledEnd pieces

end CanDecoder.Term
