import CanDecoder.Text.Ranges

/-!
# Blank characters

Blanks are the characters with the Unicode `White_Space` property: the ASCII controls tab
to carriage return, the space, the next-line control, the no-break space and the other
spaces of the Unicode general punctuation block. Trimming and splitting into words use
exactly this set.
-/

namespace CanDecoder.Text

/-- Code points with the Unicode `White_Space` property. -/
def blankTable : RangeTable := #[
  (9, 13), (32, 32), (133, 133), (160, 160), (5760, 5760), (8192, 8202),
  (8232, 8233), (8239, 8239), (8287, 8287), (12288, 12288)]

/-- Whether `c` is a blank (Unicode `White_Space`). -/
def isBlank (c : Char) : Bool := blankTable.contains c.toNat

/-- `cs` without blanks at either end. -/
def trimChars (cs : List Char) : List Char :=
  ((cs.dropWhile isBlank).reverse.dropWhile isBlank).reverse

/-- `s` without blanks at either end. -/
def trim (s : String) : String := String.ofList (trimChars s.toList)

/-- Split `cs` at blanks, dropping empty pieces; `cur` holds the current word reversed. -/
def wordsFrom (cur : List Char) : List Char → List (List Char)
  | [] => if cur.isEmpty then [] else [cur.reverse]
  | c :: cs =>
    if isBlank c then
      if cur.isEmpty then wordsFrom [] cs else cur.reverse :: wordsFrom [] cs
    else wordsFrom (c :: cur) cs

/-- The words of `cs`: the maximal runs of non-blank characters, in order. -/
def wordsOf (cs : List Char) : List (List Char) := wordsFrom [] cs

/-- The words of `s`: the maximal runs of non-blank characters, in order. -/
def words (s : String) : List String := (wordsOf s.toList).map String.ofList

example : words "  x \t/\u3000 10 " = ["x", "/", "10"] := by decide
example : trim "\u00a0 0x360\n" = "0x360" := by decide

end CanDecoder.Text
