import CanDecoder.Decimal.Nearest

/-!
# Reading decimal literals

A decimal literal is an optional sign followed either by one of the words `inf`,
`infinity` or `nan` in any letter case, or by digits with an optional fraction and an
optional exponent: `12`, `12.`, `.5`, `1.5e-3`, `2E+8`. At least one digit must stand
before the exponent, and the exponent needs a digit. Nothing else may surround it: no
blank, no `0x`, no `_`. The value is the binary64 number nearest to the exact decimal.
-/

namespace CanDecoder.Decimal

/-- Why a text is no decimal literal. -/
inductive LiteralError where
  | empty
  | invalid
  deriving Repr, DecidableEq

/-- The text of a literal error. -/
def LiteralError.message : LiteralError → String
  | .empty => "cannot parse float from empty string"
  | .invalid => "invalid float literal"

/-- Split leading ASCII digits off `cs`, returning their value and count. -/
def takeDigits (cs : List Char) : Nat × Nat × List Char :=
  let ds := cs.takeWhile Char.isDigit
  (ds.foldl (fun n c => 10 * n + (c.toNat - 48)) 0, ds.length, cs.drop ds.length)

/-- Read an exponent part after `e`: an optional sign and at least one digit. -/
def readExponent (cs : List Char) : Option Int :=
  let (neg, rest) := match cs with
    | '-' :: r => (true, r)
    | '+' :: r => (false, r)
    | r => (false, r)
  let (n, count, after) := takeDigits rest
  if count = 0 ∨ !after.isEmpty then none
  else some (if neg then -(n : Int) else n)

/-- Read an unsigned decimal literal into its digits and power of ten. -/
def readUnsigned (cs : List Char) : Option (Nat × Int) :=
  let (whole, wholeCount, rest) := takeDigits cs
  let (frac, fracCount, rest) := match rest with
    | '.' :: r =>
      let (f, n, r') := takeDigits r
      (f, n, r')
    | r => (0, 0, r)
  if wholeCount + fracCount = 0 then none
  else
    let digits := whole * Nat.pow 10 fracCount + frac
    match rest with
    | [] => some (digits, -(fracCount : Int))
    | c :: r =>
      if c = 'e' ∨ c = 'E' then
        (readExponent r).map fun x => (digits, x - fracCount)
      else none

/-- Whether `cs` spells `word` in any ASCII letter case. -/
def spellsWord (cs : List Char) (word : String) : Bool :=
  cs.map Char.toLower == word.toList

/-- Read a decimal literal. -/
def readLiteral (s : String) : Except LiteralError Float :=
  let cs := s.toList
  if cs.isEmpty then .error .empty
  else
    let (neg, body) := match cs with
      | '-' :: r => (true, r)
      | '+' :: r => (false, r)
      | r => (false, r)
    if body.isEmpty then .error .invalid
    else match readUnsigned body with
      | some (d, x) => .ok (ofDecimal neg d x)
      | none =>
        if spellsWord body "inf" || spellsWord body "infinity" then
          .ok (ofFields neg 2047 0)
        else if spellsWord body "nan" then .ok (ofFields neg 2047 (Nat.pow 2 51))
        else .error .invalid

end CanDecoder.Decimal
