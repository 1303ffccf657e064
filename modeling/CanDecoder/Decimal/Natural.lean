/-!
# Reading unsigned decimal integers

An unsigned integer is written as an optional `+` followed by ASCII decimal digits,
nothing else. The digits are read from the left; the first character that is no digit,
or the first digit after which the value no longer fits below the bound, ends reading
with an error, whichever comes first.
-/

namespace CanDecoder.Decimal

/-- Why a text is no unsigned integer below the bound. -/
inductive NaturalError where
  | empty
  | invalidDigit
  | tooLarge
  deriving Repr, DecidableEq

/-- The text of an integer error. -/
def NaturalError.message : NaturalError → String
  | .empty => "cannot parse integer from empty string"
  | .invalidDigit => "invalid digit found in string"
  | .tooLarge => "number too large to fit in target type"

/-- Read the digits `cs` onto the value `acc`, every value staying below `bound`. -/
def readDigits (bound : Nat) (acc : Nat) : List Char → Except NaturalError Nat
  | [] => .ok acc
  | c :: cs =>
    if c.isDigit then
      let v := 10 * acc + (c.toNat - 48)
      if v < bound then readDigits bound v cs else .error .tooLarge
    else .error .invalidDigit

/-- Read an unsigned decimal integer below `bound`. -/
def readNatural (bound : Nat) (s : String) : Except NaturalError Nat :=
  match s.toList with
  | [] => .error .empty
  | ['+'] => .error .invalidDigit
  | '+' :: cs => readDigits bound 0 cs
  | cs => readDigits bound 0 cs

/-- Bound of the machine-word counts: sixty-four bits. -/
def wordBound : Nat := Nat.pow 2 64

example : readNatural wordBound "+08" = .ok 8 := by rfl
example : readNatural wordBound "-1" = .error .invalidDigit := by rfl
example : readNatural wordBound "99999999999999999999x" = .error .tooLarge := by rfl

end CanDecoder.Decimal
