import CanDecoder.Decimal.Binary

/-!
# The nearest binary64 number

`nearest negative num den` is the binary64 number nearest to `±num / den`: the quotient is
scaled to a 53-bit mantissa (fewer below the normal range), the remainder decides the last
bit, and an exact half goes to the even mantissa. A quotient at or above `2^1024` after
rounding is an infinity; one below half the least subnormal is a zero of the same sign.
Reading decimal text uses this with `num / den = digits · 10^exponent`.
-/

namespace CanDecoder.Decimal

/-- `a · 2^k` for an integer `k`, as a pair numerator, denominator. -/
def scaleByTwo (a : Nat) (k : Int) : Nat × Nat :=
  if 0 ≤ k then (a * Nat.pow 2 k.toNat, 1) else (a, Nat.pow 2 (-k).toNat)

/-- Whether `2^b ≤ num / den`. -/
def powTwoLe (b : Int) (num den : Nat) : Bool :=
  if 0 ≤ b then Nat.pow 2 b.toNat * den ≤ num else den ≤ num * Nat.pow 2 (-b).toNat

/-- `⌊log₂ (num / den)⌋` for `num, den > 0`: the bit lengths give it or one more. -/
def floorLog2 (num den : Nat) : Int :=
  let b : Int := (num.log2 : Int) - den.log2
  if powTwoLe b num den then b else b - 1

/-- Divide `num` by `den` and round the quotient to nearest, ties to even. -/
def roundDivEven (num den : Nat) : Nat :=
  let q := num / den
  let r := num % den
  if 2 * r > den || (2 * r == den && q % 2 == 1) then q + 1 else q

/-- The binary64 number nearest to `±num / den`, ties to even (`den > 0`). -/
def nearest (negative : Bool) (num den : Nat) : Float :=
  if num = 0 then ofFields negative 0 0
  else
    let b := floorLog2 num den
    -- the exponent of the last mantissa bit
    let q : Int := max (b - 52) (-1074)
    let (sn, sd) := scaleByTwo 1 (-q)
    let m := roundDivEven (num * sn) (den * sd)
    -- a carry into a 54th bit moves the exponent up
    let (m, q) := if m = Nat.pow 2 53 then (Nat.pow 2 52, q + 1) else (m, q)
    if m < Nat.pow 2 52 then ofFields negative 0 m
    else
      let biased := q + 1075
      if 2047 ≤ biased then ofFields negative 2047 0
      else ofFields negative biased.toNat (m - Nat.pow 2 52)

/-- The binary64 number nearest to `±digits · 10^exponent`. Values at or above `10^310`
are infinite and values below `10^-344` are zero, so huge exponents cost nothing. -/
def ofDecimal (negative : Bool) (digits : Nat) (exponent : Int) : Float :=
  let size : Int := (Nat.toDigits 10 digits).length
  if digits = 0 then ofFields negative 0 0
  else if 310 < size + exponent then ofFields negative 2047 0
  else if size + exponent < -344 then ofFields negative 0 0
  else if 0 ≤ exponent then nearest negative (digits * Nat.pow 10 exponent.toNat) 1
  else nearest negative digits (Nat.pow 10 (-exponent).toNat)

end CanDecoder.Decimal
