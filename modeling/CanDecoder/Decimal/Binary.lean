/-!
# Binary64 numbers as integers

A binary64 number is NaN, an infinity, or `(-1)^s · m · 2^e` with an integer mantissa
`m < 2^53` and `-1074 ≤ e ≤ 971`. This module reads those parts off the bit pattern of a
`Float` and builds a `Float` back from them, so that all decimal work of the library is
exact arithmetic on natural numbers.
-/

namespace CanDecoder.Decimal

/-- The parts of a binary64 number. -/
inductive Binary where
  | nan
  | infinite (negative : Bool)
  /-- The value `(-1)^negative · mantissa · 2^exponent`. -/
  | finite (negative : Bool) (mantissa : Nat) (exponent : Int)
  deriving Repr, DecidableEq

/-- Sign bit, biased exponent field and fraction field of `x`. -/
def fields (x : Float) : Bool × Nat × Nat :=
  let bits := x.toBits.toNat
  (bits / Nat.pow 2 63 % 2 == 1, bits / Nat.pow 2 52 % 2048, bits % Nat.pow 2 52)

/-- The parts of `x`. Subnormal numbers have exponent `-1074` and no hidden bit. -/
def Binary.ofFloat (x : Float) : Binary :=
  let (negative, biased, fraction) := fields x
  if biased = 2047 then
    if fraction = 0 then .infinite negative else .nan
  else if biased = 0 then .finite negative fraction (-1074)
  else .finite negative (fraction + Nat.pow 2 52) ((biased : Int) - 1075)

/-- The `Float` with the given sign bit, biased exponent field and fraction field. -/
def ofFields (negative : Bool) (biased fraction : Nat) : Float :=
  Float.ofBits (UInt64.ofNat ((if negative then Nat.pow 2 63 else 0) + biased * Nat.pow 2 52 + fraction))

/-- Whether the sign bit of `x` is set (also for `-0.0` and a negative NaN). -/
def signBit (x : Float) : Bool := (fields x).1

end CanDecoder.Decimal
