import CanDecoder.Decimal.Nearest

/-!
# Shortest decimal digits

The shortest decimal text of a positive binary64 value `v = m · 2^e` is the decimal
`d · 10^k` with the fewest significant digits that lies in the rounding interval of `v`,
the reals that read back as `v`. The interval reaches half a unit of the last place to
each side, only a quarter below when `m` is the least normal mantissa and the exponent is
not the least, and its ends belong to it when `m` is even. Among the decimals of that
length in the interval the nearest to `v` wins; of two equally near, the one with the
even last digit wins under `Tie.even` and the larger one under `Tie.up`.

For each length `n = 1, 2, …` the two neighbours of `v` on the grid of `n`-digit decimals
are tested in exact arithmetic; if any decimal of that length lies in the interval, one of
the two does. Seventeen digits always suffice.
-/

namespace CanDecoder.Decimal

/-- `a · 10^j · 2^i` for integers `j` and `i`, as a pair numerator, denominator. -/
def scaled (a : Nat) (j i : Int) : Nat × Nat :=
  (a * Nat.pow 10 j.toNat * Nat.pow 2 i.toNat, Nat.pow 10 (-j).toNat * Nat.pow 2 (-i).toNat)

/-- Compare `a / b` with `c / d`. -/
def cmpFrac (p q : Nat × Nat) : Ordering := compare (p.1 * q.2) (q.1 * p.2)

/-- `⌊log₁₀ (m · 2^e)⌋` for `m > 0`, from an estimate through `log₁₀ 2` corrected by
exact comparisons. -/
def floorLog10 (m : Nat) (e : Int) : Int :=
  let v := scaled m 0 e
  let guess : Int := ((m.log2 : Int) + e) * 315653 / Nat.pow 2 20
  let rec fix : Nat → Int → Int
    | 0, g => g
    | fuel + 1, g =>
      if cmpFrac v (scaled 1 g 0) == .lt then fix fuel (g - 1)
      else if cmpFrac v (scaled 1 (g + 1) 0) != .lt then fix fuel (g + 1)
      else g
  fix 4 guess

/-- Strip trailing zeros from `d · 10^k`. -/
def stripZeros : Nat → Nat → Int → Nat × Int
  | 0, d, k => (d, k)
  | fuel + 1, d, k => if d ≠ 0 ∧ d % 10 = 0 then stripZeros fuel (d / 10) (k + 1) else (d, k)

/-- How a tie between two equally near decimals of the shortest length is broken. -/
inductive Tie where
  /-- The decimal with the even last digit wins. -/
  | even
  /-- The larger decimal wins. -/
  | up
  deriving DecidableEq, Repr, Inhabited

/-- The shortest digits `(d, k)` with `d · 10^k` reading back as `m · 2^e` (`m > 0`),
`d` without trailing zeros; `tie` decides between two equally near. -/
def shortest (tie : Tie) (m : Nat) (e : Int) : Nat × Int :=
  -- the rounding interval in units of 2^(e-2)
  let narrow := m = Nat.pow 2 52 ∧ e > -1074
  let low := scaled (4 * m - (if narrow then 1 else 2)) 0 (e - 2)
  let high := scaled (4 * m + 2) 0 (e - 2)
  let closed := m % 2 = 0
  let inside (c : Nat) (k : Int) : Bool :=
    let x := scaled c k 0
    let lo := cmpFrac low x
    let hi := cmpFrac x high
    (lo == .lt || (closed && lo == .eq)) && (hi == .lt || (closed && hi == .eq))
  let top := floorLog10 m e
  let rec search : Nat → Nat → Nat × Int
    | 0, _ => (0, 0)
    | fuel + 1, n =>
      let k := top + 1 - n
      let (num, den) := scaled m (-k) e
      let t := num / den
      match inside t k, inside (t + 1) k with
      | true, false => (t, k)
      | false, true => (t + 1, k)
      | true, true =>
        -- nearer of the two; a tie as `tie` says
        match cmpFrac (scaled (2 * m) 0 e) (scaled (2 * t + 1) k 0) with
        | .lt => (t, k)
        | .gt => (t + 1, k)
        | .eq => if tie = .even && t % 2 = 0 then (t, k) else (t + 1, k)
      | false, false => search fuel (n + 1)
  let (d, k) := search 17 1
  stripZeros 20 d k

end CanDecoder.Decimal
