/-!
# Tables of code-point ranges

A `RangeTable` lists disjoint inclusive ranges of natural numbers in ascending order. The
character properties of this library (blanks, letters, case, display width) are such tables
over code points. Membership is found by halving the table, so a lookup takes about
`log₂ n` comparisons; an explicit bound on the halving steps keeps the search total.
-/

namespace CanDecoder.Text

/-- Disjoint inclusive ranges `(lo, hi)` in ascending order. -/
abbrev RangeTable := Array (Nat × Nat)

namespace RangeTable

/-- Look for a range holding `n` among the entries at positions `lo` to `hi - 1`;
`fuel` bounds the number of halving steps. -/
def searchIn (t : RangeTable) (n : Nat) : Nat → Nat → Nat → Bool
  | 0, _, _ => false
  | fuel + 1, lo, hi =>
    if lo < hi then
      let mid := (lo + hi) / 2
      match t[mid]? with
      | some (a, b) =>
        if n < a then searchIn t n fuel lo mid
        else if b < n then searchIn t n fuel (mid + 1) hi
        else true
      | none => false
    else false

/-- Whether some range of `t` holds `n`. Halving `t.size` entries needs at most
`log₂ t.size + 1` steps, and one more settles the last entry. -/
def contains (t : RangeTable) (n : Nat) : Bool :=
  searchIn t n (t.size.log2 + 2) 0 t.size

example : contains #[(1, 3), (7, 7), (10, 20)] 7 = true := by decide
example : contains #[(1, 3), (7, 7), (10, 20)] 8 = false := by decide
example : contains #[(1, 3), (7, 7), (10, 20)] 20 = true := by decide

end RangeTable

end CanDecoder.Text
