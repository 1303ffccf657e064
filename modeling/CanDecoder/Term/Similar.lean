/-!
# Similar words

When a word is not understood, the nearest accepted words are offered instead. Nearness
is the Jaro similarity of the two character sequences: characters match when they are
equal and no further apart than half the longer length less one, each character used at
most once, scanning the first word left to right and taking the leftmost free match in the
second; half the number of matched pairs that come in a different order are
transpositions. With `m` matches, `t` transpositions and lengths `a` and `b`, the
similarity is `(m/a + m/b + (m - t)/m) / 3`, or 0 with no match (1 for two empty words),
computed in binary floating point in that order.

The candidates offered are those with similarity above 0.7, least similar first; among
equally similar ones the earlier stays first.
-/

namespace CanDecoder.Term

/-- Mark the first free position of `b` within `[lo, hi)` holding `c`. -/
def claim (c : Char) (lo hi : Nat) (b : List Char) (taken : List Bool) : Option (List Bool) :=
  let hit := ((b.zip taken).zipIdx.find? fun ((d, used), j) => lo ≤ j && j < hi && d == c && !used)
  hit.map fun (_, j) => taken.set j true

/-- The matched flags of `a` and of `b`. -/
def matchFlags (a b : List Char) : List Bool × List Bool :=
  let range := max a.length b.length / 2 - 1
  a.zipIdx.foldl (fun (acc : List Bool × List Bool) (c, i) =>
    let lo := i - range
    let hi := min b.length (i + range + 1)
    match claim c lo hi b acc.2 with
    | some taken => (acc.1 ++ [true], taken)
    | none => (acc.1 ++ [false], acc.2)) ([], b.map fun _ => false)

/-- The Jaro similarity of `a` and `b`. -/
def jaro (a b : String) : Float :=
  let a := a.toList
  let b := b.toList
  if a.isEmpty && b.isEmpty then 1.0
  else if a.isEmpty || b.isEmpty then 0.0
  else
    let (fa, fb) := matchFlags a b
    let ma := (a.zip fa).filterMap fun (c, f) => if f then some c else none
    let mb := (b.zip fb).filterMap fun (c, f) => if f then some c else none
    let m := ma.length
    if m = 0 then 0.0
    else
      let t := ((ma.zip mb).filter fun (x, y) => x != y).length / 2
      let mf := Float.ofNat m
      (mf / Float.ofNat a.length + mf / Float.ofNat b.length + Float.ofNat (m - t) / mf) / 3.0

/-- Insert `x` after every element that is not above it. -/
def insertByScore (x : Float × String) : List (Float × String) → List (Float × String)
  | [] => [x]
  | y :: ys => if x.1 < y.1 then x :: y :: ys else y :: insertByScore x ys

/-- The words of `choices` similar to `word`, least similar first. -/
def similarWords (word : String) (choices : List String) : List String :=
  let scored := choices.map fun c => (jaro word c, c)
  let close := scored.filter fun (s, _) => s > 0.7
  (close.foldl (fun acc x => insertByScore x acc) []).map (·.2)

end CanDecoder.Term
