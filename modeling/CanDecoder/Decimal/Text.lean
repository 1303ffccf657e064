import CanDecoder.Decimal.Shortest

/-!
# Decimal text of binary64 numbers

Three written forms of a `Float`, each from exact digits:

* `shortestText`: the shortest digits, a tie to the even last digit; positional when the decimal point falls within
  sixteen digits of the first digit (and no more than five places after it), with `.0`
  on whole numbers; otherwise one digit, an optional fraction and `e` with the exponent,
  whose sign is written when negative and, on request, when positive (`1e-7`, `1.5e300`
  or `1.5e+300`). JSON text writes both signs (`jsonText`).
* `plainText`: the shortest digits, a tie to the larger, always positional, no `.0` on
  whole numbers (`3500`, `0.0000001`, `-0`); `pointedText` adds `.0` to whole numbers.
* `fixedText places`: the exact value rounded to `places` fraction digits, a tie to the
  even last digit, and the sign kept for a negative value that rounds to zero.

NaN is written `NaN` and the infinities `inf` and `-inf` in all three forms.
-/

namespace CanDecoder.Decimal

/-- Decimal digits of `n`. -/
def digitChars (n : Nat) : List Char := Nat.toDigits 10 n

/-- `n` zero characters. -/
def zeros (n : Nat) : List Char := List.replicate n '0'

/-- The non-finite forms, or the sign and shortest digits `(ds, point)` of a finite `x`
with `x = ±0.ds · 10^point`, ties broken as `tie` says; zero has no digits. -/
def shortestParts (tie : Tie) (x : Float) : Except String (Bool × List Char × Int) :=
  match Binary.ofFloat x with
  | .nan => .error "NaN"
  | .infinite neg => .error (if neg then "-inf" else "inf")
  | .finite neg m e =>
    if m = 0 then .ok (neg, [], 0)
    else
      let (d, k) := shortest tie m e
      let ds := digitChars d
      .ok (neg, ds, ds.length + k)

/-- Write `0.ds · 10^point` positionally, `pointZero` adding `.0` to whole numbers. -/
def positional (ds : List Char) (point : Int) (pointZero : Bool) : List Char :=
  if ds.isEmpty then (if pointZero then "0.0".toList else ['0'])
  else if point ≤ 0 then "0.".toList ++ zeros (-point).toNat ++ ds
  else if ds.length ≤ point.toNat then
    ds ++ zeros (point.toNat - ds.length) ++ (if pointZero then ".0".toList else [])
  else ds.take point.toNat ++ ['.'] ++ ds.drop point.toNat

/-- Write `0.ds · 10^point` with one digit before the point and an exponent, which has
`+` before it when `plusSign` holds and it is not negative. -/
def exponential (plusSign : Bool) (ds : List Char) (point : Int) : List Char :=
  let mant := match ds with
    | [d] => [d]
    | d :: rest => d :: '.' :: rest
    | [] => ['0']
  let exp := point - 1
  let sign := if exp < 0 then ['-'] else if plusSign then ['+'] else []
  mant ++ ['e'] ++ sign ++ digitChars exp.natAbs

/-- The shortest text of `x`, positional near the units and with an exponent otherwise;
`plusSign` writes `+` before an exponent that is not negative. -/
def shortestText (plusSign : Bool) (x : Float) : String :=
  match shortestParts .even x with
  | .error s => s
  | .ok (neg, ds, point) =>
    let sign := if neg then ['-'] else []
    let body :=
      if ds.isEmpty then "0.0".toList
      else if -5 < point ∧ point ≤ 16 then positional ds point true
      else exponential plusSign ds point
    String.ofList (sign ++ body)

/-- The shortest text of `x` as numbers are written in JSON documents: `1e+17`, `1e-7`. -/
def jsonText (x : Float) : String := shortestText true x

/-- The shortest positional text of `x`, without `.0` on whole numbers; of two equally near
shortest decimals the larger is written. -/
def plainText (x : Float) : String :=
  match shortestParts .up x with
  | .error s => s
  | .ok (neg, ds, point) =>
    String.ofList ((if neg then ['-'] else []) ++ positional ds point false)

/-- The shortest positional text of `x` with the point kept on whole numbers, as messages
about floats show it: `5.0`, `1.5`, `inf`. -/
def pointedText (x : Float) : String :=
  let t := plainText x
  match Binary.ofFloat x with
  | .finite _ _ _ => if t.toList.contains '.' then t else t ++ ".0"
  | _ => t

/-- `x` rounded to `places` fraction digits, ties to even. -/
def fixedText (places : Nat) (x : Float) : String :=
  match Binary.ofFloat x with
  | .nan => "NaN"
  | .infinite neg => if neg then "-inf" else "inf"
  | .finite neg m e =>
    let (num, den) := scaled m places e
    let r := roundDivEven num den
    let unit := Nat.pow 10 places
    let whole := digitChars (r / unit)
    let frac := digitChars (r % unit)
    let fracPart := if places = 0 then [] else '.' :: zeros (places - frac.length) ++ frac
    String.ofList ((if neg then ['-'] else []) ++ whole ++ fracPart)

end CanDecoder.Decimal
