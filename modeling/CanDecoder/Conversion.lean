import CanDecoder.Text.Blank
import CanDecoder.Text.Lower

/-!
# Conversions

A definition document describes the scaling of a raw field by a small formula such as
`x / 10` or `(x / 10) - 101.3`. Each formula falls into one of five conversions. The
formula is normalised first: blanks collapse to single spaces, the ends are trimmed and
letters are lowercased. Then `""` and `x` are the identity, `x / 10` and `x / 1000` are
divisions, any formula mentioning `101.3` is gauge pressure (absolute kilopascals less one
atmosphere), any other mentioning `/ 10` divides by ten, and everything else is the
identity. A channel whose unit is exactly `K` converts tenths of a kelvin to degrees
Celsius whatever its formula says, and its readings carry the unit `°C`.
-/

namespace CanDecoder

/-- The scaling applied to a raw field. -/
inductive Conversion where
  | identity
  | divideBy10
  | divideBy1000
  | gaugePressure
  | kelvinToCelsius
  deriving Repr, DecidableEq, Inhabited

namespace Conversion

/-- Standard atmospheric pressure in kilopascals. -/
def atmosphere : Float := 101.325

/-- Zero degrees Celsius in kelvin. -/
def freezingPoint : Float := 273.15

/-- Apply the conversion to a raw value. -/
def apply : Conversion → Float → Float
  | .identity, raw => raw
  | .divideBy10, raw => raw / 10.0
  | .divideBy1000, raw => raw / 1000.0
  | .gaugePressure, raw => raw / 10.0 - atmosphere
  | .kelvinToCelsius, raw => raw / 10.0 - freezingPoint

/-- The formula that describes the conversion. -/
def formula : Conversion → String
  | .identity => "x"
  | .divideBy10 => "x / 10"
  | .divideBy1000 => "x / 1000"
  | .gaugePressure => "(x / 10) - 101.325"
  | .kelvinToCelsius => "(x / 10) - 273.15"

/-- The identifier of the conversion in serialised form. -/
def name : Conversion → String
  | .identity => "identity"
  | .divideBy10 => "divide_by10"
  | .divideBy1000 => "divide_by1000"
  | .gaugePressure => "gauge_pressure"
  | .kelvinToCelsius => "kelvin_to_celsius"

/-- All conversions, in declaration order. -/
def all : List Conversion := [.identity, .divideBy10, .divideBy1000, .gaugePressure, .kelvinToCelsius]

/-- The conversion with the given serialised identifier. -/
def ofName? (s : String) : Option Conversion := all.find? (·.name == s)

/-- Whether `pat` occurs in `cs`. -/
def containsChars (cs pat : List Char) : Bool :=
  match cs with
  | [] => pat.isEmpty
  | _ :: rest => pat.isPrefixOf cs || containsChars rest pat

/-- The normal form of a formula: words joined by single spaces, lowercased. -/
def normalize (formula : String) : List Char :=
  Text.lowerChars (" ".toList.intercalate (Text.wordsOf formula.toList))

/-- Classify a normalised formula. -/
def ofNormal (cs : List Char) : Conversion :=
  if cs = [] ∨ cs = ['x'] then .identity
  else if cs = "x / 10".toList then .divideBy10
  else if cs = "x / 1000".toList then .divideBy1000
  else if containsChars cs "101.3".toList then .gaugePressure
  else if containsChars cs "/ 10".toList then .divideBy10
  else .identity

/-- Classify a textual formula. -/
def ofFormula (formula : String) : Conversion := ofNormal (normalize formula)

/-- The conversion of a channel with unit `units` and formula `formula`: a unit of
exactly `K` forces kelvin to Celsius. -/
def resolve (units formula : String) : Conversion :=
  if units = "K" then .kelvinToCelsius else ofFormula formula

/-- The unit of readings from a channel declared in `units`. -/
def outputUnit (c : Conversion) (units : String) : String :=
  match c with
  | .kelvinToCelsius => "°C"
  | _ => units

example : ofFormula "  X   /  1000 " = .divideBy1000 := by decide
example : ofFormula "(x / 10) - 101.3" = .gaugePressure := by decide
example : ofFormula "x / 100" = .divideBy10 := by decide

end Conversion

end CanDecoder
