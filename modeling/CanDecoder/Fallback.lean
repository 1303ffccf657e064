import CanDecoder.Frame

/-!
# The degraded-mode table

Five core ECU frames decode even without a protocol document, from a fixed layout. Each
channel carries a plausible range; a converted value outside it (or NaN) is dropped
rather than reported. The table: engine speed and throttle in `0x360`, fuel and oil
pressure in `0x361`, vehicle speed in `0x370`, four temperatures in `0x3E0` and the gear
in the last byte of `0x470`.
-/

namespace CanDecoder

/-- Where a degraded-mode channel sits in the payload. -/
inductive FixedField where
  /-- A big-endian word at `offset`. -/
  | word (offset : Nat)
  /-- A signed byte at `offset`. -/
  | signedByte (offset : Nat)
  deriving Repr, DecidableEq

/-- The raw value of a fixed field in `p`. -/
def FixedField.read? (f : FixedField) (p : Payload) : Option Float :=
  match f with
  | .word i => (p.wordAt? i).map fun w => Float.ofNat w
  | .signedByte i => (p.signedByte? i).map Float.ofInt

/-- One channel of the degraded-mode table, with its plausible range `[low, high]`. -/
structure FixedChannel where
  name : String
  field : FixedField
  conversion : Conversion
  unit : String
  low : Float
  high : Float

/-- The reading of `c` in `p`, if the field fits and the value lies in range. -/
def FixedChannel.read? (c : FixedChannel) (p : Payload) : Option Reading :=
  (c.field.read? p).bind fun raw =>
    let v := c.conversion.apply raw
    if c.low ≤ v ∧ v ≤ c.high then some ⟨c.name, v, c.unit⟩ else none

/-- A frame of the degraded-mode table. -/
structure FixedFrame where
  id : FrameId
  channels : List FixedChannel

/-- The plausible readings of `f` in `p`, in channel order. -/
def FixedFrame.decode (f : FixedFrame) (p : Payload) : List Reading :=
  f.channels.filterMap (·.read? p)

namespace Fallback

/-- A temperature in tenths of a kelvin, plausible from -40 °C to 200 °C. -/
def temperature (name : String) (offset : Nat) : FixedChannel :=
  ⟨name, .word offset, .kelvinToCelsius, "°C", -40.0, 200.0⟩

/-- An absolute pressure in tenths of a kilopascal, reported as gauge pressure,
plausible from one atmosphere below zero to 1000 kPa. -/
def pressure (name : String) (offset : Nat) : FixedChannel :=
  ⟨name, .word offset, .gaugePressure, "kPa", -Conversion.atmosphere, 1000.0⟩

/-- The degraded-mode table, ascending by identifier. -/
def frames : List FixedFrame := [
  ⟨0x360, [⟨"rpm", .word 0, .identity, "RPM", 0.0, 20000.0⟩,
           ⟨"throttlePosition", .word 2, .divideBy10, "%", 0.0, 100.0⟩]⟩,
  ⟨0x361, [pressure "fuelPressure" 0, pressure "oilPressure" 2]⟩,
  ⟨0x370, [⟨"vehicleSpeed", .word 0, .divideBy10, "km/h", 0.0, 400.0⟩]⟩,
  ⟨0x3E0, [temperature "coolantTemperature" 0, temperature "airTemperature" 2,
           temperature "fuelTemperature" 4, temperature "oilTemperature" 6]⟩,
  ⟨0x470, [⟨"gear", .signedByte 7, .identity, "", -1.0, 10.0⟩]⟩]

end Fallback

end CanDecoder
