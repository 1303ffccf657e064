import CanDecoder.Payload
import CanDecoder.Conversion
import CanDecoder.Text.Letter

/-!
# Channels

A channel is one measurement inside a frame: a display name, the byte offsets of its raw
field, whether the field is signed, its unit and its conversion. A field is one byte or a
16-bit word whose two offsets name the high and the low byte, in either order and possibly
equal. The channel's key, the name its readings carry, is the display name in camel case:
spaces removed, the first word lowercased as a whole when it is an acronym (two or more
characters, a letter among them, none lowercase) and otherwise only its first character.
-/

namespace CanDecoder

/-- Where a channel's raw value sits in the payload. -/
inductive Field where
  /-- One byte at `offset`. -/
  | byte (offset : Nat)
  /-- A 16-bit word from the bytes at `msb` (high) and `lsb` (low). -/
  | word (msb lsb : Nat)
  deriving Repr, DecidableEq

namespace Field

/-- The byte offsets of the field, high byte first. -/
def offsets : Field → List Nat
  | .byte i => [i]
  | .word m l => [m, l]

/-- The field with the given offsets: one offset is a byte, two a word, others none. -/
def ofOffsets? : List Nat → Option Field
  | [i] => some (.byte i)
  | [m, l] => some (.word m l)
  | _ => none

/-- The highest offset the field reads. -/
def maxOffset : Field → Nat
  | .byte i => i
  | .word m l => max m l

/-- The raw value of the field in `p`, two's complement when `signed`. -/
def read? (f : Field) (signed : Bool) (p : Payload) : Option Int :=
  match f with
  | .byte i => if signed then p.signedByte? i else (p.byte? i).map Int.ofNat
  | .word m l => (p.word? m l).map fun w => if signed then signed16 w else w

end Field

/-- Whether a word is an acronym: two or more characters, a letter among them, none
lowercase. -/
def isAcronym (word : List Char) : Bool :=
  word.length > 1 && word.any Text.isAlphabetic && !word.any Text.isLowercase

/-- The words of a display name: split at the space character only, empty words dropped. -/
def nameWords (name : String) : List (List Char) := (name.toList.splitOn ' ').filter (!·.isEmpty)

/-- The start of a key: the first word lowercased whole when it is an acronym, and otherwise
with its first character lowercased. -/
def keyHead (first : List Char) : List Char :=
  if isAcronym first then Text.lowerChars first
  else match first with
    | c :: cs => Text.lowerChar c ++ cs
    | [] => []

/-- The camel-case key of a display name: the start made of its first word, then the other
words as they are. -/
def camelKey (name : String) : String :=
  match nameWords name with
  | [] => ""
  | first :: rest => String.ofList (keyHead first ++ rest.flatten)

/-- One channel of a frame. -/
structure Channel where
  /-- Display name, such as `Coolant Temperature`. -/
  name : String
  field : Field
  signed : Bool
  /-- Unit declared in the definition, such as `K` or `kPa`. -/
  units : String
  conversion : Conversion
  deriving Repr

namespace Channel

/-- A channel from its definition entry; the conversion follows from unit and formula,
and there is no channel unless the entry gives one or two offsets. -/
def make? (name : String) (offsets : List Nat) (signed : Bool) (units formula : String) :
    Option Channel :=
  (Field.ofOffsets? offsets).map fun f =>
    { name, field := f, signed, units, conversion := Conversion.resolve units formula }

/-- The name readings of this channel carry. -/
def key (c : Channel) : String := camelKey c.name

/-- The byte offsets the channel reads. -/
def offsets (c : Channel) : List Nat := c.field.offsets

/-- The highest offset the channel reads. -/
def maxOffset (c : Channel) : Nat := c.field.maxOffset

/-- The unit of the channel's readings. -/
def outputUnit (c : Channel) : String := c.conversion.outputUnit c.units

/-- The raw value of the channel in `p`, or `none` when the payload is too short. -/
def raw? (c : Channel) (p : Payload) : Option Float :=
  if c.maxOffset < p.length then (c.field.read? c.signed p).map Float.ofInt else none

end Channel

/-- One decoded measurement: the channel's key, its value and its unit. -/
structure Reading where
  name : String
  value : Float
  unit : String
  deriving Repr

/-- The reading of `c` in `p`, when the payload holds its field. -/
def Channel.read? (c : Channel) (p : Payload) : Option Reading :=
  (c.raw? p).map fun raw => ⟨c.key, c.conversion.apply raw, c.outputUnit⟩

example : camelKey "Coolant Temperature" = "coolantTemperature" := by decide
example : camelKey "ECU Temperature" = "ecuTemperature" ∧ camelKey "RPM" = "rpm" := by decide

end CanDecoder
