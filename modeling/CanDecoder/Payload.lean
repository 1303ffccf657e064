/-!
# Payload fields

A CAN payload is a short list of bytes. Channels read either one byte, plain or as a
two's-complement signed byte, or a 16-bit word from two bytes, the most significant
first. Every reader answers `none` when a byte it needs lies beyond the payload, so
decoding a truncated frame drops fields and never fails. Offsets are machine words: the
offset after the last one a machine word holds is not taken, and the word starting there
is absent.

A direct read `payload[i]`, unlike the readers, stops the decoder with a panic when `i`
lies beyond the payload, and so does a subtraction of machine words that would go below
zero. Code that reads or subtracts so is checked: it answers in `Except Panic`.
-/

namespace CanDecoder

/-- The data bytes of one CAN frame. -/
abbrev Payload := List UInt8

/-- The two's-complement value of an 8-bit pattern. -/
def signed8 (n : Nat) : Int := if n < 128 then n else (n : Int) - 256

/-- The two's-complement value of a 16-bit pattern. -/
def signed16 (n : Nat) : Int := if n < 32768 then n else (n : Int) - 65536

/-- Why the decoder would stop: a direct read past the end of the payload, or a
subtraction of machine words below zero. -/
inductive Panic where
  | indexOutOfBounds (length index : Nat)
  | subtractOverflow
  deriving Repr, DecidableEq

/-- `a - b` on machine words: a panic where it would go below zero. -/
def wordSub (a b : Nat) : Except Panic Nat :=
  if b ≤ a then .ok (a - b) else .error .subtractOverflow

namespace Payload

/-- The largest offset a machine word holds, `2^64 - 1`. -/
def offsetMax : Nat := Nat.pow 2 64 - 1

/-- The offset after `offset`, when a machine word holds it. -/
def nextOffset? (offset : Nat) : Option Nat :=
  if offset < offsetMax then some (offset + 1) else none

/-- The byte at `i` read directly, as `payload[i]` reads it: past the end it is a panic. -/
def index (p : Payload) (i : Nat) : Except Panic Nat :=
  match p[i]? with
  | some b => .ok b.toNat
  | none => .error (.indexOutOfBounds p.length i)

/-- The byte at `offset`. -/
def byte? (p : Payload) (offset : Nat) : Option Nat := (p[offset]?).map UInt8.toNat

/-- The byte at `offset` read as a signed byte. -/
def signedByte? (p : Payload) (offset : Nat) : Option Int := (p.byte? offset).map signed8

/-- The 16-bit word with its high byte at `msb` and its low byte at `lsb`. -/
def word? (p : Payload) (msb lsb : Nat) : Option Nat := do
  let hi ← p.byte? msb
  let lo ← p.byte? lsb
  pure (256 * hi + lo)

/-- The big-endian word starting at `offset`; there is none where the offset after it does
not fit a machine word. -/
def wordAt? (p : Payload) (offset : Nat) : Option Nat := do
  let next ← nextOffset? offset
  p.word? offset next

/-- The big-endian word starting at `offset`, read as a signed word. -/
def signedWordAt? (p : Payload) (offset : Nat) : Option Int := (p.wordAt? offset).map signed16

/-- The big-endian word at `offset`, or zero when it does not fit. -/
def wordOrZero (p : Payload) (offset : Nat) : Nat := (p.wordAt? offset).getD 0

/-- The signed big-endian word at `offset`, or zero when it does not fit. -/
def signedWordOrZero (p : Payload) (offset : Nat) : Int := (p.signedWordAt? offset).getD 0

end Payload

/-- The bits of `byte` from position `shift` up, kept where `mask` has ones. -/
def bitField (byte shift mask : Nat) : Nat := (byte >>> shift) &&& mask

example : Payload.wordAt? [0x0D, 0xAC] 0 = some 3500 := by decide
example : Payload.signedWordAt? [0xFF, 0xFE, 0x80] 0 = some (-2) := by decide
example : bitField 0xB6 4 0x0F = 11 := by decide
example : Payload.index [0x0D] 1 = .error (.indexOutOfBounds 1 1) := rfl

end CanDecoder
