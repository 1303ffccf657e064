import CanDecoder.Payload
import CanDecoder.FrameId
import CanDecoder.Text.Quoted

/-!
# Hex payload text

Payload bytes are written as pairs of hex digits. Reading counts the UTF-8 bytes of the
text: an odd count is an error before anything else, then the first byte that is no hex
digit is reported with its position, shown as the character of that byte value.
Writing uses upper-case digits.
-/

namespace CanDecoder

/-- Why a text is no hex payload. -/
inductive HexError where
  | oddLength
  | invalidChar (c : Char) (index : Nat)
  deriving Repr, DecidableEq

/-- The text of a hex error. -/
def HexError.message : HexError → String
  | .oddLength => "Odd number of digits"
  | .invalidChar c i => "Invalid character " ++ Text.quotedChar c ++ " at position " ++ toString i

/-- The value of a hex digit byte. -/
def hexByteValue? (b : UInt8) : Option Nat := hexValue? (Char.ofNat b.toNat)

/-- Read pairs of hex digit bytes starting at byte position `i`. -/
def hexPairs : List UInt8 → Nat → Except HexError (List UInt8)
  | hi :: lo :: rest, i =>
    match hexByteValue? hi, hexByteValue? lo with
    | some h, some l => (hexPairs rest (i + 2)).map ((16 * h + l).toUInt8 :: ·)
    | none, _ => .error (.invalidChar (Char.ofNat hi.toNat) i)
    | some _, none => .error (.invalidChar (Char.ofNat lo.toNat) (i + 1))
  | _, _ => .ok []

/-- Read a hex payload. -/
def decodeHex (s : String) : Except HexError Payload :=
  let bytes := s.toUTF8.toList
  if bytes.length % 2 = 1 then .error .oddLength else hexPairs bytes 0

/-- Write a payload as upper-case hex. -/
def encodeHex (p : Payload) : String :=
  String.ofList (p.flatMap fun b => FrameId.hexPadded 2 b.toNat)


end CanDecoder
