import CanDecoder.Text.Blank

/-!
# Frame identifiers

A CAN frame identifier is a 32-bit number written in hexadecimal. Reading accepts blanks
around it, one optional `0x` or `0X`, then an optional `+` and at least one hex digit
of either case, with any number of leading zeros, as long as the value fits 32 bits.
Writing gives `0x` and upper-case digits: three for a standard 11-bit identifier (up to
`0x7FF`) and eight for an extended one.
-/

namespace CanDecoder

/-- A CAN frame identifier. -/
abbrev FrameId := UInt32

/-- The value of an ASCII hex digit. -/
def hexValue? (c : Char) : Option Nat :=
  if '0' ≤ c ∧ c ≤ '9' then some (c.toNat - 48)
  else if 'a' ≤ c ∧ c ≤ 'f' then some (c.toNat - 87)
  else if 'A' ≤ c ∧ c ≤ 'F' then some (c.toNat - 55)
  else none

/-- The value of a string of hex digits, or `none` if one is not a hex digit. -/
def hexDigitsValue? (cs : List Char) : Option Nat :=
  cs.foldl (fun acc c => acc.bind fun n => (hexValue? c).map fun d => 16 * n + d) (some 0)

/-- Read an unsigned hex number: an optional `+`, then at least one hex digit, the value
below `2^32`. -/
def readHex32? (cs : List Char) : Option Nat :=
  let ds := match cs with
    | '+' :: rest => rest
    | _ => cs
  if ds.isEmpty then none
  else match hexDigitsValue? ds with
    | some n => if n < Nat.pow 2 32 then some n else none
    | none => none

namespace FrameId

/-- Read a frame identifier, or `none` when the text is not one. -/
def parse? (s : String) : Option FrameId :=
  let cs := Text.trimChars s.toList
  let digits := match cs with
    | '0' :: 'x' :: rest => rest
    | '0' :: 'X' :: rest => rest
    | _ => cs
  if digits.isEmpty then none else (readHex32? digits).map Nat.toUInt32

/-- Upper-case hex digits of `n`, padded with zeros to `width`. -/
def hexPadded (width n : Nat) : List Char :=
  let ds := (Nat.toDigits 16 n).map Char.toUpper
  List.replicate (width - ds.length) '0' ++ ds

/-- Write a frame identifier: `0x` and three digits up to `0x7FF`, else eight. -/
def format (id : FrameId) : String :=
  String.ofList ("0x".toList ++ hexPadded (if id.toNat ≤ 0x7FF then 3 else 8) id.toNat)

example : parse? " 0x3e0 " = some 0x3E0 ∧ parse? "+360" = some 0x360 := by decide
example : parse? "0x" = none ∧ parse? "1FFFFFFFF" = none := by decide
example : format 0x6D = "0x06D" ∧ format 0x18DB33F1 = "0x18DB33F1" := by decide

end FrameId

end CanDecoder
