/-!
# Control sequences in terminal text

Text bound for a terminal may carry ANSI control sequences and control characters, for
instance inside the value of an environment variable shown in a help page. A terminal
reads such text byte by byte in one of a few modes (the DEC parser's states): plain text,
after an escape, inside a control sequence (`ESC [`), a device control string (`ESC P`),
an operating system command (`ESC ]`) or a string to ignore (`ESC X`, `ESC ^`, `ESC _`).

The text splits into *shown* runs, which a terminal prints, and *hidden* parts, which it
acts on or drops. A run starts at a byte that prints in the current mode (a printable
ASCII character, the first byte of a multi-byte character in plain text, or a blank
control: tab, line feed, form feed, carriage return); it goes on, read as plain text,
over printable characters and blank controls; and whatever follows it is read in plain
text mode again. `DEL` and the other controls are hidden, and so is every sequence.

Help text is measured on its shown runs only, and written without the hidden parts when
colours are off.
-/

namespace CanDecoder.Term

/-- How a terminal reads the next byte. -/
inductive Mode where
  | ground
  | escape
  | escapeIntermediate
  | csiEntry
  | csiParam
  | csiIntermediate
  | csiIgnore
  | dcsEntry
  | dcsParam
  | dcsIntermediate
  | dcsPassthrough
  | dcsIgnore
  | oscString
  | ignoredString
  deriving DecidableEq, Repr, Inhabited

/-- Tab, line feed, form feed and carriage return: the controls that print. -/
def isBlankControl (b : UInt8) : Bool := b == 0x09 || b == 0x0A || b == 0x0C || b == 0x0D

/-- Whether `b` lies in `[lo, hi]`. -/
def inRange (lo hi b : UInt8) : Bool := lo ≤ b && b ≤ hi

/-- The modes that carry out controls met inside them. -/
def Mode.executes : Mode → Bool
  | .ground | .escape | .escapeIntermediate | .csiEntry | .csiParam | .csiIntermediate
  | .csiIgnore => true
  | _ => false

/-- The mode after byte `b` in mode `m`, for a byte that is not a control below `0x20`. -/
def Mode.after (m : Mode) (b : UInt8) : Mode :=
  match m with
  | .ground | .oscString => m
  | .escape =>
    if inRange 0x20 0x2F b then .escapeIntermediate
    else if b == 0x5B then .csiEntry
    else if b == 0x5D then .oscString
    else if b == 0x50 then .dcsEntry
    else if b == 0x58 || b == 0x5E || b == 0x5F then .ignoredString
    else if inRange 0x30 0x7E b then .ground
    else m
  | .escapeIntermediate =>
    if inRange 0x30 0x7E b then .ground else m
  | .csiEntry =>
    if inRange 0x20 0x2F b then .csiIntermediate
    else if inRange 0x30 0x3F b then .csiParam
    else if inRange 0x40 0x7E b then .ground
    else m
  | .csiParam =>
    if inRange 0x3C 0x3F b then .csiIgnore
    else if inRange 0x20 0x2F b then .csiIntermediate
    else if inRange 0x40 0x7E b then .ground
    else m
  | .csiIntermediate =>
    if inRange 0x30 0x3F b then .csiIgnore
    else if inRange 0x40 0x7E b then .ground
    else m
  | .csiIgnore => if inRange 0x40 0x7E b then .ground else m
  | .dcsEntry =>
    if inRange 0x20 0x2F b then .dcsIntermediate
    else if inRange 0x30 0x3F b then .dcsParam
    else if inRange 0x40 0x7E b then .dcsPassthrough
    else m
  | .dcsParam =>
    if inRange 0x3C 0x3F b then .dcsIgnore
    else if inRange 0x20 0x2F b then .dcsIntermediate
    else if inRange 0x40 0x7E b then .dcsPassthrough
    else m
  | .dcsIntermediate =>
    if inRange 0x30 0x3F b then .dcsIgnore
    else if inRange 0x40 0x7E b then .dcsPassthrough
    else m
  | .dcsPassthrough | .dcsIgnore | .ignoredString => if b == 0x9C then .ground else m

/-- Read byte `b` in mode `m`: the next mode, and whether `b` prints. Cancel and
substitute (`0x18`, `0x1A`) return to plain text and escape (`0x1B`) starts a sequence,
in every mode; a bell ends an operating system command. -/
def Mode.step (m : Mode) (b : UInt8) : Mode × Bool :=
  if b == 0x18 || b == 0x1A then (.ground, false)
  else if b == 0x1B then (.escape, false)
  else if b < 0x20 then
    if m == .oscString && b == 0x07 then (.ground, false)
    else (m, m.executes && isBlankControl b)
  else if m == .ground then
    (m, (b < 0x7F) || inRange 0xC2 0xF4 b)
  else if b == 0x7F then (m, false)
  else (m.after b, false)

/-- Whether a byte prints in plain text or continues a multi-byte character: the bytes a
shown run is made of. -/
def runByte (b : UInt8) : Bool := (Mode.ground.step b).2 || inRange 0x80 0xBF b

/-- Read the bytes of a character in mode `m`: the next mode, and whether the character
starts a shown run. -/
def Mode.stepChar (m : Mode) (c : Char) : Mode × Bool :=
  match String.utf8EncodeChar c with
  | [] => (m, false)
  | b :: rest =>
    let (m', shown) := m.step b
    if shown then (m', true) else (rest.foldl (fun m b => (m.step b).1) m', false)

/-- Whether every byte of `c` belongs to a shown run. -/
def runChar (c : Char) : Bool := (String.utf8EncodeChar c).all runByte

/-- Where reading stands: inside a shown run, or between runs in a mode. -/
inductive Reading where
  | shown
  | hidden (m : Mode)
  deriving DecidableEq, Repr, Inhabited

/-- Split `cs` into shown and hidden parts, in order, read from `r`; `cur` holds the
current part reversed. -/
def partsFrom (r : Reading) (cur : List Char) : List Char → List (Bool × List Char)
  | [] => if cur.isEmpty then [] else [(r == .shown, cur.reverse)]
  | c :: cs =>
    let close (shown : Bool) : List (Bool × List Char) :=
      if cur.isEmpty then [] else [(shown, cur.reverse)]
    match r with
    | .shown =>
      if runChar c then partsFrom .shown (c :: cur) cs
      else close true ++ partsFrom (.hidden (Mode.ground.stepChar c).1) [c] cs
    | .hidden m =>
      let (m', starts) := m.stepChar c
      if starts then close false ++ partsFrom .shown [c] cs
      else partsFrom (.hidden m') (c :: cur) cs

/-- The shown and hidden parts of a text, in order; `true` marks a shown part. -/
def parts (s : String) : List (Bool × String) :=
  (partsFrom (.hidden .ground) [] s.toList).map fun (shown, cs) => (shown, String.ofList cs)

/-- The text a terminal prints: the shown parts only. -/
def shownText (s : String) : String :=
  String.join ((parts s).filterMap fun (shown, t) => if shown then some t else none)

example : shownText "a\x1b[1mb\x1b[0mc" = "abc" := by decide
example : shownText "x\x07y\x7fz\n" = "xyz\n" := by decide
example : parts "a\x1b[1mb" = [(true, "a"), (false, "\x1b[1m"), (true, "b")] := by decide

end CanDecoder.Term
