import CanDecoder.Channel
import CanDecoder.FrameId

/-!
# PD16 power distribution modules

Up to four PD16 modules, `A` to `D`, share a bus. Module `n` (counting from zero) owns
the eight identifiers from `0x6D0 + 8n`. Of its block, offset 3 reports an input, offset
4 an output and offset 5 the module itself. Input and output frames start with a mux byte:
its top three bits give the kind of pin and its low four bits the pin number. Speed and
analog inputs report a state, a voltage and (speed inputs) duty cycle and frequency;
25 A and 8 A outputs report load, voltage, current, retries and pin state. Readings are
named `pd16_<module>_<kind>_<pin>_<field>`.

Decoders are found in tables: the offset in the block picks the frame's decoder, and the
pin kind picks a handler among those the frame carries. The mux byte and the second byte
are read directly (a read past the end would panic) once two bytes are known to be
present, the firmware bytes once four are; every other field is read when its bytes are
present and left out otherwise.
-/

namespace CanDecoder

/-- One of the four PD16 modules on a bus. -/
inductive Module where
  | a
  | b
  | c
  | d
  deriving Repr, DecidableEq, Inhabited

namespace Module

/-- The position of the module: `A` is 0, `D` is 3. -/
def index : Module → Nat
  | .a => 0
  | .b => 1
  | .c => 2
  | .d => 3

/-- The letter naming the module. -/
def letter : Module → Char
  | .a => 'A'
  | .b => 'B'
  | .c => 'C'
  | .d => 'D'

/-- The modules in order. -/
def all : List Module := [.a, .b, .c, .d]

/-- The first identifier of the module's block. -/
def baseId (m : Module) : Nat := 0x6D0 + 8 * m.index

/-- Read a module letter: blanks around it are allowed and the letter may be lowercase. -/
def parse? (s : String) : Option Module :=
  let cs := (Text.trimChars s.toList).map Char.toUpper
  all.find? fun m => cs == [m.letter]

/-- Modules are ordered by letter. -/
instance : Ord Module := ⟨fun m n => compare m.index n.index⟩

end Module

/-- The kind of a PD16 pin, from the mux byte. -/
inductive PinKind where
  | output25A
  | output8A
  | halfBridge
  | speedInput
  | analogInput
  deriving Repr, DecidableEq

namespace PinKind

/-- The pin kind with the given code. -/
def ofCode? : Nat → Option PinKind
  | 0 => some .output25A
  | 1 => some .output8A
  | 2 => some .halfBridge
  | 3 => some .speedInput
  | 4 => some .analogInput
  | _ => none

/-- The short name of the pin kind. -/
def shortName : PinKind → String
  | .output25A => "25A"
  | .output8A => "8A"
  | .halfBridge => "HBO"
  | .speedInput => "SPI"
  | .analogInput => "AVI"

end PinKind

/-- The pin kind of a mux byte: its top three bits. -/
def muxKind? (mux : Nat) : Option PinKind := PinKind.ofCode? (bitField mux 5 0x07)

/-- The pin number of a mux byte: its low four bits. -/
def muxPin (mux : Nat) : Nat := bitField mux 0 0x0F

namespace Module

/-- The prefix of the module's reading names. -/
def namePrefix (m : Module) : String := "pd16_" ++ m.letter.toString

/-- Whether the identifier lies in the module's block, as `id ≥ base && id - base < 8`
reads it: the difference is taken only once the identifier is at least the base. -/
def checkedHandles (m : Module) (id : FrameId) : Except Panic Bool :=
  if m.baseId ≤ id.toNat then (· < 8) <$> wordSub id.toNat m.baseId else pure false

/-- Whether the identifier lies in the module's block: the answer of `checkedHandles`,
which never panics. -/
def handles (m : Module) (id : FrameId) : Bool :=
  match m.checkedHandles id with
  | .ok inside => inside
  | .error _ => false

/-- A reading named `stem_field`. -/
def reading (stem field : String) (value : Float) (unit : String) : Reading :=
  ⟨stem ++ "_" ++ field, value, unit⟩

/-- The voltage in millivolts at byte 2, if present. -/
def voltage (stem : String) (p : Payload) : List Reading :=
  match p.wordAt? 2 with
  | some w => [reading stem "voltage" (Float.ofNat w / 1000.0) "V"]
  | none => []

/-- A field that is present when `value?` is. -/
def optional (stem field : String) (value? : Option Float) (unit : String) : List Reading :=
  match value? with
  | some v => [reading stem field v unit]
  | none => []

end Module

/-- The decoder of one kind of pin: the readings of a muxed frame, named from `stem`.
Handlers read the second byte directly. -/
abbrev PinHandler := String → Payload → Except Panic (List Reading)

namespace PinHandler

open CanDecoder.Module

/-- The pin state: the low bit of the second byte. -/
def pinState (stem : String) (p : Payload) : Except Panic (List Reading) := do
  let b1 ← p.index 1
  pure [reading stem "state" (Float.ofNat (b1 &&& 1)) ""]

/-- A speed input: state, voltage, duty cycle in tenths of a percent, frequency. -/
def speedInput : PinHandler := fun stem p => do
  let state ← pinState stem p
  pure (state ++ voltage stem p ++
    optional stem "dutyCycle" ((p.wordAt? 4).map fun w => Float.ofNat w / 10.0) "%" ++
    optional stem "frequency" ((p.wordAt? 6).map Float.ofNat) "Hz")

/-- An analog input: state and voltage. -/
def analogInput : PinHandler := fun stem p => do
  let state ← pinState stem p
  pure (state ++ voltage stem p)

/-- A 25 A output: load (the second byte), voltage, current in milliamperes in two
ranges, then retries and pin state from the nibbles of byte 7. -/
def output25A : PinHandler := fun stem p => do
  let b1 ← p.index 1
  pure (reading stem "load" (Float.ofNat b1) "%" :: voltage stem p ++
    optional stem "currentLow" ((p.wordAt? 4).map fun w => Float.ofNat w / 1000.0) "A" ++
    optional stem "currentHigh" ((p.byte? 6).map fun b => Float.ofNat b / 1000.0) "A" ++
    (match p.byte? 7 with
      | some b7 =>
        [reading stem "retries" (Float.ofNat (bitField b7 4 0x0F)) "",
         reading stem "pinState" (Float.ofNat (bitField b7 0 0x0F)) ""]
      | none => []))

/-- An 8 A output: retries and pin state from the second byte, voltage, current in
milliamperes, load. -/
def output8A : PinHandler := fun stem p => do
  let b1 ← p.index 1
  pure ([reading stem "retries" (Float.ofNat (bitField b1 3 0x1F)) "",
     reading stem "pinState" (Float.ofNat (bitField b1 0 0x07)) ""] ++ voltage stem p ++
    optional stem "current" ((p.wordAt? 4).map fun w => Float.ofNat w / 1000.0) "A" ++
    optional stem "load" ((p.byte? 6).map Float.ofNat) "%")

/-- The handlers of input frames, by pin kind. -/
def inputs : List (PinKind × PinHandler) := [(.speedInput, speedInput), (.analogInput, analogInput)]

/-- The handlers of output frames, by pin kind. -/
def outputs : List (PinKind × PinHandler) := [(.output25A, output25A), (.output8A, output8A)]

end PinHandler

namespace Module

/-- The readings of a muxed frame: nothing below two bytes, for an unknown pin kind or for
a kind no handler takes; else the handler of the kind named by the mux byte (read
directly), for the pin it numbers. -/
def muxed (m : Module) (handlers : List (PinKind × PinHandler)) (p : Payload) :
    Except Panic (List Reading) :=
  if p.length < 2 then pure []
  else do
    let mux ← p.index 0
    match muxKind? mux with
    | none => pure []
    | some kind =>
      match handlers.find? (·.1 == kind) with
      | none => pure []
      | some (_, handler) =>
        handler (m.namePrefix ++ "_" ++ kind.shortName ++ "_" ++ toString (muxPin mux)) p

/-- The status nibble: the high four bits of the first byte, when there is one. -/
def statusNibble (m : Module) (p : Payload) : List Reading :=
  match p.byte? 0 with
  | some b0 => [⟨m.namePrefix ++ "_status", Float.ofNat (bitField b0 4 0x0F), ""⟩]
  | none => []

/-- The readings of a module status frame: the status nibble, then, when four bytes are
present, the firmware version `major + minor / 100 + patch / 10000` read directly from
bytes 1 to 3. -/
def status (m : Module) (p : Payload) : Except Panic (List Reading) :=
  if 4 ≤ p.length then do
    let b1 ← p.index 1
    let b2 ← p.index 2
    let b3 ← p.index 3
    pure (m.statusNibble p ++ [⟨m.namePrefix ++ "_firmwareVersion",
      Float.ofNat (b1 &&& 3) + Float.ofNat b2 / 100.0 + Float.ofNat b3 / 10000.0, ""⟩])
  else pure (m.statusNibble p)

/-- The decoders of a block's frames, by offset in the block: inputs at 3, outputs at 4,
the module's status at 5. -/
def offsetHandlers : List (Nat × (Module → Payload → Except Panic (List Reading))) :=
  [(3, fun m => m.muxed PinHandler.inputs), (4, fun m => m.muxed PinHandler.outputs),
   (5, status)]

/-- Decode a frame of the module: nothing for an empty payload or a foreign identifier,
else the decoder of the identifier's offset in the block, if it has one. -/
def checkedDecode (m : Module) (id : FrameId) (p : Payload) : Except Panic (List Reading) :=
  if p.isEmpty then pure []
  else do
    let inside ← m.checkedHandles id
    if !inside then pure []
    else do
      let offset ← wordSub id.toNat m.baseId
      ((offsetHandlers.find? (·.1 == offset)).map fun e => e.2 m p).getD (pure [])

/-- Decode a frame of the module: the readings of `checkedDecode`, which never panics. -/
def decode (m : Module) (id : FrameId) (p : Payload) : List Reading :=
  match m.checkedDecode id p with
  | .ok readings => readings
  | .error _ => []

end Module

end CanDecoder
