import CanDecoder.Ecu
import CanDecoder.PowerModule

/-!
# The bus

A bus carries the ECU and any registered PD16 modules. Each module may be registered
once; the registered modules are kept in letter order. A frame whose identifier lies in a
registered module's block goes to that module, every other frame to the ECU, even when the
ECU's schema defines the identifier too.
-/

namespace CanDecoder

/-- Where a frame is decoded. -/
inductive Route where
  | ecu
  | module (m : Module)
  deriving Repr, DecidableEq

/-- The decoders on one bus. -/
structure Bus where
  ecu : Ecu
  modules : List Module

namespace Bus

/-- A bus with the given ECU decoder and no modules. -/
def new (ecu : Ecu) : Bus := ⟨ecu, []⟩

/-- Put `m` into a list of modules in letter order. -/
def insertModule (m : Module) : List Module → List Module
  | [] => [m]
  | n :: ns => if m.index < n.index then m :: n :: ns else n :: insertModule m ns

/-- Register a module; a module registered before is an error. -/
def addModule (b : Bus) (m : Module) : Except Error Bus :=
  if b.modules.contains m then .error (.duplicateDevice m.letter)
  else .ok { b with modules := insertModule m b.modules }

/-- The decoder of a frame identifier. -/
def route (b : Bus) (id : FrameId) : Route :=
  match b.modules.find? (·.handles id) with
  | some m => .module m
  | none => .ecu

/-- Decode one frame on the bus. -/
def decode (b : Bus) (id : FrameId) (p : Payload) : List Reading :=
  match b.route id with
  | .module m => m.decode id p
  | .ecu => b.ecu.decode id p

/-- Replace the ECU decoder. -/
def setEcu (b : Bus) (e : Ecu) : Bus := { b with ecu := e }

end Bus

/-- The debugging text of a module decoder. -/
def Module.debugText (m : Module) : String :=
  "Pd16Protocol \x7b device_id: " ++ m.letter.toString ++ ", base_id: " ++ toString m.baseId ++
    ", prefix: \"" ++ m.namePrefix ++ "\" \x7d"

/-- The debugging text of a bus. -/
def Bus.debugText (b : Bus) : String :=
  "BusDecoder \x7b ecu: " ++ b.ecu.debugText ++ ", pd16: [" ++
    ", ".intercalate (b.modules.map Module.debugText) ++ "] \x7d"

end CanDecoder
