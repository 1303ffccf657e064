import CanDecoder.Schema.Yaml
import CanDecoder.Fallback

/-!
# The ECU decoder

The ECU decoder holds the loaded schema, if any, a decoder per schema frame compiled when
the schema is installed, and the degraded-mode table. A payload shorter than two bytes
decodes to nothing; otherwise a frame the schema defines decodes by its compiled decoder,
any other frame by the degraded-mode table, and an unknown frame to nothing. Installing a
schema replaces the schema and all compiled decoders; the degraded-mode table is either
complete or, once switched off, empty. A failed load changes nothing.
-/

namespace CanDecoder

/-- A channel ready for decoding: its key and unit worked out once. -/
structure CompiledChannel where
  key : String
  unit : String
  channel : Channel

/-- The decoder of one frame: its channels in wire order. -/
structure CompiledFrame where
  channels : List CompiledChannel

namespace CompiledFrame

/-- Compile a frame definition. -/
def ofFrame (f : Frame) : CompiledFrame :=
  ⟨f.channels.map fun c => ⟨c.key, c.outputUnit, c⟩⟩

/-- The readings of every channel whose field fits `p`, in wire order. -/
def decode (cf : CompiledFrame) (p : Payload) : List Reading :=
  cf.channels.filterMap fun c =>
    (c.channel.raw? p).map fun raw => ⟨c.key, c.channel.conversion.apply raw, c.unit⟩

end CompiledFrame

/-- The state of the ECU decoder. -/
structure Ecu where
  schema : Option Schema
  decoders : List (FrameId × CompiledFrame)
  fallback : List FixedFrame

/-- Read a definition document from the contents of the file at `path`: the format
follows the extension. -/
def Schema.ofFile (path : String) (contents : Except IoError String) : Except Error Schema := do
  let text ← contents.mapError Error.io
  match DocumentFormat.ofPath path with
  | .json => Schema.ofJson text
  | .yaml => Schema.ofYaml text

namespace Ecu

/-- A decoder with no schema and the full degraded-mode table. -/
def new : Ecu := ⟨none, [], Fallback.frames⟩

/-- The compiled decoder table of a schema: each frame under its identifier. -/
def decoderTable (s : Schema) : List (FrameId × CompiledFrame) :=
  s.frames.map fun f => (f.id, CompiledFrame.ofFrame f)

/-- Install a schema: it replaces the current one, and every frame gets a compiled
decoder. -/
def install (e : Ecu) (s : Schema) : Ecu := { e with schema := some s, decoders := decoderTable s }

/-- A fresh decoder with a schema installed. -/
def withSchema (s : Schema) : Ecu := new.install s

/-- Switch the degraded-mode table off. -/
def withoutFallback (e : Ecu) : Ecu := { e with fallback := [] }

/-- Decode one frame. -/
def decode (e : Ecu) (id : FrameId) (p : Payload) : List Reading :=
  if p.length < 2 then []
  else match e.decoders.lookup id with
    | some cf => cf.decode p
    | none =>
      match e.fallback.find? (·.id == id) with
      | some f => f.decode p
      | none => []

/-- Whether the decoder has a compiled or degraded-mode decoder for `id`. -/
def handles (e : Ecu) (id : FrameId) : Bool :=
  (e.decoders.lookup id).isSome || e.fallback.any (·.id == id)

/-- Whether a schema is loaded. -/
def isLoaded (e : Ecu) : Bool := e.schema.isSome

/-- The identifiers of the loaded schema, ascending. -/
def frameIds (e : Ecu) : List FrameId := (e.schema.map Schema.ids).getD []

/-- The number of frames of the loaded schema. -/
def size (e : Ecu) : Nat := (e.schema.map Schema.size).getD 0

/-- The frame `id` of the loaded schema. -/
def frame? (e : Ecu) (id : FrameId) : Option Frame := e.schema >>= (·.find? id)

/-- Load a definition document from the contents of the file at `path`. On success the
schema is installed and its frame count returned. -/
def load (e : Ecu) (path : String) (contents : Except IoError String) : Except Error (Nat × Ecu) := do
  let s ← Schema.ofFile path contents
  return (s.size, e.install s)

/-- Load a definition document, reporting only whether it loaded; when it did not, the
decoder stays as it was. -/
def loadDefinition (e : Ecu) (path : String) (contents : Except IoError String) : Bool × Ecu :=
  match e.load path contents with
  | .ok (_, e') => (true, e')
  | .error _ => (false, e)

/-- Decimal numbers in brackets, comma separated. -/
def numberList (ns : List Nat) : String := "[" ++ ", ".intercalate (ns.map toString) ++ "]"

/-- The debugging text of the decoder: its schema identifiers and degraded-mode
identifiers, ascending. -/
def debugText (e : Ecu) : String :=
  let fallbackIds := ((e.fallback.map (·.id.toNat)).mergeSort (· ≤ ·))
  "HaltechProtocol \x7b frame_ids: " ++ numberList (e.frameIds.map UInt32.toNat) ++
    ", fallback_ids: " ++ numberList fallbackIds ++ " \x7d"

/-- Engine speed from bytes 0 and 1 (zero when absent). -/
def rpm (p : Payload) : Float := Float.ofNat (p.wordOrZero 0)

/-- A temperature in tenths of a kelvin at `offset`, in °C (zero when absent). -/
def temperature (p : Payload) (offset : Nat) : Float :=
  match p.wordAt? offset with
  | some w => Conversion.kelvinToCelsius.apply (Float.ofNat w)
  | none => 0.0

/-- An absolute pressure in tenths of a kilopascal at `offset`, in kPa (zero when absent). -/
def pressure (p : Payload) (offset : Nat) : Float :=
  match p.wordAt? offset with
  | some w => Conversion.divideBy10.apply (Float.ofNat w)
  | none => 0.0

end Ecu

end CanDecoder
