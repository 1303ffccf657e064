import CanDecoder.Frame
import CanDecoder.Json.Value

/-!
# Frame and channel entries

A frame entry of a definition document is an object with an optional `name` (a string,
default empty), `rate_hz` (an integer up to `2^32 - 1`, default 0) and `channels` (an
array, default empty); other fields are ignored. A channel entry needs `name` (a string)
and `bytes` (an array of non-negative integers) and may give `signed` (a boolean), `units`
and `conversion` (strings). In JSON documents an entry may also be an array holding these
fields in that order, missing trailing fields taking their defaults. A field of the wrong
type makes the whole entry unreadable. These are the readers of JSON values; a frame is
built with whichever channel reader its document's format has. A channel entry becomes a
channel only with one or two byte offsets, and a frame keeps exactly its readable channels.
-/

namespace CanDecoder

open Json

/-- A frame object before its channels are read. -/
structure FrameEntry where
  name : String
  rate : Nat
  channels : List Value

/-- A channel object. -/
structure ChannelEntry where
  name : String
  offsets : List Nat
  signed : Bool
  units : String
  formula : String

namespace Json.Value

/-- The string of a string value. -/
def asString? : Value → Option String
  | .str s => some s
  | _ => none

/-- The boolean of a boolean value. -/
def asBool? : Value → Option Bool
  | .bool b => some b
  | _ => none

/-- A non-negative integer below `2^bits`. -/
def asUnsigned? (bits : Nat) : Value → Option Nat
  | .num (.unsigned n) => if n < Nat.pow 2 bits then some n else none
  | _ => none

/-- The items of an array value. -/
def asList? : Value → Option (List Value)
  | .arr items => some items
  | _ => none

/-- A list of byte offsets. -/
def asOffsets? (v : Value) : Option (List Nat) :=
  v.asList? >>= fun items => items.mapM (asUnsigned? 64)

end Json.Value

/-- Read a field that may be absent: absent gives `default`, present must read. -/
def optionalField {α β} (fields : List (String × β)) (key : String) (default : α)
    (read : β → Option α) : Option α :=
  match fields.lookup key with
  | none => some default
  | some v => read v

/-- Read the element `i` of a positional entry, `default` when the array is shorter. -/
def positional {α} (items : List Value) (i : Nat) (default : Option α)
    (read : Value → Option α) : Option α :=
  match items[i]? with
  | none => default
  | some v => read v

namespace FrameEntry

/-- Read a frame entry from a JSON value. -/
def ofJson? : Value → Option FrameEntry
  | .obj fields => do
    let name ← optionalField fields "name" "" Value.asString?
    let rate ← optionalField fields "rate_hz" 0 (Value.asUnsigned? 32)
    let channels ← optionalField fields "channels" [] Value.asList?
    pure ⟨name, rate, channels⟩
  | .arr items => do
    if items.length > 3 then none
    let name ← positional items 0 (some "") Value.asString?
    let rate ← positional items 1 (some 0) (Value.asUnsigned? 32)
    let channels ← positional items 2 (some []) Value.asList?
    pure ⟨name, rate, channels⟩
  | _ => none

end FrameEntry

namespace ChannelEntry

/-- Read a channel entry from a JSON value. -/
def ofJson? : Value → Option ChannelEntry
  | .obj fields => do
    let name ← fields.lookup "name" >>= Value.asString?
    let offsets ← fields.lookup "bytes" >>= Value.asOffsets?
    let signed ← optionalField fields "signed" false Value.asBool?
    let units ← optionalField fields "units" "" Value.asString?
    let formula ← optionalField fields "conversion" "" Value.asString?
    pure ⟨name, offsets, signed, units, formula⟩
  | .arr items => do
    if items.length > 5 then none
    let name ← positional items 0 none Value.asString?
    let offsets ← positional items 1 none Value.asOffsets?
    let signed ← positional items 2 (some false) Value.asBool?
    let units ← positional items 3 (some "") Value.asString?
    let formula ← positional items 4 (some "") Value.asString?
    pure ⟨name, offsets, signed, units, formula⟩
  | _ => none

/-- The channel an entry describes, if it has one or two offsets. -/
def toChannel? (e : ChannelEntry) : Option Channel :=
  Channel.make? e.name e.offsets e.signed e.units e.formula

end ChannelEntry

/-- The channel of a channel item that `read` reads as an entry, if the entry has one or two
offsets. -/
def Channel.ofItem? (read : Value → Option ChannelEntry) (v : Value) : Option Channel :=
  read v >>= ChannelEntry.toChannel?

/-- The frame `id` of an entry, with the channels of the items that `read` reads. -/
def Frame.ofEntry (read : Value → Option ChannelEntry) (id : FrameId) (e : FrameEntry) : Frame :=
  ⟨id, e.name, e.rate, e.channels.filterMap (Channel.ofItem? read)⟩

end CanDecoder
