import CanDecoder.Frame
import CanDecoder.Tabular

/-!
# Listing a schema

A schema is listed one row per frame, by ascending identifier, or one row per channel,
frames by ascending identifier and each frame's channels in the order they were defined.
A channel row shows the channel's payload offsets joined by `-`, its formula and the unit
of its converted value.
-/

namespace CanDecoder

/-- One frame of a schema. -/
structure FrameRow where
  id : String
  name : String
  rate : Nat
  channels : Nat
  deriving Inhabited

/-- One channel of a schema. -/
structure ChannelDefRow where
  id : String
  channel : String
  bytes : String
  signed : Bool
  conversion : String
  unit : String
  deriving Inhabited

instance : Tabular FrameRow where
  headers := ["ID", "Name", "Rate (Hz)", "Channels"]
  cells r := [r.id, r.name, toString r.rate, toString r.channels]
  toJson r :=
    .obj [("id", .str r.id), ("name", .str r.name), ("rate_hz", .num (.unsigned r.rate)),
      ("channels", .num (.unsigned r.channels))]

/-- Text of a truth value in a cell. -/
def boolText (b : Bool) : String := if b then "true" else "false"

instance : Tabular ChannelDefRow where
  headers := ["ID", "Channel", "Bytes", "Signed", "Conversion", "Unit"]
  cells r := [r.id, r.channel, r.bytes, boolText r.signed, r.conversion, r.unit]
  toJson r :=
    .obj [("id", .str r.id), ("channel", .str r.channel), ("bytes", .str r.bytes),
      ("signed", .bool r.signed), ("conversion", .str r.conversion), ("unit", .str r.unit)]

/-- The row of a frame. -/
def Frame.row (f : Frame) : FrameRow := ⟨FrameId.format f.id, f.name, f.rate, f.channels.length⟩

/-- The row of a channel of the frame with identifier `id`. -/
def Channel.row (id : FrameId) (c : Channel) : ChannelDefRow :=
  ⟨FrameId.format id, c.key, "-".intercalate (c.offsets.map toString), c.signed,
    c.conversion.formula, c.outputUnit⟩

/-- The rows of a frame's channels, in wire order. -/
def Frame.channelRows (f : Frame) : List ChannelDefRow := f.channels.map (Channel.row f.id)

/-- The frames of a schema by ascending identifier, each looked up by its identifier. -/
def Schema.ordered (s : Schema) : List Frame := s.ids.filterMap s.find?

/-- One row per frame, by ascending identifier. -/
def Schema.frameRows (s : Schema) : List FrameRow := s.ordered.map Frame.row

/-- One row per channel, frames by ascending identifier. -/
def Schema.channelRows (s : Schema) : List ChannelDefRow := s.ordered.flatMap Frame.channelRows

end CanDecoder
