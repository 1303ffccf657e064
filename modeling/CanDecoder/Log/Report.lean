import CanDecoder.Log.Line
import CanDecoder.Bus
import CanDecoder.Decimal.Text
import CanDecoder.Tabular

/-!
# Decoding a whole log

A log is read line by line. Every line counts; a line that holds a frame is decoded on a
bus, and a line in no known layout is counted as skipped. Each channel value of a decoded
frame gives one row, in log order, and updates the latest snapshot, which holds for
every channel name its last value and unit, the identifier of the first frame that gave
it and how many values it took. Values are rounded to four decimal places.

Lines end at a line feed; a carriage return before the line feed is dropped, and a last
line without a line feed still counts.
-/

namespace CanDecoder.Log

/-- Counters of one pass over a log. -/
structure Stats where
  lines : Nat
  frames : Nat
  decodedFrames : Nat
  channels : Nat
  skipped : Nat
  deriving Repr, DecidableEq, Inhabited

/-- One decoded channel value of one frame. -/
structure ChannelRow where
  timestamp : String
  id : String
  channel : String
  value : Float
  unit : String
  deriving Inhabited

/-- The most recent value of a channel. -/
structure LatestRow where
  channel : String
  value : Float
  unit : String
  id : String
  updates : Nat
  deriving Inhabited

/-- Channel values are shown by their shortest decimal text; the JSON form leaves out an
empty timestamp. -/
instance : Tabular ChannelRow where
  headers := ["Time", "ID", "Channel", "Value", "Unit"]
  cells r := [r.timestamp, r.id, r.channel, Decimal.plainText r.value, r.unit]
  toJson r :=
    .obj ((if r.timestamp.isEmpty then [] else [("timestamp", .str r.timestamp)]) ++
      [("id", .str r.id), ("channel", .str r.channel), ("value", .num (.float r.value)),
       ("unit", .str r.unit)])

instance : Tabular LatestRow where
  headers := ["Channel", "Value", "Unit", "ID", "Updates"]
  cells r := [r.channel, Decimal.plainText r.value, r.unit, r.id, toString r.updates]
  toJson r :=
    .obj [("channel", .str r.channel), ("value", .num (.float r.value)), ("unit", .str r.unit),
      ("id", .str r.id), ("updates", .num (.unsigned r.updates))]

/-- Round to four decimal places, halves away from zero, so that noise such as
`90.05000000000001` stays out of reports. -/
def roundValue (x : Float) : Float := (x * 10000.0).round / 10000.0

/-- Record a value of `channel` in a snapshot sorted by channel name. -/
def record (channel : String) (value : Float) (unit id : String) : List LatestRow → List LatestRow
  | [] => [⟨channel, value, unit, id, 1⟩]
  | r :: rs =>
    if channel < r.channel then ⟨channel, value, unit, id, 1⟩ :: r :: rs
    else if channel = r.channel then { r with value := value, unit := unit, updates := r.updates + 1 } :: rs
    else r :: record channel value unit id rs

/-- Everything produced by one pass over a log. -/
structure Report where
  /-- Every decoded channel value in log order; empty when rows are not kept. -/
  rows : List ChannelRow
  /-- The last value of each channel, sorted by channel name. -/
  latest : List LatestRow
  stats : Stats
  deriving Inhabited

/-- The state of a pass: the report so far with its rows newest first. -/
structure Tally where
  rowsNewestFirst : List ChannelRow
  latest : List LatestRow
  stats : Stats

namespace Tally

/-- A pass that has read nothing. -/
def start : Tally := ⟨[], [], ⟨0, 0, 0, 0, 0⟩⟩

/-- Take in the readings of one frame. -/
def addReadings (keepRows : Bool) (timestamp id : String) (t : Tally) : List Reading → Tally
  | [] => t
  | r :: rs =>
    let value := roundValue r.value
    let row : ChannelRow := ⟨timestamp, id, r.name, value, r.unit⟩
    let t' : Tally :=
      { rowsNewestFirst := if keepRows then row :: t.rowsNewestFirst else t.rowsNewestFirst
        latest := record r.name value r.unit id t.latest
        stats := { t.stats with channels := t.stats.channels + 1 } }
    addReadings keepRows timestamp id t' rs

/-- Take in one line. -/
def addLine (bus : Bus) (keepRows : Bool) (t : Tally) (line : String) : Tally :=
  let t := { t with stats := { t.stats with lines := t.stats.lines + 1 } }
  match parseLine line with
  | .ok none => t
  | .error _ => { t with stats := { t.stats with skipped := t.stats.skipped + 1 } }
  | .ok (some f) =>
    let t := { t with stats := { t.stats with frames := t.stats.frames + 1 } }
    match bus.decode f.id f.data with
    | [] => t
    | readings =>
      let t := { t with stats := { t.stats with decodedFrames := t.stats.decodedFrames + 1 } }
      let timestamp := (f.timestamp.map (Decimal.fixedText 6)).getD ""
      addReadings keepRows timestamp (FrameId.format f.id) t readings

end Tally

/-- Decode the lines of a log on `bus`, keeping every row when `keepRows` holds. -/
def Report.ofLines (bus : Bus) (keepRows : Bool) (lines : List String) : Report :=
  let t := lines.foldl (Tally.addLine bus keepRows) Tally.start
  ⟨t.rowsNewestFirst.reverse, t.latest, t.stats⟩

/-- Split `xs` into lines ending at `newline`, dropping a `carriageReturn` before it;
`cur` holds the current line reversed. A last line without `newline` counts when it is
not empty. -/
def splitLinesFrom {α : Type} [DecidableEq α] (newline carriageReturn : α) (cur : List α) :
    List α → List (List α)
  | [] => if cur.isEmpty then [] else [cur.reverse]
  | x :: xs =>
    if x = newline then
      let line := match cur with
        | y :: ys => if y = carriageReturn then ys else y :: ys
        | [] => []
      line.reverse :: splitLinesFrom newline carriageReturn [] xs
    else splitLinesFrom newline carriageReturn (x :: cur) xs

/-- The lines of a text. -/
def textLines (s : String) : List String :=
  (splitLinesFrom '\n' '\r' [] s.toList).map String.ofList

/-- The lines of a byte stream, each of which must be UTF-8 text; the first that is not
is reported with its line number. -/
def byteLines (bytes : List UInt8) : Except Failure (List String) :=
  ((splitLinesFrom 10 13 [] bytes).zipIdx 1).mapM fun (line, n) =>
    match String.fromUTF8? ⟨line.toArray⟩ with
    | some s => .ok s
    | none => .error ((Failure.of (.io .invalidUtf8)).within ("Failed to read line " ++ toString n))

/-- Decode a log given as bytes, line by line, on `bus`, keeping every row when `keepRows`
holds; a line that is not UTF-8 text stops the pass. -/
def Report.read (bus : Bus) (keepRows : Bool) (bytes : List UInt8) : Except Failure Report :=
  (byteLines bytes).map (Report.ofLines bus keepRows)

example : textLines "a\r\nb\n\nc" = ["a", "b", "", "c"] := by decide

end CanDecoder.Log
