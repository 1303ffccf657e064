import CanDecoder.Args.Parse
import CanDecoder.Disk
import CanDecoder.Grid
import CanDecoder.Listing
import CanDecoder.Log.Report

/-!
# Running `devdash-decode`

A run reads the command line, then the settings: the file given by `--config` (or
`DEVDASH_CONFIG`), whose failures end the run, or else the per-user file, whose failures
are ignored. The command line's choices override the file's. The bus is built from the
definition document, the fallback choice and the PD16 modules; a failure there is shown
once on one line and then reported. Then the log is decoded, from a file or standard
input, and its rows or latest values printed, or the definition's frames or channels are
listed.

Rows print as a table, JSON or CSV. An empty table prints `No data` unless quiet, and a
log with no frame at all but some lines in no known layout draws a warning, also unless
quiet. A run ends with status 0, 1 when it fails (the error stream then ends with the
report of the failure) or 2 when the command line is refused.

Colours are only used when `CLICOLOR_FORCE` is set to something other than `0`: the
command line's own messages then use their styles unless `NO_COLOR` is set and not empty,
and notices are painted unless the settings turn colours off.
-/

namespace CanDecoder.Program

open Args Term

/-- What a run printed and how it ended. -/
structure Outcome where
  status : Nat
  stdout : String := ""
  stderr : String := ""
  deriving Repr, Inhabited

/-- Whether colours are forced. -/
def colorsForced (env : String → Option String) : Bool := (env "CLICOLOR_FORCE").any (· != "0")

/-- Whether the command line's own messages are styled. -/
def messageColors (env : String → Option String) : Bool :=
  colorsForced env && !((env "NO_COLOR").any (!·.isEmpty))

/-- Whether notices are painted. -/
def noticeColors (env : String → Option String) (noColor : Bool) : Bool :=
  colorsForced env && !noColor

/-- Read the settings file at `path`. -/
def readSettings (path : String) (l : Load) : Except Failure Settings :=
  match l.text with
  | .error e => .error ((Failure.of (.io e)).within ("Failed to read config file: " ++ path))
  | .ok text =>
    match Settings.parse text with
    | .ok s => .ok s
    | .error msg => .error ((Failure.stated msg).within ("Failed to parse config file: " ++ path))

/-- The settings: from the file at `path` if one is named, else from the per-user file,
whose failures give the defaults. -/
def loadSettings {m} [Monad m] (disk : Disk m) (path : Option String) : m (Except Failure Settings) :=
  match path with
  | some p => do return readSettings p (← disk.load p)
  | none => do
    match ← disk.userSettings with
    | some l => return .ok ((readSettings "" l).toOption.getD {})
    | none => return .ok {}

/-- The command line's choices as they override the settings. -/
def overridesOf (r : Request) : Overrides where
  protocol := r.protocol
  noFallback := r.noFallback
  output := r.output
  noColor := r.noColor
  modules := r.modules

/-- Build the bus: load the definition document if one is named, drop the fallback table
if asked, and add the PD16 modules in order. -/
def buildBus {m} [Monad m] (disk : Disk m) (r : Resolved) : m (Except Failure Bus) := do
  let ecu ← match r.protocol with
    | none => pure (Except.ok Ecu.new)
    | some path => do
      let l ← disk.load path
      pure (match Ecu.new.load path l.text with
        | .ok (_, e) => .ok e
        | .error e => .error ((Failure.of (.decoder e)).within ("Failed to load protocol definition: " ++ path)))
  return do
    let ecu ← ecu
    let ecu := if r.fallback then ecu else ecu.withoutFallback
    r.modules.foldlM (fun b m => (b.addModule m).mapError fun e => Failure.of (.decoder e)) (Bus.new ecu)

/-- How rows are printed. -/
structure Presentation where
  format : Format
  quiet : Bool
  /-- Whether notices are painted. -/
  paint : Bool

/-- The printed form of rows. -/
def present {α : Type} [Tabular α] (out : Presentation) (rows : List α) : String :=
  match out.format with
  | .table =>
    if rows.isEmpty then (if out.quiet then "" else Paint.dimmed.apply out.paint "No data" ++ "\n")
    else renderTable rows ++ "\n"
  | .json => (rowsJson rows).pretty ++ "\n"
  | .csv => renderCsv rows

/-- Whether a path names standard input: `-`, possibly followed by slashes and `.`. -/
def namesStdin (path : String) : Bool :=
  match path.splitOn "/" with
  | "-" :: rest => rest.all fun p => p.isEmpty || p = "."
  | _ => false

/-- The warning for a log in which nothing was recognised. -/
def unrecognisedWarning (skipped : Nat) : String :=
  "No frames recognised; " ++ toString skipped ++ " lines were not in candump format"

/-- Decode a log and print its rows, or only the latest values. -/
def decodeLog {m} [Monad m] (disk : Disk m) (bus : Bus) (input : Option String) (latest : Bool)
    (out : Presentation) : m Outcome := do
  let source ← match input with
    | some p => if namesStdin p then Load.contents <$> disk.stdin else disk.load p
    | none => Load.contents <$> disk.stdin
  let report : Except Failure Log.Report := match source with
    | .failedOpen e => .error ((Failure.of (.io e)).within ("Failed to open log file: " ++ input.getD ""))
    | .failedRead e => .error ((Failure.of (.io e)).within "Failed to read line 1")
    | .contents bytes => Log.Report.read bus (!latest) bytes.toList
  match report with
  | .error f => return { status := 1, stderr := f.report }
  | .ok report =>
    let warning :=
      if report.stats.frames == 0 && report.stats.skipped > 0 && !out.quiet then
        Paint.yellow.apply out.paint (unrecognisedWarning report.stats.skipped) ++ "\n"
      else ""
    let text := if latest then present out report.latest else present out report.rows
    return { status := 0, stdout := text, stderr := warning }

/-- The failure of listing frames without a definition. -/
def noDefinition : Failure :=
  Failure.stated "No protocol definition loaded (use --protocol or set `protocol` in the config file)"

/-- List the frames of the definition, or every channel. -/
def listFrames (bus : Bus) (channels : Bool) (out : Presentation) : Outcome :=
  match bus.ecu.schema with
  | none => { status := 1, stderr := noDefinition.report }
  | some s => { status := 0, stdout := if channels then present out s.channelRows else present out s.frameRows }

/-- Carry out a request. -/
def serve {m} [Monad m] (disk : Disk m) (env : String → Option String) (req : Request) : m Outcome := do
  match ← loadSettings disk req.config with
  | .error f => return { status := 1, stderr := f.report }
  | .ok settings =>
    match settings.merge (overridesOf req) with
    | .error msg => return { status := 1, stderr := (Failure.stated msg).report }
    | .ok resolved =>
      let out : Presentation := ⟨resolved.output, req.quiet, noticeColors env resolved.noColor⟩
      match ← buildBus disk resolved with
      | .error f => return { status := 1, stderr := Paint.red.apply out.paint f.message ++ "\n" ++ f.report }
      | .ok bus =>
        match req.task.getD (.decode none false) with
        | .decode input latest => decodeLog disk bus input latest out
        | .frames channels => return listFrames bus channels out

/-- Run the program on the words of its command line, with environment `env`. -/
def run {m} [Monad m] (disk : Disk m) (env : String → Option String) (words : List String) : m Outcome :=
  let cx : Surroundings := ⟨env, terminalWidth (env "COLUMNS")⟩
  match readCommandLine cx words with
  | .error (.show page) => return { status := 0, stdout := page.render (messageColors env) }
  | .error (.refuse r) => return { status := 2, stderr := r.message.render (messageColors env) }
  | .ok req => serve disk env req

end CanDecoder.Program
