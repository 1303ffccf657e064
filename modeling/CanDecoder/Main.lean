import CanDecoder.Program

/-!
# The `devdash-decode` executable

The program proper is `Program.run`, which asks its surroundings for files through a
`Disk`. Here the disk is the real file system: a file is opened, then read whole, and the
operating system's failures are sorted into the errors the program words. The per-user
settings file is `devdash/config.toml` under `XDG_CONFIG_HOME` when that is an absolute
path, else under `~/.config`.
-/

namespace CanDecoder.Main

/-- The program's error for a failure of the operating system. -/
def ioErrorOf (e : IO.Error) : IoError :=
  match e with
  | .noFileOrDirectory .. => .notFound
  | .inappropriateType _ 21 _ => .isDirectory
  | .inappropriateType _ 20 _ => .notADirectory
  | .otherError 21 _ => .isDirectory
  | .otherError 20 _ => .notADirectory
  | other => .other (toString other)

/-- Open the file at `path` and read it whole. -/
def loadFile (path : String) : IO Load := do
  if path.isEmpty then return .failedOpen .notFound
  match ← (IO.FS.Handle.mk path .read).toBaseIO with
  | .error e => return .failedOpen (ioErrorOf e)
  | .ok h =>
    match ← h.readBinToEnd.toBaseIO with
    | .error e => return .failedRead (ioErrorOf e)
    | .ok bytes => return .contents bytes

/-- The path of the per-user settings file, if a home is known. -/
def settingsPath : IO (Option String) := do
  match ← IO.getEnv "XDG_CONFIG_HOME" with
  | some dir =>
    if dir.startsWith "/" then return some (dir ++ "/devdash/config.toml")
    else fallback
  | none => fallback
where
  fallback : IO (Option String) := do
    match ← IO.getEnv "HOME" with
    | some home => if home.isEmpty then return none else return some (home ++ "/.config/devdash/config.toml")
    | none => return none

/-- The real file system as the program's disk. -/
def realDisk : Disk IO where
  load := loadFile
  userSettings := do
    match ← settingsPath with
    | none => return none
    | some path =>
      match ← loadFile path with
      | .failedOpen .notFound => return none
      | l => return some l
  stdin := do (← IO.getStdin).readBinToEnd

/-- The environment variables the program looks at. -/
def watched : List String :=
  ["DEVDASH_PROTOCOL", "DEVDASH_CONFIG", "NO_COLOR", "CLICOLOR", "CLICOLOR_FORCE", "COLUMNS"]

end CanDecoder.Main

open CanDecoder in
/-- Run the program on its arguments and print what it prints. -/
def main (args : List String) : IO UInt32 := do
  let env ← Main.watched.mapM fun name => do return (name, ← IO.getEnv name)
  let lookup := fun (name : String) => (env.find? (·.1 = name)).bind (·.2)
  let out ← Program.run Main.realDisk lookup args
  let stdout ← IO.getStdout
  stdout.putStr out.stdout
  stdout.flush
  let stderr ← IO.getStderr
  stderr.putStr out.stderr
  stderr.flush
  return out.status.toUInt32
