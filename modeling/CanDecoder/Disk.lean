import CanDecoder.Error

/-!
# Files the program reads

The program reads three kinds of input: files named on the command line or in a
settings file, the per-user settings file, and standard input. A file is opened, then
read whole; either step can fail. Opening a directory succeeds and reading it fails.

What the program may ask is a `Disk` over any monad, so the same run can read the real
file system or a directory tree held in memory. The tree is a list of files by path,
relative to the working directory; a directory is any path some file lies below.
A path is followed component by component as the operating system does: every step must
pass through a directory, `.` stays and `..` goes up, empty components are ignored, and a
trailing `/` asks for a directory. A path leaving the tree, or an absolute one, names
nothing.
-/

namespace CanDecoder

/-- The result of opening a file and reading it whole. -/
inductive Load where
  /-- The file could not be opened. -/
  | failedOpen (e : IoError)
  /-- The file was opened but could not be read. -/
  | failedRead (e : IoError)
  | contents (bytes : ByteArray)
  deriving Inhabited

/-- The contents as text, as reading a whole file into a string gives it. -/
def Load.text : Load → Except IoError String
  | .failedOpen e | .failedRead e => .error e
  | .contents bytes =>
    match String.fromUTF8? bytes with
    | some s => .ok s
    | none => .error .invalidUtf8

/-- What the program can ask of its surroundings. -/
structure Disk (m : Type → Type) where
  /-- Open the file at a path and read it whole. -/
  load : String → m Load
  /-- The per-user settings file, if one exists. -/
  userSettings : m (Option Load)
  /-- Everything on standard input. -/
  stdin : m ByteArray

/-- What a path names in a tree. -/
inductive Node where
  | file (bytes : ByteArray)
  | directory
  | missing
  deriving Inhabited

/-- A directory tree in memory, with the per-user settings and standard input. -/
structure Tree where
  /-- The files, each by the components of its path. -/
  files : List (List String × ByteArray) := []
  userSettings : Option ByteArray := none
  stdin : ByteArray := ByteArray.empty
  deriving Inhabited

/-- The components of a relative path, without empty and `.` components. -/
def pathParts (path : String) : List String :=
  (path.splitOn "/").filter fun p => !p.isEmpty && p != "."

namespace Tree

/-- Add a file at `path`. -/
def addFile (t : Tree) (path : String) (bytes : ByteArray) : Tree :=
  let parts := pathParts path
  { t with files := (t.files.filter (·.1 != parts)) ++ [(parts, bytes)] }

/-- What the components `parts` name. -/
def node (t : Tree) (parts : List String) : Node :=
  match t.files.find? (·.1 == parts) with
  | some (_, bytes) => .file bytes
  | none =>
    if parts.isEmpty || t.files.any (fun (p, _) => parts.isPrefixOf p && p.length > parts.length) then .directory
    else .missing

/-- Follow the components of a path from `here`; none when it leaves the tree. -/
def follow (t : Tree) (here : List String) : List String → Except IoError (Option (List String))
  | [] => .ok (some here)
  | p :: rest =>
    if p.isEmpty then follow t here rest
    else match t.node here with
      | .file _ => .error .notADirectory
      | .missing => .error .notFound
      | .directory =>
        if p = "." then follow t here rest
        else if p = ".." then
          if here.isEmpty then .ok none else follow t here.dropLast rest
        else follow t (here ++ [p]) rest

/-- Open and read the file at `path`. -/
def load (t : Tree) (path : String) : Load :=
  if path.isEmpty || path.startsWith "/" then .failedOpen .notFound
  else
    match t.follow [] (path.splitOn "/") with
    | .error e => .failedOpen e
    | .ok none => .failedOpen .notFound
    | .ok (some parts) =>
      match t.node parts with
      | .file bytes => if path.endsWith "/" then .failedOpen .notADirectory else .contents bytes
      | .directory => .failedRead .isDirectory
      | .missing => .failedOpen .notFound

/-- The tree as a disk. -/
def disk (t : Tree) : Disk Id where
  load := t.load
  userSettings := t.userSettings.map .contents
  stdin := t.stdin

end Tree

end CanDecoder
