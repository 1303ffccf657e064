import CanDecoder.Term.Style

/-!
# The command line of `devdash-decode`

A command is described by data: its options, its positional arguments and its
subcommands, each with the help text shown for it. An option has a long name and maybe a
one-letter short name; it is a switch, takes one value, or takes values split at a
delimiter and gathered over every use; two options print help and the version. An option
may fall back on an environment variable, and its values may be checked: a path must not
be empty, a choice must be one of a list, a device must be a PD16 letter.

`devdash-decode` reads a log and prints its channels; `decode` does so explicitly and can
show only the latest values, `frames` lists the loaded definition, and `help` prints the
help of the program or of a subcommand.
-/

namespace CanDecoder.Args

open Term

/-- What an option does when it is given. -/
inductive Action where
  /-- A switch, given at most once. -/
  | flag
  /-- One value, given at most once. -/
  | single
  /-- Values split at `delimiter`, gathered over every use. -/
  | list (delimiter : Char)
  /-- Print help and stop. -/
  | help
  /-- Print the version and stop. -/
  | version
  deriving DecidableEq, Repr, Inhabited

/-- Whether the option takes a value. -/
def Action.takesValue : Action → Bool
  | .single | .list _ => true
  | _ => false

/-- Whether the option is one of the program's own, rather than help or version. -/
def Action.isOwn : Action → Bool
  | .flag | .single | .list _ => true
  | _ => false

/-- How a value is checked. -/
inductive Check where
  /-- Anything goes. -/
  | any
  /-- A path, which must not be empty. -/
  | path
  /-- One of the listed names, each shown with what it means. -/
  | choice (values : List (String × String))
  /-- A PD16 module letter. -/
  | device
  deriving Repr, Inhabited

/-- The names a value may take, if it is a choice. -/
def Check.choices : Check → List String
  | .choice vs => vs.map (·.1)
  | _ => []

/-- An option. -/
structure Opt where
  /-- The name the parsed value is filed under. -/
  key : String
  short : Option Char := none
  long : String
  /-- The name of its value in help. -/
  valueName : String := ""
  help : String := ""
  action : Action
  /-- The environment variable giving its value when the option is absent. -/
  env : Option String := none
  check : Check := .any
  deriving Repr, Inhabited

namespace Opt

/-- The option as named in messages: its long name and, if it takes a value, the
value's name. -/
def shown (o : Opt) : String :=
  "--" ++ o.long ++ (if o.action.takesValue then " <" ++ o.valueName ++ ">" else "")

/-- The option as named in messages, styled. -/
def styledName (o : Opt) : Styled :=
  Styled.styled .literal ("--" ++ o.long) ++
    (if o.action.takesValue then Styled.text (" <" ++ o.valueName ++ ">") else [])

end Opt

/-- A positional argument. -/
structure Positional where
  key : String
  valueName : String
  help : String
  /-- Whether it takes any number of values. -/
  many : Bool := false
  check : Check := .any
  deriving Repr, Inhabited

namespace Positional

/-- The argument as shown in help and messages, where it is optional. -/
def shown (p : Positional) : String :=
  "[" ++ p.valueName ++ "]" ++ (if p.many then "..." else "")

/-- The argument as shown in a usage line listing what was given. -/
def shownGiven (p : Positional) : String :=
  if p.many then p.shown else "<" ++ p.valueName ++ ">"

end Positional

/-- A command: the program itself or one of its subcommands. -/
structure Command where
  /-- The name it is called by. -/
  name : String
  /-- The name that opens its usage line. -/
  usageName : String
  /-- The name shown with the version. -/
  displayName : String
  about : String
  opts : List Opt
  positionals : List Positional
  /-- The names of its subcommands with what they do. -/
  subcommands : List (String × String) := []
  deriving Repr, Inhabited

namespace Command

/-- The option with long name `name`. -/
def findLong? (c : Command) (name : String) : Option Opt := c.opts.find? (·.long = name)

/-- The option with short name `ch`. -/
def findShort? (c : Command) (ch : Char) : Option Opt := c.opts.find? (·.short = some ch)

/-- The option filed under `key`. -/
def findKey? (c : Command) (key : String) : Option Opt := c.opts.find? (·.key = key)

/-- Whether a fuller help exists than the summary: some choice explains its values. -/
def hasLongHelp (c : Command) : Bool :=
  c.opts.any fun o => match o.check with
    | .choice vs => vs.any fun (_, h) => !h.isEmpty
    | _ => false

/-- Whether the command has a help option. -/
def hasHelpOption (c : Command) : Bool := c.opts.any (·.action = .help)

/-- The long names of the options. -/
def longs (c : Command) : List String := c.opts.map (·.long)

end Command

/-- The program's name. -/
def programName : String := "devdash-decode"

/-- The program's version. -/
def programVersion : String := "0.1.0"

/-- The option that prints help. -/
def helpOption : Opt := { key := "help", short := some 'h', long := "help", action := .help }

/-- The option that prints the version. -/
def versionOption : Opt :=
  { key := "version", short := some 'V', long := "version", action := .version, help := "Print version" }

/-- The output formats with what they mean. -/
def formatChoices : List (String × String) :=
  [("table", "ASCII table format (default)"), ("json", "JSON format"), ("csv", "CSV format")]

/-- The program's own options. -/
def mainOptions : List Opt := [
  { key := "protocol", short := some 'p', long := "protocol", valueName := "PROTOCOL",
    help := "Protocol definition document (JSON or YAML)", action := .single,
    env := some "DEVDASH_PROTOCOL", check := .path },
  { key := "config", short := some 'c', long := "config", valueName := "CONFIG",
    help := "Configuration file path", action := .single, env := some "DEVDASH_CONFIG",
    check := .path },
  { key := "output", short := some 'o', long := "output", valueName := "OUTPUT",
    help := "Output format", action := .single, check := .choice formatChoices },
  { key := "no_fallback", long := "no-fallback",
    help := "Only decode frames covered by the protocol definition", action := .flag },
  { key := "pd16", long := "pd16", valueName := "PD16",
    help := "PD16 devices on the bus (e.g. --pd16 A,B)", action := .list ',', check := .device },
  { key := "no_color", long := "no-color", help := "Disable colored output", action := .flag },
  { key := "quiet", short := some 'q', long := "quiet", help := "Minimal output (for scripting)",
    action := .flag },
  { key := "verbose", short := some 'v', long := "verbose", help := "Verbose logging",
    action := .flag }]

/-- The subcommand names with what they do. -/
def subcommandList : List (String × String) := [
  ("decode", "Decode a candump log (default)"),
  ("frames", "List frames in the protocol definition"),
  ("help", "Print this message or the help of the given subcommand(s)")]

/-- The program itself. -/
def mainCommand : Command where
  name := programName
  usageName := programName
  displayName := programName
  about := "Decode Haltech ECU and PD16 CAN logs"
  opts := mainOptions ++ [helpOption, versionOption]
  positionals := []
  subcommands := subcommandList

/-- A subcommand of the program with its options and positionals. -/
def subcommandOf (name about : String) (opts : List Opt) (positionals : List Positional) :
    Command where
  name := name
  usageName := programName ++ " " ++ name
  displayName := programName ++ "-" ++ name
  about := about
  opts := opts ++ [helpOption, versionOption]
  positionals := positionals

/-- `decode`: read a log. -/
def decodeCommand : Command :=
  subcommandOf "decode" "Decode a candump log (default)"
    [{ key := "latest", long := "latest", help := "Print only the most recent value of each channel",
       action := .flag }]
    [{ key := "input", valueName := "INPUT", help := "Log file to read (\"-\" or omitted for stdin)",
       check := .path }]

/-- `frames`: list the definition. -/
def framesCommand : Command :=
  subcommandOf "frames" "List frames in the protocol definition"
    [{ key := "channels", long := "channels", help := "List every channel instead of one row per frame",
       action := .flag }]
    []

/-- The subcommand names `help` takes. -/
def commandNames : Positional :=
  { key := "subcommand", valueName := "COMMAND", help := "Print help for the subcommand(s)", many := true }

/-- `help`: print the help of the program or of a subcommand. It has no options. -/
def helpCommand : Command where
  name := "help"
  usageName := programName ++ " help"
  displayName := programName ++ "-help"
  about := "Print this message or the help of the given subcommand(s)"
  opts := []
  positionals := [commandNames]

/-- The subcommand called `name`. -/
def subcommand? (name : String) : Option Command :=
  if name = "decode" then some decodeCommand
  else if name = "frames" then some framesCommand
  else if name = "help" then some helpCommand
  else none

end CanDecoder.Args
