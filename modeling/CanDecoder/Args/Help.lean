import CanDecoder.Args.Spec
import CanDecoder.Decimal.Natural
import CanDecoder.Term.Wrap

/-!
# Help pages

A help page says what the command does, how it is called, and then lists its
subcommands, positional arguments and options, each section under a heading. In the
summary (`-h`) every entry is one line: the names, then the help text in a column that
lines up within the section; the help text carries the option's environment variable and
its possible values in brackets. When a help text would be too long for the terminal and
the names take more than two fifths of it, every entry of the section puts its help on the
next line instead, indented by ten columns. Help texts wrap at the terminal width and
continue in their column.

The fuller page (`--help`, or the `help` subcommand) is only different for a command
that has more to say, here the program with its explained output formats: each option's
help stands on its own lines below its names, entries are separated by blank lines, and
the possible values are listed one per line with what they mean.

The terminal width is taken from `COLUMNS` when that reads as a machine-word count, and is
100 otherwise.
-/

namespace CanDecoder.Args

open Term

/-- Width of the indentation of the first column. -/
def tab : Nat := 2

/-- `n` spaces. -/
def spaces (n : Nat) : String := String.ofList (List.replicate n ' ')

/-- The terminal width for help: `COLUMNS` if it reads as a count below `2^64` (digits with
an optional `+`), else 100. -/
def terminalWidth (columns : Option String) : Nat :=
  (columns.bind fun s => (Decimal.readNatural Decimal.wordBound s).toOption).getD 100

/-- The usage of a command: its name, `[OPTIONS]` when it has options of its own, its
positionals and `[COMMAND]` when it has subcommands. -/
def Command.usage (c : Command) : Styled :=
  Styled.styled .literal c.usageName ++
    (if c.opts.any (·.action.isOwn) then Styled.text " [OPTIONS]" else []) ++
    (c.positionals.flatMap fun p => Styled.text (" " ++ p.shown)) ++
    (if c.subcommands.isEmpty then [] else Styled.text " [COMMAND]")

/-- The usage of a command listing what was given: the options given, by key in the order
given, then every positional, in its given form when it was given. -/
def Command.usageWith (c : Command) (given : List String) : Styled :=
  let opts := c.opts.filter fun o => given.contains o.key
  let opts := given.filterMap fun k => opts.find? (·.key = k)
  Styled.styled .literal c.usageName ++
    (opts.flatMap fun o => Styled.text " " ++ o.styledName) ++
    (c.positionals.flatMap fun p =>
      Styled.text (" " ++ if given.contains p.key then p.shownGiven else p.shown))

/-- The usage heading and usage, as they open a refusal's last part. -/
def usageLine (u : Styled) : Styled := Styled.styled .header "Usage:" ++ Styled.text " " ++ u

/-- The layout of one section of a help page. -/
structure Layout where
  /-- The terminal width. -/
  width : Nat
  /-- Whether this is the fuller page. -/
  long : Bool
  /-- The widest first column of the section. -/
  longest : Nat
  /-- Whether help texts go on the next line. -/
  nextLine : Bool

/-- Whether a help text of width `w` forces the section onto next lines. -/
def forcesNextLine (width longest w : Nat) : Bool :=
  let taken := longest + 2 * tab
  width ≥ taken && taken * 5 > width * 2 && w > width - taken

/-- The column where help texts start. -/
def Layout.column (l : Layout) : Nat := if l.nextLine then tab + 8 else l.longest + 2 * tab

/-- A help text placed in its column: on the next line if the layout says so, wrapped
to the width left, and continued at the same column. -/
def Layout.place (l : Layout) (help : Styled) : Styled :=
  let col := l.column
  (if l.nextLine then Styled.text ("\n" ++ spaces col) else []) ++
    Styled.indent (spaces col) (wrap (l.width - col) help)

/-! ## Subcommands -/

/-- The subcommands section. -/
def subcommandSection (c : Command) (width : Nat) : Styled :=
  let longest := c.subcommands.foldl (fun m (n, _) => max m (textWidth n)) 2
  let nextLine := c.subcommands.any fun (_, about) => forcesNextLine width longest (textWidth about)
  let l : Layout := ⟨width, false, longest, nextLine⟩
  let entries := c.subcommands.map fun (name, about) =>
    Styled.text (spaces tab) ++ Styled.styled .literal name ++
      (if nextLine then [] else Styled.text (spaces (longest + tab - textWidth name))) ++
      l.place (Styled.text about)
  Styled.styled .header "Commands:" ++ Styled.text "\n" ++
    (entries.intersperse (Styled.text "\n")).flatten

/-! ## Options and positionals -/

/-- The help text of the help option, which tells of the fuller page if there is one. -/
def helpOptionText (c : Command) (long : Bool) : String :=
  if c.hasLongHelp then
    if long then "Print help (see a summary with '-h')" else "Print help (see more with '--help')"
  else "Print help"

/-- The help text of an option. -/
def Opt.helpText (c : Command) (long : Bool) (o : Opt) : String :=
  if o.action = .help then helpOptionText c long else o.help

/-- Whether the possible values of `o` are listed one per line. -/
def Opt.listsValues (long : Bool) (o : Opt) : Bool :=
  long && match o.check with
    | .choice vs => vs.any fun (_, h) => !h.isEmpty
    | _ => false

/-- The bracketed notes of an option: its environment variable with its value, and its
possible values unless they are listed one per line. -/
def Opt.notes (env : String → Option String) (long : Bool) (o : Opt) : String :=
  let envNote := match o.env with
    | some v => ["[env: " ++ v ++ "=" ++ (env v).getD "" ++ "]"]
    | none => []
  let valuesNote := match o.check with
    | .choice vs => if o.listsValues long then [] else ["[possible values: " ++ ", ".intercalate (vs.map (·.1)) ++ "]"]
    | _ => []
  (if long then "\n" else " ").intercalate (envNote ++ valuesNote)

/-- The help text with the notes after it. -/
def withNotes (long : Bool) (help notes : String) : String :=
  if notes.isEmpty then help
  else if help.isEmpty then notes
  else help ++ (if long then "\n\n" else " ") ++ notes

/-- A width no text reaches. -/
def noLimit : Nat := Nat.pow 2 64 - 1

/-- The list of possible values with what they mean, below an option's help. -/
def valueList (l : Layout) (helpEmpty : Bool) (vs : List (String × String)) : Styled :=
  let col := l.column
  let indent := col + tab
  let avail := if l.width > indent then l.width - indent else noLimit
  let widest := vs.foldl (fun m (n, _) => max m (textWidth n)) 0
  (if helpEmpty then [] else Styled.text ("\n\n" ++ spaces col)) ++ Styled.text "Possible values:" ++
    (vs.flatMap fun (name, help) =>
      let descr := Styled.styled .literal name ++
        (if help.isEmpty then [] else Styled.text (": " ++ spaces (widest - textWidth name) ++ help))
      Styled.text ("\n" ++ spaces col ++ "- ") ++ Styled.indent (spaces indent) (wrap avail descr))

/-- The names column of an option. -/
def Opt.names (o : Opt) : Styled :=
  (match o.short with
    | some s => Styled.styled .literal ("-" ++ s.toString) ++ Styled.text ", "
    | none => Styled.text "    ") ++
  o.styledName

/-- One option entry. -/
def optionEntry (c : Command) (env : String → Option String) (l : Layout) (o : Opt) : Styled :=
  let help := withNotes l.long (o.helpText c l.long) (o.notes env l.long)
  let pad := if l.long || l.nextLine then 0 else l.longest + tab - (textWidth o.shown + 4)
  let placed := l.place (Styled.text help)
  Styled.text (spaces tab) ++ o.names ++ Styled.text (spaces pad) ++ placed ++
    (match o.check with
      | .choice vs => if o.listsValues l.long then valueList l help.isEmpty vs else []
      | _ => [])

/-- The options section. -/
def optionSection (c : Command) (env : String → Option String) (width : Nat) (long : Bool) : Styled :=
  let longest := c.opts.foldl (fun m o => max m (textWidth o.shown + 4)) 2
  let nextLine := long || c.opts.any fun o =>
    forcesNextLine width longest (textWidth (o.helpText c false) + textWidth (o.notes env false))
  let l : Layout := ⟨width, long, longest, nextLine⟩
  let sep := if nextLine && long then "\n\n" else "\n"
  Styled.styled .header "Options:" ++ Styled.text "\n" ++
    ((c.opts.map (optionEntry c env l)).intersperse (Styled.text sep)).flatten

/-- The positional arguments section. -/
def positionalSection (c : Command) (width : Nat) (long : Bool) : Styled :=
  let longest := c.positionals.foldl (fun m p => max m (textWidth p.shown)) 2
  let nextLine := long || c.positionals.any fun p => forcesNextLine width longest (textWidth p.help)
  let l : Layout := ⟨width, long, longest, nextLine⟩
  let sep := if nextLine && long then "\n\n" else "\n"
  let entries := c.positionals.map fun p =>
    let pad := if long || nextLine then 0 else longest + tab - textWidth p.shown
    Styled.text (spaces tab ++ p.shown ++ spaces pad) ++ l.place (Styled.text p.help)
  Styled.styled .header "Arguments:" ++ Styled.text "\n" ++ (entries.intersperse (Styled.text sep)).flatten

/-- The help page of a command; `long` asks for the fuller page. -/
def helpPage (c : Command) (env : String → Option String) (width : Nat) (long : Bool) : Styled :=
  let long := long && c.hasLongHelp
  let sections :=
    (if c.subcommands.isEmpty then [] else [subcommandSection c width]) ++
    (if c.positionals.isEmpty then [] else [positionalSection c width long]) ++
    (if c.opts.isEmpty then [] else [optionSection c env width long])
  let page := wrap width (Styled.text c.about) ++ Styled.text "\n\n" ++ usageLine c.usage ++
    Styled.text "\n\n" ++ (sections.intersperse (Styled.text "\n\n")).flatten
  trimStyledEnd (Styled.mergePlain page) ++ Styled.text "\n"

/-- The version line of a command. -/
def versionText (c : Command) : String := c.displayName ++ " " ++ programVersion ++ "\n"

end CanDecoder.Args
