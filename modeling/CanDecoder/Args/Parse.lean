import CanDecoder.Args.Refusal
import CanDecoder.Term.Similar
import CanDecoder.Settings

/-!
# Reading the command line

The words of a command line are read left to right. A word starting with `--` names a
long option, with its value after `=` or in the next word; a word starting with a single
`-` is a cluster of short options, where an option that takes a value takes the rest of
the cluster (an `=` in front dropped) or the next word. `--` alone makes every later word
positional. Any other word is the value an option is waiting for, a subcommand (which
reads all later words), or the next positional argument.

A value is checked when the next option is taken or the words run out, so a bad value is
reported before anything given after it. Help and version stop reading as soon as they
are met. The program's own options may come only before the subcommand; the options that
fall back on environment variables take them when absent, once the subcommand has been
read. Word by word, the first problem met is the one reported.
-/

namespace CanDecoder.Args

open Term

/-- An option or positional that was given, with its values in order. -/
structure Given where
  key : String
  values : List String
  deriving Repr, Inhabited

/-- Where values go: an option (and whether it was named by its short name), or a
positional. -/
inductive Slot where
  | option (o : Opt) (short : Bool)
  | positional (p : Positional)
  deriving Inhabited

/-- The state of reading the words of one command. -/
structure Scan where
  /-- What was given, in the order first given. -/
  given : List Given := []
  /-- The option or positional whose values are still unchecked. -/
  pending : Option (Slot × List String) := none
  /-- Whether the pending option still waits for its value. -/
  awaiting : Bool := false
  /-- How many positionals are filled. -/
  position : Nat := 0
  /-- Whether `--` was read. -/
  escaped : Bool := false
  deriving Inhabited

namespace Scan

/-- Whether `key` was given. -/
def has (s : Scan) (key : String) : Bool := s.given.any (·.key = key)

/-- Record values of `key`, after any given before. -/
def add (s : Scan) (key : String) (values : List String) : Scan :=
  if s.has key then
    { s with given := s.given.map fun g => if g.key = key then { g with values := g.values ++ values } else g }
  else { s with given := s.given ++ [⟨key, values⟩] }

/-- The keys given, in order. -/
def keys (s : Scan) : List String := s.given.map (·.key)

end Scan

/-- Why reading stopped before the end. -/
inductive Halt where
  /-- A help page or the version, printed as success. -/
  | show (text : Styled)
  /-- A refusal. -/
  | refuse (r : Refusal)
  deriving Inhabited

/-- A step of reading, which may halt. -/
abbrev Reading := Except Halt

/-- The environment as the command line sees it. -/
structure Surroundings where
  /-- The value of an environment variable. -/
  lookup : String → Option String
  /-- The terminal width for help pages. -/
  width : Nat

/-- How help is asked for in `c`. -/
def Command.helpHint (c : Command) : Option String :=
  if c.hasHelpOption then some "--help" else if c.subcommands.isEmpty then none else some "help"

/-- Refuse with a complaint arising in `c`. -/
def refuse {α} (c : Command) (r : Refusal) : Reading α := .error (.refuse { r with helpHint := c.helpHint })

/-- Check one value of the option or positional shown as `arg`. -/
def checkValue (c : Command) (arg : String) (check : Check) (v : String) : Reading Unit :=
  match check with
  | .any => pure ()
  | .path => if v.isEmpty then refuse c { complaint := .missingValue arg [] } else pure ()
  | .choice vs =>
    let names := vs.map (·.1)
    if names.contains v then pure ()
    else refuse c { complaint := .badChoice arg v names, similarValue := (similarWords v names).getLast? }
  | .device =>
    match Module.parse? v with
    | some _ => pure ()
    | none => refuse c { complaint := .refusedValue arg v (Error.invalidDevice v).message }

/-- Take values into a slot, checking them; `typed` tells values typed on the command line
from one taken from the environment. -/
def take (cx : Surroundings) (c : Command) (s : Scan) (slot : Slot) (values : List String)
    (typed : Bool) : Reading Scan :=
  match slot with
  | .positional p => do
    values.forM (checkValue c p.shown p.check)
    pure (s.add p.key values)
  | .option o short => do
    if typed && o.action.takesValue && values.isEmpty then
      refuse c { complaint := .missingValue o.shown o.check.choices }
    let values := match o.action with
      | .list d => values.flatMap fun v => v.splitOn d.toString
      | _ => values
    match o.action with
    | .flag =>
      if s.has o.key then refuse c { complaint := .repeated o.shown, usage := some c.usage }
      else pure (s.add o.key [])
    | .single =>
      if s.has o.key then refuse c { complaint := .repeated o.shown, usage := some c.usage }
      else do
        values.forM (checkValue c o.shown o.check)
        pure (s.add o.key values)
    | .list _ => do
      values.forM (checkValue c o.shown o.check)
      pure (s.add o.key values)
    | .help => .error (.show (helpPage c cx.lookup cx.width !short))
    | .version => .error (.show (Styled.text (versionText c)))

/-- Check the pending values. -/
def resolve (cx : Surroundings) (c : Command) (s : Scan) : Reading Scan :=
  match s.pending with
  | none => pure s
  | some (slot, values) => take cx c { s with pending := none, awaiting := false } slot values true

/-- Check the pending values, then take new ones. -/
def react (cx : Surroundings) (c : Command) (s : Scan) (slot : Slot) (values : List String) :
    Reading Scan := do
  let s ← resolve cx c s
  take cx c s slot values true

/-- The state once the pending values are checked, when a problem found meanwhile is
reported instead. -/
def settled (cx : Surroundings) (c : Command) (s : Scan) : Scan :=
  match resolve cx c s with
  | .ok s' => s'
  | .error _ => s

/-- The usage shown for a refusal, listing what was given if anything was. -/
def usageFor (c : Command) (keys : List String) : Styled :=
  if keys.isEmpty then c.usage else c.usageWith keys.eraseDups

/-- Let option `o` wait for its value in the next word. -/
def await (cx : Surroundings) (c : Command) (s : Scan) (o : Opt) (short : Bool) : Reading Scan := do
  let s ← resolve cx c s
  pure { s with pending := some (.option o short, []), awaiting := true }

/-- Read a cluster of short options. -/
def shortCluster (cx : Surroundings) (c : Command) : Scan → List Char → Reading Scan
  | s, [] => pure s
  | s, ch :: rest =>
    let arg := "-" ++ ch.toString
    match c.findShort? ch with
    | none =>
      refuse c
        { complaint := .unexpected arg
          tips := if !s.escaped && !c.positionals.isEmpty then [asValueTip arg] else []
          usage := some c.usage }
    | some o =>
      if !o.action.takesValue then do
        let s ← react cx c s (.option o true) []
        shortCluster cx c s rest
      else if rest.isEmpty then await cx c s o true
      else
        let value := String.ofList (if rest.head? = some '=' then rest.drop 1 else rest)
        react cx c s (.option o true) [value]

/-- The option of a subcommand similar to `name`, by the subcommand named earliest in
the words `rest`. -/
def similarElsewhere (c : Command) (name : String) (rest : List String) : Option (String × String) :=
  let found := c.subcommands.filterMap fun (sub, _) => do
    let sc ← subcommand? sub
    let flag ← (similarWords name sc.longs).getLast?
    let place ← rest.findIdx? (· = sub)
    pure (place, sub, flag)
  let best := found.foldl (fun (acc : Option (Nat × String × String)) x =>
    match acc with
    | some a => if x.1 < a.1 then some x else some a
    | none => some x) none
  best.map (·.2)

/-- Refuse an unknown long option `--name`. -/
def unknownLong {α} (cx : Surroundings) (c : Command) (s : Scan) (name : String) (rest : List String) :
    Reading α :=
  let s := settled cx c s
  let here := (similarWords name c.longs).getLast?
  let elsewhere := if here.isSome then none else similarElsewhere c name rest
  let suggested := (here.bind c.findLong?).map (·.key)
  let asValue := here.isNone && elsewhere.isNone && !s.escaped && !c.positionals.isEmpty
  let arg := "--" ++ name
  refuse c
    { complaint := .unexpected arg
      similarOption := here.map ("--" ++ ·)
      tips := (if asValue then [asValueTip arg] else []) ++
        (elsewhere.map fun (sub, flag) => elsewhereTip sub ("--" ++ flag)).toList
      usage := some (usageFor c (s.keys ++ suggested.toList)) }

/-- Read a long option; `body` is the word without its leading `--`. -/
def longOption (cx : Surroundings) (c : Command) (s : Scan) (body : String) (rest : List String) :
    Reading Scan :=
  let (name, value) := match body.splitOn "=" with
    | n :: v :: more => (n, some ("=".intercalate (v :: more)))
    | n :: [] => (n, none)
    | [] => ("", none)
  match c.findLong? name with
  | none => unknownLong cx c s name rest
  | some o =>
    if o.action.takesValue then
      match value with
      | some v => react cx c s (.option o false) [v]
      | none => await cx c s o false
    else
      match value with
      | some v =>
        refuse c { complaint := .unwantedValue o.shown v, usage := some (usageFor c (s.keys ++ [o.key])) }
      | none => react cx c s (.option o false) []

/-- Refuse a word that no positional takes. -/
def strayWord (c : Command) (s : Scan) (w : String) : Refusal :=
  let isSub := c.subcommands.any (·.1 = w)
  let looksLikeOption := w.startsWith "-" && w != "-" && w != "--"
  let asValue := !s.escaped && !c.positionals.isEmpty && looksLikeOption
  if s.escaped && isSub then
    { complaint := .unexpected ("--" ++ w), tips := [doubleDashTip w], usage := some c.usage }
  else
    let similar := similarWords w (c.subcommands.map (·.1))
    if !c.subcommands.isEmpty && !similar.isEmpty then
      { complaint := .unknownSubcommand w, similarSubcommands := similar, usage := some c.usage }
    else if !c.subcommands.isEmpty && c.positionals.isEmpty then
      { complaint := .unknownSubcommand w, usage := some c.usage }
    else
      { complaint := .unexpected w, tips := if asValue then [asValueTip w] else [], usage := some c.usage }

/-- Take a word as the next positional. -/
def positional (cx : Surroundings) (c : Command) (s : Scan) (w : String) : Reading Scan :=
  match c.positionals[s.position]? with
  | some p => do
    let s ← resolve cx c s
    pure { s with pending := some (.positional p, [w]), position := s.position + 1 }
  | none => refuse c (strayWord c s w)

/-- Read the words of command `c`, up to a subcommand, which is returned with the words
after it. -/
def scanWords (cx : Surroundings) (c : Command) : Scan → List String →
    Reading (Scan × Option (String × List String))
  | s, [] => pure (s, none)
  | s, w :: rest =>
    if s.escaped then do
      let s ← positional cx c s w
      scanWords cx c s rest
    else if w = "--" then scanWords cx c { s with escaped := true } rest
    else if w.startsWith "--" then do
      let s ← longOption cx c s (String.ofList (w.toList.drop 2)) rest
      scanWords cx c s rest
    else if w.startsWith "-" && w.length > 1 then do
      let s ← shortCluster cx c s (w.toList.drop 1)
      scanWords cx c s rest
    else if s.awaiting then
      match s.pending with
      | some (slot, vs) => scanWords cx c { s with pending := some (slot, vs ++ [w]), awaiting := false } rest
      | none => scanWords cx c { s with awaiting := false } rest
    else if c.subcommands.any (·.1 = w) then pure (s, some (w, rest))
    else do
      let s ← positional cx c s w
      scanWords cx c s rest

/-- Options absent from the command line take their environment variables. -/
def envFallback (cx : Surroundings) (c : Command) (s : Scan) : Reading Scan :=
  c.opts.foldlM (fun s o =>
    match o.env with
    | some var =>
      if s.has o.key then pure s
      else match cx.lookup var with
        | some v => take cx c s (.option o false) [v] false
        | none => pure s
    | none => pure s) s

/-- Finish reading a command: check the pending values, then fall back on the
environment. -/
def finish (cx : Surroundings) (c : Command) (s : Scan) : Reading Scan := do
  let s ← resolve cx c s
  envFallback cx c s

/-- The help asked for by `help` followed by `targets`: the page of the subcommand they
name, or a refusal for a name that is not one. -/
def helpFor (cx : Surroundings) (c : Command) : List String → Halt
  | [] => .show (helpPage c cx.lookup cx.width true)
  | t :: ts =>
    match (if c.subcommands.any (·.1 = t) then subcommand? t else none) with
    | some sc => helpFor cx sc ts
    | none => .refuse { complaint := .unknownSubcommand t, usage := some c.usage, helpHint := c.helpHint }

/-- What the program is asked to do. -/
inductive Task where
  /-- Decode the log at a path, or standard input, showing every value or only the latest. -/
  | decode (input : Option String) (latest : Bool)
  /-- List the frames of the definition, or all their channels. -/
  | frames (channels : Bool)
  deriving Repr, Inhabited

/-- A command line the program can run. -/
structure Request where
  protocol : Option String := none
  config : Option String := none
  output : Option Format := none
  noFallback : Bool := false
  modules : List Module := []
  noColor : Bool := false
  quiet : Bool := false
  verbose : Bool := false
  task : Option Task := none
  deriving Repr, Inhabited

/-- The values given for `key`. -/
def valuesOf (gs : List Given) (key : String) : Option (List String) :=
  (gs.find? (·.key = key)).map (·.values)

/-- The one value given for `key`. -/
def valueOf (gs : List Given) (key : String) : Option String := (valuesOf gs key).bind List.head?

/-- Whether switch `key` was given. -/
def switchOf (gs : List Given) (key : String) : Bool := (valuesOf gs key).isSome

/-- The request of what was given to the program and to its subcommand. -/
def Request.ofGiven (top : List Given) (sub : Option (String × List Given)) : Request where
  protocol := valueOf top "protocol"
  config := valueOf top "config"
  output := (valueOf top "output").bind fun n => Format.all.find? (·.name = n)
  noFallback := switchOf top "no_fallback"
  modules := ((valuesOf top "pd16").getD []).filterMap Module.parse?
  noColor := switchOf top "no_color"
  quiet := switchOf top "quiet"
  verbose := switchOf top "verbose"
  task := match sub with
    | some ("decode", g) => some (.decode (valueOf g "input") (switchOf g "latest"))
    | some ("frames", g) => some (.frames (switchOf g "channels"))
    | _ => none

/-- Read a whole command line. -/
def readCommandLine (cx : Surroundings) (words : List String) : Reading Request := do
  let (s, sub) ← scanWords cx mainCommand {} words
  let subGiven ← match sub with
    | none => pure none
    | some (name, rest) =>
      if name = "help" then .error (helpFor cx mainCommand rest)
      else match subcommand? name with
        | some sc => do
          let (ss, _) ← scanWords cx sc {} rest
          let ss ← finish cx sc ss
          pure (some (name, ss.given))
        | none => pure none
  let s ← finish cx mainCommand s
  pure (Request.ofGiven s.given subGiven)

end CanDecoder.Args
