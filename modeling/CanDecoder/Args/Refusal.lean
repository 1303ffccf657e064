import CanDecoder.Args.Help

/-!
# Refused command lines

A command line that cannot be understood is refused with a message on the error stream
and exit status 2. The message opens with `error:` and says what was wrong; it may offer
tips (a similar option, value or subcommand, or how to pass a word that looks like an
option as a value), may show the usage of the command it arose in, and ends by pointing at
`--help`.
-/

namespace CanDecoder.Args

open Term

/-- What was wrong with a command line. -/
inductive Complaint where
  /-- A word no option or positional takes. -/
  | unexpected (arg : String)
  /-- A word where a subcommand was due. -/
  | unknownSubcommand (name : String)
  /-- A value outside an option's choices; empty when none was given. -/
  | badChoice (arg value : String) (choices : List String)
  /-- An option given without its value. -/
  | missingValue (arg : String) (choices : List String)
  /-- A value its check refused, with the reason. -/
  | refusedValue (arg value reason : String)
  /-- An option given twice. -/
  | repeated (arg : String)
  /-- A value attached to a switch. -/
  | unwantedValue (arg value : String)
  deriving Repr, Inhabited

/-- A refusal: the complaint, the tips offered, the usage shown and the option that
gives help. -/
structure Refusal where
  complaint : Complaint
  /-- Similar subcommands, least similar first. -/
  similarSubcommands : List String := []
  /-- A similar option. -/
  similarOption : Option String := none
  /-- A similar value. -/
  similarValue : Option String := none
  /-- Further tips. -/
  tips : List Styled := []
  usage : Option Styled := none
  /-- How to ask for help in the command concerned, if it can be asked. -/
  helpHint : Option String := some "--help"
  deriving Inhabited

/-- A value in a list of possible values, quoted if it holds a blank. -/
def quotedValue (v : String) : String :=
  if v.any Text.isBlank then "\"" ++ v ++ "\"" else v

/-- The possible values after a complaint. -/
def valuesNote (choices : List String) : Styled :=
  if choices.isEmpty then []
  else Styled.text "\n  [possible values: " ++
    ((choices.map fun v => Styled.styled .valid (quotedValue v)).intersperse (Styled.text ", ")).flatten ++
    Styled.text "]"

/-- What a complaint says. -/
def Complaint.say : Complaint → Styled
  | .unexpected arg =>
    Styled.text "unexpected argument '" ++ Styled.styled .invalid arg ++ Styled.text "' found"
  | .unknownSubcommand name =>
    Styled.text "unrecognized subcommand '" ++ Styled.styled .invalid name ++ Styled.text "'"
  | .badChoice arg value choices =>
    (if value.isEmpty then
      Styled.text "a value is required for '" ++ Styled.styled .literal arg ++ Styled.text "' but none was supplied"
    else
      Styled.text "invalid value '" ++ Styled.styled .invalid value ++ Styled.text "' for '" ++
        Styled.styled .literal arg ++ Styled.text "'") ++ valuesNote choices
  | .missingValue arg choices =>
    Styled.text "a value is required for '" ++ Styled.styled .invalid arg ++
      Styled.text "' but none was supplied" ++ valuesNote choices
  | .refusedValue arg value reason =>
    Styled.text "invalid value '" ++ Styled.styled .invalid value ++ Styled.text "' for '" ++
      Styled.styled .literal arg ++ Styled.text ("': " ++ reason)
  | .repeated arg =>
    Styled.text "the argument '" ++ Styled.styled .invalid arg ++ Styled.text "' cannot be used multiple times"
  | .unwantedValue arg value =>
    Styled.text "unexpected value '" ++ Styled.styled .invalid value ++ Styled.text "' for '" ++
      Styled.styled .literal arg ++ Styled.text "' found; no more were expected"

/-- A tip naming one similar thing. -/
def similarTip (what thing : String) : Styled :=
  Styled.text "  " ++ Styled.styled .valid "tip:" ++ Styled.text (" a similar " ++ what ++ " exists: '") ++
    Styled.styled .valid thing ++ Styled.text "'"

/-- A tip naming similar subcommands. -/
def similarSubcommandsTip (names : List String) : Styled :=
  Styled.text "  " ++ Styled.styled .valid "tip:" ++
    Styled.text (if names.length = 1 then " a similar subcommand exists: " else " some similar subcommands exist: ") ++
    ((names.map fun n => Styled.text "'" ++ Styled.styled .valid n ++ Styled.text "'").intersperse (Styled.text ", ")).flatten

/-- The whole message of a refusal. -/
def Refusal.message (r : Refusal) : Styled :=
  let similar : List Styled :=
    (if r.similarSubcommands.isEmpty then [] else [similarSubcommandsTip r.similarSubcommands]) ++
    (r.similarOption.map (similarTip "argument")).toList ++
    (r.similarValue.map (similarTip "value")).toList
  let similarPart := match similar with
    | [] => []
    | first :: rest => Styled.text "\n\n" ++ first ++ (rest.map fun t => Styled.text "\n" ++ t).flatten
  let tipsPart : Styled :=
    if r.tips.isEmpty then []
    else (if similar.isEmpty then Styled.text "\n" else []) ++
      (r.tips.map fun t => Styled.text "\n  " ++ Styled.styled .valid "tip:" ++ Styled.text " " ++ t).flatten
  let usagePart := match r.usage with
    | some u => Styled.text "\n\n" ++ usageLine u
    | none => []
  let hint := match r.helpHint with
    | some h => Styled.text "\n\nFor more information, try '" ++ Styled.styled .literal h ++ Styled.text "'.\n"
    | none => Styled.text "\n"
  Styled.styled .error "error:" ++ Styled.text " " ++ r.complaint.say ++ similarPart ++ tipsPart ++
    usagePart ++ hint

/-- The tip for passing a word that looks like an option as a value. -/
def asValueTip (arg : String) : Styled :=
  Styled.text "to pass '" ++ Styled.styled .invalid arg ++ Styled.text "' as a value, use '" ++
    Styled.styled .valid ("-- " ++ arg) ++ Styled.text "'"

/-- The tip for a subcommand written after `--`. -/
def doubleDashTip (name : String) : Styled :=
  Styled.text "subcommand '" ++ Styled.styled .valid name ++ Styled.text "' exists; to use it, remove the '" ++
    Styled.styled .invalid "--" ++ Styled.text "' before it"

/-- The tip for an option that belongs to a subcommand. -/
def elsewhereTip (sub flag : String) : Styled :=
  Styled.text "'" ++ Styled.styled .valid (sub ++ " " ++ flag) ++ Styled.text "' exists"

end CanDecoder.Args
