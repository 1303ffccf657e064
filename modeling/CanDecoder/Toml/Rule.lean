/-!
# Step rules over bytes

A TOML document is read by rules: a rule starts at a byte offset and either consumes a
prefix, giving a result and the offset after it, or fails. A failure carries the offset
where reading stopped, what was being read (a label such as `integer`) and what would have
been accepted there, innermost first, and possibly the cause of a value that did not fit.

A failure either lets an enclosing choice try its next branch or, once it is cut, ends
the whole read: a rule cuts when what it has seen leaves no other reading. The offset of
a failure is where the reading stood when it gave up; the few rules that step back on
failure (a lookahead, a check on a result) move it back with them.
-/

namespace CanDecoder.Toml

/-- One piece of what a failing rule was reading. -/
inductive Context where
  /-- The construct being read. -/
  | label (name : String)
  /-- Something that would have been accepted, as shown to the reader. -/
  | expected (what : String)
  deriving Repr

/-- Why reading failed. -/
structure Fault where
  /-- Where reading stood when it gave up. -/
  pos : Nat
  /-- What was being read, innermost first. -/
  context : List Context := []
  /-- The cause, for a value that did not fit. -/
  cause : Option String := none
  /-- Whether the failure ends the whole read. -/
  cut : Bool := false
  deriving Repr

/-- The text of a failure: `invalid` and the innermost label, then what was expected,
then the cause, each on its own line. -/
def Fault.message (f : Fault) : String :=
  let label := f.context.findSome? fun
    | .label name => some name
    | .expected _ => none
  let expected := f.context.filterMap fun
    | .expected what => some what
    | .label _ => none
  let parts := (label.map ("invalid " ++ ·)).toList ++
    (if expected.isEmpty then [] else ["expected " ++ ", ".intercalate expected]) ++
    f.cause.toList
  "\n".intercalate parts

/-- How an expected character is shown. -/
def charShown (c : Char) : String :=
  if c = '\n' then "newline" else "`" ++ c.toString ++ "`"

/-- A rule: from an offset, a result and the offset after it, or a failure. -/
def Rule (α : Type) : Type := Nat → Except Fault (α × Nat)

instance : Monad Rule where
  pure a := fun i => .ok (a, i)
  bind p f := fun i =>
    match p i with
    | .ok (a, j) => f a j
    | .error e => .error e

namespace Rule

/-- The current offset. -/
def offset : Rule Nat := fun i => .ok (i, i)

/-- Fail where reading stands. -/
def fail {α} : Rule α := fun i => .error { pos := i }

/-- Fail at `pos`. -/
def failAt {α} (pos : Nat) (cause : Option String) (cut : Bool) : Rule α := fun _ =>
  .error { pos := pos, cause := cause, cut := cut }

/-- Fail where reading stands, with a cause. -/
def failWith {α} (cause : String) : Rule α := fun i => .error { pos := i, cause := some cause }

/-- Try `p`, then `q` from the same offset if `p` failed without cutting. A failure of
both is the failure of `q`. -/
def orElse {α} (p q : Rule α) : Rule α := fun i =>
  match p i with
  | .error e => if e.cut then .error e else q i
  | ok => ok

/-- `p`, or nothing if it failed without cutting. -/
def opt {α} (p : Rule α) : Rule (Option α) := fun i =>
  match p i with
  | .ok (a, j) => .ok (some a, j)
  | .error e => if e.cut then .error e else .ok (none, i)

/-- `p`, whose failures end the whole read. -/
def cut {α} (p : Rule α) : Rule α := fun i =>
  match p i with
  | .error e => .error { e with cut := true }
  | ok => ok

/-- `p`, adding `c` to what its failures were reading. -/
def within {α} (p : Rule α) (c : Context) : Rule α := fun i =>
  match p i with
  | .error e => .error { e with context := e.context ++ [c] }
  | ok => ok

/-- `p`, failing with `p`'s label `name`. -/
def labelled {α} (p : Rule α) (name : String) : Rule α := p.within (.label name)

/-- `p`, adding an expected thing to its failures. -/
def expecting {α} (p : Rule α) (what : String) : Rule α := p.within (.expected what)

/-- `p` without moving: the offset goes back both on success and on failure. -/
def peek {α} (p : Rule α) : Rule α := fun i =>
  match p i with
  | .ok (a, _) => .ok (a, i)
  | .error e => .error { e with pos := i }

/-- `p` followed by a check of its result; a failed check steps back to where `p` began,
with the check's cause. -/
def check {α β} (p : Rule α) (f : α → Except String β) : Rule β := fun i =>
  match p i with
  | .ok (a, j) =>
    match f a with
    | .ok b => .ok (b, j)
    | .error cause => .error { pos := i, cause := some cause }
  | .error e => .error e

/-- `p` with a test of its result; a failed test steps back to where `p` began. -/
def ensure {α} (p : Rule α) (ok : α → Bool) : Rule α := fun i =>
  match p i with
  | .ok (a, j) => if ok a then .ok (a, j) else .error { pos := i }
  | .error e => .error e

/-- `p` and the span `[start, stop)` it consumed. -/
def spanned {α} (p : Rule α) : Rule (α × Nat × Nat) := fun i =>
  match p i with
  | .ok (a, j) => .ok ((a, i, j), j)
  | .error e => .error e

/-- `p`, then `q` on what `p` consumed; a failure of `q` steps back to where `p` began. -/
def reread {α β} (p : Rule α) (q : α → Except Fault β) : Rule β := fun i =>
  match p i with
  | .ok (a, j) =>
    match q a with
    | .ok b => .ok (b, j)
    | .error e => .error { e with pos := i }
  | .error e => .error e

/-- `p` repeated while it succeeds and consumes, at most `bound` times; a failure without
a cut ends the repetition where that attempt began. -/
def many {α} (p : Rule α) (bound : Nat) : Rule (List α) := fun i =>
  let rec go (acc : List α) (i : Nat) : Nat → Except Fault (List α × Nat)
    | 0 => .ok (acc.reverse, i)
    | fuel + 1 =>
      match p i with
      | .ok (a, j) => if j = i then .ok (acc.reverse, i) else go (a :: acc) j fuel
      | .error e => if e.cut then .error e else .ok (acc.reverse, i)
  go [] i bound

/-- One `p`, then more `p`s each after a `sep`, at most `bound` more. When a `sep` or the
`p` after it fails without a cut, the list ends before that `sep`. -/
def sepBy1 {α β} (p : Rule α) (sep : Rule β) (bound : Nat) : Rule (List α) := fun i =>
  let rec go (acc : List α) (i : Nat) : Nat → Except Fault (List α × Nat)
    | 0 => .ok (acc.reverse, i)
    | fuel + 1 =>
      match sep i with
      | .error e => if e.cut then .error e else .ok (acc.reverse, i)
      | .ok (_, j) =>
        match p j with
        | .error e => if e.cut then .error e else .ok (acc.reverse, i)
        | .ok (a, k) => go (a :: acc) k fuel
  match p i with
  | .error e => .error e
  | .ok (a, j) => go [a] j bound

/-- Like `sepBy1`, but an empty list when the first `p` fails without a cut. -/
def sepBy {α β} (p : Rule α) (sep : Rule β) (bound : Nat) : Rule (List α) := fun i =>
  match sepBy1 p sep bound i with
  | .error e => if e.cut then .error e else .ok ([], i)
  | ok => ok

end Rule

end CanDecoder.Toml
