/-!
# Options of commands

A command takes options, which are named, and at most one operand, which is not. An option may be
written `--name value`, `--name=value`, `-n value`, `-nvalue` or `-n=value`; flags have no value,
and the short names of several may share one hyphen. Behind two hyphens that stand alone everything
is an operand. No option may be given twice.

* `CommandShape` — what a command takes;
* `Reading.take` — one word of a command line;
* `CommandShape.read` — all words: what was given, or why the command is not to be carried out. The
  first reason counts, whether it is a mistake or a request for help.
-/

namespace RelayDevice

/-- An option of a command. -/
structure CommandOption where
  /-- The name behind two hyphens. -/
  name : String
  /-- The name behind one hyphen. -/
  letter : Option Char
  /-- What the value is called; flags have none. -/
  value : Option String
  /-- Whether a text may be the value. -/
  accepts : String → Bool
  /-- Whether it must be given. -/
  isRequired : Bool
  /-- What it is for. -/
  purpose : String

/-- What a command takes. -/
structure CommandShape where
  /-- The name of the command. -/
  name : String
  /-- What the command does. -/
  purpose : String
  /-- What the operand is called and what it is for, if there is one; then it must be given. -/
  operand : Option (String × String)
  /-- The options. -/
  options : List CommandOption

/-- Why a command is not to be carried out. -/
inductive Hindrance
  | mistake
  | helpWanted
deriving DecidableEq, Repr

/-- What was given to a command. -/
structure Given where
  /-- The options by name, with their values; flags have empty ones. -/
  options : List (String × String)
  /-- The operands. -/
  operands : List String
deriving DecidableEq, Repr

namespace Given

/-- The value of an option. -/
def value? (g : Given) (name : String) : Option String := List.lookup name g.options

/-- Whether a flag was given. -/
def hasFlag (g : Given) (name : String) : Bool := (g.value? name).isSome

end Given

/-- A command line that is being read. -/
structure Reading where
  given : Given
  /-- An option whose value is the next word. -/
  pending : Option CommandOption
  /-- Whether all further words are operands. -/
  onlyOperands : Bool

namespace Reading

/-- A command line of which nothing was read. -/
def start : Reading := ⟨⟨[], []⟩, none, false⟩

/-- Adds an option with its value. -/
def add (r : Reading) (o : CommandOption) (value : String) : Except Hindrance Reading :=
  if r.pending.isSome || r.given.hasFlag o.name || !o.accepts value then .error .mistake
  else .ok { r with given := { r.given with options := r.given.options ++ [(o.name, value)] } }

/-- Meets an option whose value is the next word. -/
def expect (r : Reading) (o : CommandOption) : Except Hindrance Reading :=
  if r.pending.isSome then .error .mistake else .ok { r with pending := some o }

/-- Meets a wish for help. -/
def wish (r : Reading) : Except Hindrance Reading :=
  .error (if r.pending.isSome then .mistake else .helpWanted)

/-- Takes an operand. -/
def addOperand (s : CommandShape) (r : Reading) (word : String) : Except Hindrance Reading :=
  if r.pending.isSome || s.operand.isNone || !r.given.operands.isEmpty then .error .mistake
  else .ok { r with given := { r.given with operands := [word] } }

/-- Takes what stands behind two hyphens: a name, perhaps with a value behind an equals sign. -/
def takeLong (s : CommandShape) (r : Reading) (cs : List Char) : Except Hindrance Reading :=
  let name := String.ofList (cs.takeWhile (· ≠ '='))
  let attached := match cs.dropWhile (· ≠ '=') with
    | [] => none
    | _ :: value => some (String.ofList value)
  if name = "help" then if attached.isSome then .error .mistake else r.wish
  else
    match s.options.find? (·.name = name) with
    | none => .error .mistake
    | some o =>
      match o.value, attached with
      | none, none => r.add o ""
      | none, some _ => .error .mistake
      | some _, some value => r.add o value
      | some _, none => r.expect o

/-- Takes what stands behind one hyphen: short names of flags, and perhaps that of an option with
the beginning of its value. -/
def takeShort (s : CommandShape) (r : Reading) : List Char → Except Hindrance Reading
  | [] => .ok r
  | c :: rest =>
    if c = 'h' then r.wish
    else
      match s.options.find? (·.letter = some c) with
      | none => .error .mistake
      | some o =>
        match o.value, rest with
        | none, rest =>
          match r.add o "" with
          | .ok r => takeShort s r rest
          | .error e => .error e
        | some _, [] => r.expect o
        | some _, '=' :: value => r.add o (String.ofList value)
        | some _, value => r.add o (String.ofList value)

/-- Takes one word. -/
def take (s : CommandShape) (r : Reading) (word : String) : Except Hindrance Reading :=
  if r.onlyOperands then r.addOperand s word
  else
    match word.toList with
    | ['-', '-'] => .ok { r with onlyOperands := true }
    | '-' :: '-' :: cs => r.takeLong s cs
    | '-' :: c :: cs => r.takeShort s (c :: cs)
    | _ =>
      match r.pending with
      | some o => { r with pending := none }.add o word
      | none => r.addOperand s word

/-- What was given in the end: no value may be missing, and nothing that is required. -/
def finish (s : CommandShape) (r : Reading) : Except Hindrance Given :=
  if r.pending.isSome || (s.operand.isSome && r.given.operands.isEmpty)
    || s.options.any (fun o => o.isRequired && !r.given.hasFlag o.name)
  then .error .mistake
  else .ok r.given

end Reading

namespace CommandShape

/-- What the words of a command line give to a command. -/
def read (s : CommandShape) (words : List String) : Except Hindrance Given := do
  (← words.foldlM (Reading.take s) .start).finish s

end CommandShape

end RelayDevice
