namespace MathAgents.CommandLine

/-!
# Switches and words

The arguments of one level of a command line: switches, some of them with values, and words.  A
switch has a long name behind two dashes and perhaps a short one behind a single dash; behind a
bare pair of dashes every argument is a word.  A value is judged only when the next switch or word
comes, so that an argument that is not known at all is reported first.
-/

/-- Why arguments name no command to carry out. -/
inductive Usage where
  | helpAsked
  | versionAsked
  | nothingGiven
  | missingCommand
  | unknownCommand
  | missingWord
  | unknownArgument
  | invalidValue
  | surplusValue
  | repeated
  deriving DecidableEq, Repr

/-- What a switch does. -/
inductive Effect where
  /-- It is given or not. -/
  | flag
  /-- It has a value that passes a test, and is given once. -/
  | single (test : String → Bool)
  /-- It has a value that passes a test each time it is given. -/
  | repeatable (test : String → Bool)
  | help
  | version

/-- A switch. -/
structure Switch where
  long : String
  short : Option Char := none
  effect : Effect

/-- Whether a switch has a value. -/
def Switch.hasValue (s : Switch) : Bool :=
  match s.effect with
  | .single _ | .repeatable _ => true
  | _ => false

/-- What may be given at one level of a command line. -/
structure Level where
  switches : List Switch
  /-- How many words there are. -/
  words : Nat := 0
  /-- The commands that may follow. -/
  commands : List String := []

/-- What was given at a level so far. -/
structure Given where
  /-- The switches with their values, the first one first; a flag has an empty value. -/
  switches : List (String × String) := []
  words : List String := []
  /-- The switch that was given last, with its value if it has come, before it is judged. -/
  pending : Option (Switch × Option String) := none
  /-- Whether every further argument is a word. -/
  literal : Bool := false

namespace Given

/-- Whether a switch was given. -/
def has (g : Given) (long : String) : Bool := g.switches.any (·.1 == long)

/-- The value that a switch was given. -/
def value? (g : Given) (long : String) : Option String := g.switches.lookup long

/-- All values that a switch was given. -/
def values (g : Given) (long : String) : List String :=
  (g.switches.filter (·.1 == long)).map (·.2)

/-- Whether the next argument may be a value. -/
def awaits (g : Given) : Bool :=
  match g.pending with
  | some (_, none) => true
  | _ => false

/-- Takes in a switch with its value. -/
def accept (g : Given) (s : Switch) (value : String) : Except Usage Given :=
  let added := { g with switches := g.switches ++ [(s.long, value)], pending := none }
  match s.effect with
  | .help => .error .helpAsked
  | .version => .error .versionAsked
  | .flag => if g.has s.long then .error .repeated else .ok added
  | .single test =>
    if g.has s.long then .error .repeated
    else if test value then .ok added
    else .error .invalidValue
  | .repeatable test => if test value then .ok added else .error .invalidValue

/-- Judges the switch that is pending. -/
def settle (g : Given) : Except Usage Given :=
  match g.pending with
  | none => .ok g
  | some (_, none) => .error .invalidValue
  | some (s, some value) => g.accept s value

/-- Takes in a switch that may have its value in the same argument. -/
def take (g : Given) (s : Switch) (attached : Option String) : Except Usage Given :=
  if s.hasValue then do
    let g ← g.settle
    match attached with
    | some value => g.accept s value
    | none => return { g with pending := some (s, none) }
  else
    match attached with
    | some _ => .error .surplusValue
    | none => do (← g.settle).accept s ""

/-- Takes in a long switch, behind its dashes. -/
def takeLong (level : Level) (g : Given) (cs : List Char) : Except Usage Given :=
  let name := String.ofList (cs.takeWhile (· != '='))
  let attached := match cs.dropWhile (· != '=') with
    | [] => none
    | _ :: value => some (String.ofList value)
  match level.switches.find? (·.long == name) with
  | none => .error .unknownArgument
  | some s => g.take s attached

/-- The value behind a short switch in the same argument. -/
def attachedValue : List Char → Option String
  | [] => none
  | '=' :: cs => some (String.ofList cs)
  | cs => some (String.ofList cs)

/-- Takes in a run of short switches, behind their dash. -/
def takeShort (level : Level) (g : Given) : List Char → Except Usage Given
  | [] => .ok g
  | c :: cs =>
    match level.switches.find? (·.short == some c) with
    | none => .error .unknownArgument
    | some s =>
      if s.hasValue then g.take s (attachedValue cs)
      else do takeShort level (← g.take s none) cs

/-- Takes in a word. -/
def takeWord (level : Level) (g : Given) (word : String) : Except Usage Given :=
  if g.words.length < level.words then do
    let g ← g.settle
    return { g with words := g.words ++ [word] }
  else if level.commands.isEmpty then .error .unknownArgument
  else if g.literal ∧ level.commands.contains word then .error .unknownArgument
  else .error .unknownCommand

/-- Takes in an argument that is no command. -/
def takeArgument (level : Level) (g : Given) (argument : String) : Except Usage Given :=
  if g.literal then g.takeWord level argument
  else
    match argument.toList with
    | ['-', '-'] => .ok { g with literal := true }
    | '-' :: '-' :: cs => g.takeLong level cs
    | '-' :: c :: cs => takeShort level g (c :: cs)
    | _ =>
      match g.pending with
      | some (s, none) => .ok { g with pending := some (s, some argument) }
      | _ => g.takeWord level argument

/-- Whether an argument is a command here. -/
def isCommand (level : Level) (g : Given) (argument : String) : Bool :=
  !g.literal && !g.awaits && level.commands.contains argument

end Given

/-- What is given at a level, with the command that follows and its arguments. -/
def Level.read (level : Level) (g : Given) :
    List String → Except Usage (Given × Option (String × List String))
  | [] => .ok (g, none)
  | argument :: rest =>
    if g.isCommand level argument then .ok (g, some (argument, rest))
    else do level.read (← g.takeArgument level argument) rest

end MathAgents.CommandLine
