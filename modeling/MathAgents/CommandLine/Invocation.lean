import MathAgents.CommandLine.Switch
import MathAgents.Run.Crew

namespace MathAgents.CommandLine

/-!
# Invocations

The commands of the program, and the reading of its arguments.  Two switches may stand before the
command or behind it; of two values the one behind the command counts.
-/

/-- A command. -/
inductive Command where
  /-- Runs the agents on a prompt. -/
  | run (prompt session user : String) (kind : Option PipelineKind)
  /-- Transcribes images. -/
  | transcribe (prompt session user : String) (images : List String)
  /-- Evaluates an expression. -/
  | eval (expression : String)
  deriving DecidableEq, Repr

/-- What the arguments ask for. -/
structure Invocation where
  debug : Bool
  /-- The path of the settings file. -/
  config : Option String
  command : Command
  deriving DecidableEq, Repr

/-- The session that is used where none is given. -/
def defaultSession : String := "demo-session"

/-- The user that is assumed where none is given. -/
def defaultUser : String := "demo-user"

/-! ### What may be given -/

/-- Whether a value may be a path. -/
def isPath (value : String) : Bool := !value.isEmpty

/-- The switches that may stand at either level. -/
def globalSwitches : List Switch :=
  [{ long := "debug", effect := .flag }, { long := "config", effect := .single isPath },
   { long := "help", short := some 'h', effect := .help }]

/-- The switches that name a session and a user. -/
def sessionSwitches : List Switch :=
  [{ long := "session", short := some 's', effect := .single fun _ => true },
   { long := "user", short := some 'u', effect := .single fun _ => true }]

/-- What may stand in front of a command. -/
def topLevel : Level where
  switches := { long := "version", short := some 'V', effect := .version } :: globalSwitches
  commands := ["run", "transcribe", "eval", "help"]

/-- What may stand behind the command that runs the agents. -/
def runLevel : Level where
  switches :=
    { long := "pipeline", effect := .single fun v => (PipelineKind.ofName? v).isSome } ::
      sessionSwitches ++ globalSwitches
  words := 1

/-- What may stand behind the command that transcribes images. -/
def transcribeLevel : Level where
  switches :=
    { long := "image", effect := .repeatable isPath } :: sessionSwitches ++ globalSwitches
  words := 1

/-- What may stand behind the command that evaluates an expression. -/
def evalLevel : Level where
  switches := globalSwitches
  words := 1

/-! ### Reading -/

/-- What asking for help with some commands comes to. -/
def helpWith : List String → Usage
  | [] => .helpAsked
  | [name] => if topLevel.commands.contains name then .helpAsked else .unknownCommand
  | _ => .unknownCommand

/-- The word that a command needs, and everything that was given behind the command. -/
def readCommand (level : Level) (arguments : List String) : Except Usage (String × Given) := do
  let (given, _) ← level.read {} arguments
  let given ← given.settle
  match given.words with
  | [] => throw .missingWord
  | word :: _ => return (word, given)

/-- The command with a name, and what was given behind it. -/
def commandOf (name : String) (arguments : List String) : Except Usage (Command × Given) := do
  let session (g : Given) : String := (g.value? "session").getD defaultSession
  let user (g : Given) : String := (g.value? "user").getD defaultUser
  if name = "run" then
    let (prompt, g) ← readCommand runLevel arguments
    return (.run prompt (session g) (user g) ((g.value? "pipeline").bind PipelineKind.ofName?), g)
  else if name = "transcribe" then
    let (prompt, g) ← readCommand transcribeLevel arguments
    return (.transcribe prompt (session g) (user g) (g.values "image"), g)
  else if name = "eval" then
    let (expression, g) ← readCommand evalLevel arguments
    return (.eval expression, g)
  else throw (helpWith arguments)

/-- What the arguments of the program ask for. -/
def Invocation.ofArguments (arguments : List String) : Except Usage Invocation := do
  let (top, command) ← topLevel.read {} arguments
  match command with
  | none =>
    let top ← top.settle
    throw (if top.switches.isEmpty then .nothingGiven else .missingCommand)
  | some (name, rest) =>
    let (command, given) ← commandOf name rest
    let top ← top.settle
    return {
      debug := top.has "debug" || given.has "debug"
      config := (given.value? "config").or (top.value? "config")
      command }

/-! ### When there is nothing to carry out -/

/-- What the program calls itself, with its version. -/
def versionText : String := "mathcrew 0.1.0\n"

/-- How the program is used. -/
def helpText : String :=
  "Usage: mathcrew [--debug] [--config PATH] COMMAND\n\n" ++
  "Commands:\n" ++
  "  run PROMPT [-s SESSION] [-u USER] [--pipeline sequential|tool-driven]\n" ++
  "  transcribe PROMPT [-s SESSION] [-u USER] [--image FILE]...\n" ++
  "  eval EXPRESSION\n"

namespace Usage

/-- What is printed in place of a command's output. -/
def output : Usage → String
  | helpAsked => helpText
  | versionAsked => versionText
  | _ => ""

/-- The status that the program exits with. -/
def exitStatus : Usage → Nat
  | helpAsked | versionAsked => 0
  | _ => 2

end Usage

end MathAgents.CommandLine
