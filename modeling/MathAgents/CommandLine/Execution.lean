import MathAgents.Agent.Transcriber
import MathAgents.CommandLine.Invocation
import MathAgents.Endpoint.Basic
import MathAgents.Host.AttachedFile
import MathAgents.Session.Service
import MathAgents.Settings.Sources
import MathAgents.Tool.Calculator

namespace MathAgents.CommandLine

/-!
# Carrying out commands

Every command works on one turn and prints what the user is to see of it.  What a command does is
a function of the host and of what its transport brings; evaluation needs neither.
-/

/-- Why a command fails. -/
inductive CommandError where
  | turn (e : TurnError)
  | attachment (path : String) (fault : FileFault)
  deriving DecidableEq, Repr

namespace CommandError

/-- The message of an error. -/
def message : CommandError → String
  | turn e => e.message
  | attachment path _ => s!"Failed to read attachment {path}"

/-- The message of an error with what caused it. -/
def report : CommandError → String
  | turn e => e.message
  | attachment path fault =>
    (attachment path fault).message ++ "\n\nCaused by:\n    " ++ fault.message

end CommandError

/-- What a command leaves. -/
structure Outcome where
  /-- What it prints. -/
  output : String := ""
  /-- What it logs as errors, in order. -/
  log : List String := []
  error : Option CommandError := none

namespace Outcome

/-- The outcome of a command that fails before it does anything. -/
def failure (e : CommandError) : Outcome := { error := some e }

/-- The status that the program exits with. -/
def exitStatus (o : Outcome) : Nat := if o.error.isSome then 1 else 0

end Outcome

/-- Events as they are printed, one a line. -/
def printEvents (events : List Event) : String :=
  String.join (events.map fun e => e.render ++ "\n")

/-- Evaluates an expression and prints the report on it. -/
def eval (expression : String) : Outcome :=
  match Expr.evaluate expression with
  | .ok report => { output := report.toJson.printPretty ++ "\n" }
  | .error e =>
    { output := e.toFailure.toJson.printPretty ++ "\n"
      error := some (.turn (.ofEvalError e)) }

open Endpoint (Transport)

variable {σ : Type}

/-- The endpoint that settings name; there is none without a credential. -/
def endpoint (settings : Settings) : Except CommandError Endpoint :=
  match settings.credential with
  | .ok key => .ok (.ofSettings settings key)
  | .error e => .error (.turn e.toTurnError)

/-- The settings that hold for an invocation. -/
def settings (host : Host) (config : Option String) : Except CommandError Settings :=
  (Settings.load host config).mapError fun e => .turn e.toTurnError

/-- Runs the agents on a prompt. -/
def runPrompt (t : Transport σ) (s : Settings) (prompt session user : String)
    (kind : Option PipelineKind) : StateM σ Outcome := do
  match endpoint s with
  | .error e => return .failure e
  | .ok endpoint =>
    let crew := Crew.build (kind.getD s.run.kind) s.crew (endpoint.provider t)
    let (ending, _) ← SessionService.runTurn crew session user (.user prompt) {}
    match ending.outcome with
    | .ok report => return { output := printEvents report.events, log := ending.log }
    | .error e => return { log := ending.log, error := some (.turn e) }

/-- Transcribes images. -/
def transcribe (t : Transport σ) (host : Host) (s : Settings) (prompt session user : String)
    (images : List String) : StateM σ Outcome := do
  match host.attachments images with
  | .error (path, fault) => return .failure (.attachment path fault)
  | .ok attachments =>
    match endpoint s with
    | .error e => return .failure e
    | .ok endpoint =>
      let agent := Agent.transcriber (endpoint.provider t) s.model.temperature
      let context : Context :=
        { sessionId := session, userId := user, request := prompt, attachments }
      let service := (SessionService.create {} user session).2
      let (outcome, state, _) := agent.invoke context (← get, service.state)
      set state
      match outcome with
      | .ok output => return { output := printEvents [.message agent.name output.text] }
      | .error e => return .failure (.turn (e.toTurnError agent.name))

/-- Carries out what the arguments ask for. -/
def Invocation.carryOut (t : Transport σ) (host : Host) (i : Invocation) : StateM σ Outcome :=
  match i.command with
  | .eval expression => return eval expression
  | .run prompt session user kind =>
    match settings host i.config with
    | .error e => return .failure e
    | .ok s => runPrompt t s prompt session user kind
  | .transcribe prompt session user images =>
    match settings host i.config with
    | .error e => return .failure e
    | .ok s => transcribe t host s prompt session user images

end MathAgents.CommandLine
