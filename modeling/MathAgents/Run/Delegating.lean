import MathAgents.Agent.Controller
import MathAgents.Run.Progress

namespace MathAgents

/-!
# Runs led by the controller

In every round the controller decides once.  It may call the math agent or the poet as a tool; a
refused call and a failed agent come back to it as data.  When it hands over, the narrator gives
the answer and the run ends.  The poet is refused until the math agent has succeeded, and a run
without a handover ends after a fixed number of rounds.
-/

/-- How far the controller has got in a run. -/
inductive Phase where
  | idle
  /-- The math agent was called last, and it succeeded or not. -/
  | mathCalled (succeeded : Bool)
  | poetCalled
  | handedOver
  deriving DecidableEq, Repr

/-- Whether the poet may be called. -/
def Phase.allowsPoetry : Phase → Bool
  | .mathCalled true | .poetCalled => true
  | _ => false

/-- The progress of a run led by the controller. -/
structure LedProgress extends Progress where
  phase : Phase := .idle

/-- The agents of a run led by the controller, and how many rounds it has. -/
structure DelegatingCrew (σ : Type) where
  controller : Agent σ
  math : Agent σ
  poet : Agent σ
  narrator : Agent σ
  maxRounds : Nat

namespace DelegatingCrew

variable {σ : Type}

/-- A refusal of a tool call. -/
def refuse (name kind message : String) : ToolResponse := .ofFailure name { kind, message }

/-- What the poet is refused with. -/
def orderingMessage : String :=
  s!"{Role.poet.agentName} may only be called after {Role.math.agentName} has succeeded."

/-- Lets an agent work for the controller: the response, whether the agent succeeded, and the
    progress.  Nothing happens without a request to hand on. -/
def callAgent (agent : Agent σ) (r : ToolRequest) (p : Progress) :
    StateM σ (ToolResponse × Bool × Progress) := do
  match r.argument Agent.requestArgument with
  | .error e => return (refuse r.name Expr.ErrorKind.validation.name e.message, false, p)
  | .ok request =>
    match ← p.invoke agent (p.context.forTool request) with
    | (.ok output, p) =>
      let text := output.text
      return (.ofText r.name text, true, (p.tell agent.name text).contribute agent.name text)
    | (.error e, p) => return (⟨r.name, e.payload⟩, false, p)

/-- What a tool call of the controller comes to: the response and the progress. -/
def respond (crew : DelegatingCrew σ) (r : ToolRequest) (p : LedProgress) :
    StateM σ (ToolResponse × LedProgress) := do
  if r.name = Role.math.agentName then
    let (response, succeeded, q) ← callAgent crew.math r p.toProgress
    return (response, { toProgress := q, phase := .mathCalled succeeded })
  else if r.name = Role.poet.agentName then
    if p.phase.allowsPoetry then
      let (response, succeeded, q) ← callAgent crew.poet r p.toProgress
      return (response, { toProgress := q, phase := if succeeded then .poetCalled else p.phase })
    else return (refuse r.name "OrderingViolation" orderingMessage, p)
  else if r.name = Agent.transferTool then
    if r.argument? Agent.targetArgument = some Role.narrator.agentName then
      let response := Json.obj [("transferred_to", .str Role.narrator.agentName)]
      return (⟨r.name, response⟩, { p with phase := .handedOver })
    else
      let message := s!"Transfers are only allowed to {Role.narrator.agentName}."
      return (refuse r.name "UnknownAgent" message, p)
  else return (refuse r.name "UnknownTool" (ToolError.unknownTool r.name).message, p)

/-- The progress when a response has been handed to the controller: the event that shows it, and
    the exchange under the next call id. -/
def answered (p : LedProgress) (r : ToolRequest) (response : ToolResponse) : LedProgress :=
  let callId := s!"call_{p.context.exchanges.length + 1}"
  { p with
    events := p.events ++ [.toolResponse response.name response.response]
    context :=
      { p.context with exchanges := p.context.exchanges ++ [⟨callId, r, response⟩] } }

/-- Carries out a tool call of the controller. -/
def handleCall (crew : DelegatingCrew σ) (r : ToolRequest) (p : LedProgress) :
    StateM σ LedProgress := do
  let p := { p with toProgress := p.toProgress.emit (.toolCall r.name (.obj r.arguments)) }
  let (response, p) ← crew.respond r p
  return answered p r response

/-- The progress when the controller hands over with a note, which is kept unless it is blank. -/
def handOver (name note : String) (p : LedProgress) : LedProgress :=
  let q := if Text.isBlank note then p.toProgress else p.toProgress.tell name note
  { toProgress := q, phase := .handedOver }

/-- The narrator's part, which ends the run. -/
def narrate (crew : DelegatingCrew σ) (p : Progress) : StateM σ Ending := do
  let name := crew.narrator.name
  match ← p.invoke crew.narrator p.context with
  | (.ok output, p) =>
    let text := output.text
    return ((p.emit (.message name text)).contribute name text).succeed text
  | (.error e, p) => return p.fail [] (e.toTurnError name)

/-- Carries out a decision of the controller. -/
def follow (crew : DelegatingCrew σ) (output : Output) (p : LedProgress) :
    StateM σ LedProgress :=
  match output with
  | .toolCall r => crew.handleCall r p
  | .delegate note => return handOver crew.controller.name note p
  | .reply note => return handOver crew.controller.name note p

/-- Runs up to `remaining` rounds. -/
def runRounds (crew : DelegatingCrew σ) : (remaining : Nat) → LedProgress → StateM σ Ending
  | 0, p =>
    let cause := TurnError.roundsExceeded crew.maxRounds
    return p.toProgress.fail [cause.message] cause
  | remaining + 1, p => do
    match ← p.toProgress.invoke crew.controller p.context with
    | (.error e, q) =>
      return q.fail [s!"Controller failed: {e.message}"] (e.toTurnError crew.controller.name)
    | (.ok output, q) =>
      let p ← crew.follow output { p with toProgress := q }
      if p.phase = .handedOver then crew.narrate p.toProgress else crew.runRounds remaining p

/-- Runs the crew on a context. -/
def run (crew : DelegatingCrew σ) (context : Context) : StateM σ Ending :=
  crew.runRounds crew.maxRounds { context }

end DelegatingCrew

end MathAgents
