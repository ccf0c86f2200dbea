import MathAgents.Chat.Provider
import MathAgents.Turn.Context
import MathAgents.Turn.Error

namespace MathAgents

/-!
# Agents

An agent does one kind of work on a turn: it takes the context and gives an output or a failure.
What it consults on the way, such as a provider, acts on a state of a type of its own.
-/

/-- The kinds of work that agents do. -/
inductive Role where
  | math
  | poet
  | narrator
  | transcriber
  | controller
  deriving DecidableEq, Repr

namespace Role

/-- Every role. -/
def all : List Role := [math, poet, narrator, transcriber, controller]

/-- The name of an agent in events, tool calls and the audit trail. -/
def agentName : Role → String
  | math => "math_agent"
  | poet => "poetry_agent"
  | narrator => "synthesizer_agent"
  | transcriber => "ocr_agent"
  | controller => "reasoning_tool_orchestrator"

/-- The name of a role in written data. -/
def dataName : Role → String
  | math => "math"
  | poet => "creative_writing"
  | narrator => "synthesizer"
  | transcriber => "image_transcription"
  | controller => "reasoning_controller"

end Role

/-- What an agent produces. -/
inductive Output where
  | reply (text : String)
  /-- A call of another agent as a tool. -/
  | toolCall (request : ToolRequest)
  /-- The turn is handed over to the narrator. -/
  | delegate (note : String)

namespace Output

/-- The text of an output. -/
def text : Output → String
  | reply t => t
  | toolCall r => r.toJson.print
  | delegate note => note

/-- The output as the audit trail records it. -/
def value : Output → Json
  | reply t => .obj [("reply", .str t)]
  | toolCall r => .object [("tool_call", r.toJson)]
  | delegate note => .obj [("delegate", .str note)]

end Output

/-- Why an agent fails. -/
inductive AgentError where
  /-- The provider failed. -/
  | invocation (e : Chat.ProviderError)
  /-- A tool that the agent depends on failed, with this payload. -/
  | toolFailure (payload : Json)
  /-- The model asked for tools until it ran out of calls. -/
  | iterationLimit (calls : Nat)

namespace AgentError

/-- The message of an error. -/
def message : AgentError → String
  | invocation e => e.message
  | toolFailure payload => payload.print
  | iterationLimit calls => s!"No final answer after {calls} model calls"

/-- The error as data: the payload of a failed tool as it is, any other error by its message. -/
def payload : AgentError → Json
  | toolFailure p => p
  | e => ({ kind := "CapabilityInvocationError", message := e.message } : Failure).value

/-- The error of the turn, when the agent with this name fails it. -/
def toTurnError (e : AgentError) (agent : String) : TurnError :=
  match e with
  | invocation cause => .invocation agent cause.message
  | e => .stageFailed agent e.message

end AgentError

/-- An agent that acts on a state. -/
structure Agent (σ : Type) where
  role : Role
  invoke : Context → StateM σ (Except AgentError Output)

/-- The name of an agent. -/
def Agent.name {σ : Type} (a : Agent σ) : String := a.role.agentName

/-- The reply of a provider that is offered no tools, as the output of an agent. -/
def Agent.consult {σ : Type} (provider : Chat.Provider σ) (messages : List Chat.Message)
    (temperature : Float) : StateM σ (Except AgentError Output) := do
  match ← provider { messages, temperature } with
  | .error e => return .error (.invocation e)
  | .ok reply => return .ok (.reply reply.text)

end MathAgents
