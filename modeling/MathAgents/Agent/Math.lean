import MathAgents.Agent.Basic
import MathAgents.Tool.Calculator

namespace MathAgents.Agent

/-!
# The math agent

A model turns the request into an expression and calls the calculator.  Whatever a call comes to
is fed back to the model, so that it can react; the agent ends with the model's first answer that
is no tool call.  It fails when the last call failed, with the payload of that call, and when the
model uses up its calls without an answer.
-/

/-- What the math agent tells its model. -/
def mathInstructions : String :=
    "You are a meticulous math specialist. Rewrite the request as an arithmetic expression " ++
    "using only numbers, +, -, *, / and parentheses, then call `compute_basic_math` with it. " ++
    "Do not answer before the tool returns. Summarize the normalized expression, walk through " ++
    "each step and state the result together with operations_count. Address the orchestrator, " ++
    "not the end user. If the request cannot be expressed with the supported operations, " ++
    "explain the limitation. Finish with \"math agent complete\"."

/-- What a tool call of the math agent's model comes to.  Only the calculator is on offer, and
    its arguments have to be a readable object. -/
def answerMathCall (call : Chat.ToolCall) : ToolResponse :=
  if call.name = Calculator.toolName then
    match ToolRequest.ofText call.name call.arguments with
    | .ok request => Calculator.call request
    | .error e =>
      .ofFailure call.name
        { kind := Expr.ErrorKind.validation.name
          reason := some Expr.Refusal.syntaxError.name
          message := e.message }
  else
    .ofFailure call.name
      { kind := "UnknownTool", message := (ToolError.unknownTool call.name).message }

/-- What the model is asked, given the conversation so far. -/
def mathQuery (temperature : Float) (messages : List Chat.Message) : Chat.Query :=
  { messages, temperature, tools := [Calculator.spec] }

/-- The messages that record a tool call and what it came to. -/
def callMessages (call : Chat.ToolCall) (response : ToolResponse) : List Chat.Message :=
  [.assistantCall call, .toolResult response.response.print call.id]

/-- The output of the agent when its model gives an answer after a last tool call. -/
def concludeMath (last : Option ToolResponse) (content : String) : Except AgentError Output :=
  match last with
  | some response =>
    if response.isError then .error (.toolFailure response.response) else .ok (.reply content)
  | none => .ok (.reply content)

/-- Asks the model up to `remaining` times; `limit` is the number of calls it had at first. -/
def mathLoop {σ : Type} (provider : Chat.Provider σ) (temperature : Float) (limit : Nat) :
    (remaining : Nat) → List Chat.Message → (last : Option ToolResponse) →
      StateM σ (Except AgentError Output)
  | 0, _, _ => return .error (.iterationLimit limit)
  | remaining + 1, messages, last => do
    match ← provider (mathQuery temperature messages) with
    | .error e => return .error (.invocation e)
    | .ok (.answer content) => return concludeMath last content
    | .ok (.toolCall call) =>
      let response := answerMathCall call
      mathLoop provider temperature limit remaining (messages ++ callMessages call response)
        (some response)

/-- The math agent, with the number of calls its model has for one invocation. -/
def math {σ : Type} (provider : Chat.Provider σ) (temperature : Float) (limit : Nat) :
    Agent σ where
  role := .math
  invoke c := mathLoop provider temperature limit limit (c.messages mathInstructions) none

end MathAgents.Agent
