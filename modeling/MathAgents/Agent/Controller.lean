import MathAgents.Agent.Basic

namespace MathAgents.Agent

/-!
# The controller

Decides what happens next in a turn: it calls the math agent or the poet as a tool, or hands the
turn over to the narrator.  It never answers the user; a plain text from its model is a handover
with a note.
-/

/-- The tool that hands the turn over. -/
def transferTool : String := "transfer_to_agent"

/-- The argument that holds what a called agent is to do. -/
def requestArgument : String := "request"

/-- The argument that names the agent to hand over to. -/
def targetArgument : String := "agent_name"

/-- What the controller tells its model. -/
def controllerInstructions : String :=
    "Solve requests by calling tools and delegating the final answer to the synthesizer " ++
    "agent.\n- `math_agent`: send the arithmetic request and wait for its result.\n- " ++
    "`poetry_agent`: call ONLY after math succeeds and only if the user wants creativity.\n- " ++
    "`transfer_to_agent` with agent_name `synthesizer_agent`: call LAST so it can merge the " ++
    "math and optional poem into the final response. Do not write the final answer yourself."

/-- The tools that the controller offers its model. -/
def controllerTools : List ToolSpec :=
  let request := ToolSpec.textParameter requestArgument (some "Request to hand to the agent")
  [{ name := Role.math.agentName
     description :=
       "Solves arithmetic expressions (add, subtract, multiply, divide) with a " ++
       "deterministic evaluator."
     parameters := request },
   { name := Role.poet.agentName
     description := "Composes short poems that celebrate math results."
     parameters := request },
   { name := transferTool
     description := "Transfer the turn to another agent."
     parameters := ToolSpec.textParameter targetArgument none }]

/-- The messages that replay an exchange: the call, its arguments written anew, and the
    response. -/
def exchangeMessages (e : Exchange) : List Chat.Message :=
  [.assistantCall ⟨e.callId, e.request.name, (Json.obj e.request.arguments).print⟩,
   .toolResult e.response.response.print e.callId]

/-- The conversation that shows the controller's progress to its model. -/
def transcript (c : Context) : List Chat.Message :=
  .system controllerInstructions :: .user c.request :: c.exchanges.flatMap exchangeMessages

/-- The controller's decision that a reply of its model amounts to.  Arguments that cannot be
    read are no arguments. -/
def decision : Chat.Reply → Output
  | .toolCall call =>
    match ToolRequest.ofText call.name call.arguments with
    | .ok request => .toolCall request
    | .error _ => .toolCall { name := call.name }
  | .answer content => .delegate content

/-- The controller. -/
def controller {σ : Type} (provider : Chat.Provider σ) (temperature : Float) : Agent σ where
  role := .controller
  invoke c := do
    match ← provider { messages := transcript c, temperature, tools := controllerTools } with
    | .error e => return .error (.invocation e)
    | .ok reply => return .ok (decision reply)

end MathAgents.Agent
