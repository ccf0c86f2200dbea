import MathAgents.Agent.Basic

namespace MathAgents.Agent

/-!
# The poet

Writes a short poem on a finished computation if the user asked for one, and otherwise declines;
which of the two is for the model to decide.
-/

/-- What the poet tells its model. -/
def poetInstructions : String :=
    "You are a whimsical poetry specialist. You receive context describing a completed math " ++
    "computation (original request, final result, operations_count). If the user explicitly " ++
    "asked for creativity, verse or celebration, write a concise uplifting poem of 3 to 5 " ++
    "lines referencing the result and the operations count. If the user did not ask for " ++
    "creativity, reply briefly that no poem was requested. If key information is missing, ask " ++
    "for clarification instead of inventing numbers."

/-- The poet. -/
def poet {σ : Type} (provider : Chat.Provider σ) (temperature : Float) : Agent σ where
  role := .poet
  invoke c := consult provider (c.messages poetInstructions) temperature

end MathAgents.Agent
