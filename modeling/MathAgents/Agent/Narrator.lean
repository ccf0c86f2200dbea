import MathAgents.Agent.Basic

namespace MathAgents.Agent

/-!
# The narrator

Merges what the other agents said into the one answer that the user gets.
-/

/-- What the narrator tells its model. -/
def narratorInstructions : String :=
    "You are the final narrator. Review the latest replies from math_agent and poetry_agent, " ++
    "if present. Give a clear numeric summary of the math result, mentioning the number of " ++
    "operations when available. If a poem was provided, quote or paraphrase it; otherwise " ++
    "mention that no poem was requested. Close with encouraging language so the user has a " ++
    "complete answer in one message."

/-- The narrator. -/
def narrator {σ : Type} (provider : Chat.Provider σ) (temperature : Float) : Agent σ where
  role := .narrator
  invoke c := consult provider (c.messages narratorInstructions) temperature

end MathAgents.Agent
