import MathAgents.Chat.Message
import MathAgents.Tool.Spec

namespace MathAgents.Chat

/-!
# Providers

A provider answers queries, one after the other.  What it answers may depend on everything that
went before, so a provider acts on a state of its own.
-/

/-- Why a provider fails. -/
inductive ProviderError where
  | authentication (detail : String)
  | rateLimit
  | invalidRequest (detail : String)
  | network (detail : String)
  | unreadable (detail : String)
  | unknown (detail : String)
  deriving DecidableEq, Repr

/-- The message of an error. -/
def ProviderError.message : ProviderError → String
  | .authentication detail => s!"Authentication failed: {detail}"
  | .rateLimit => "Rate limit exceeded"
  | .invalidRequest detail => s!"Invalid request: {detail}"
  | .network detail => s!"Network error: {detail}"
  | .unreadable detail => s!"Parse error: {detail}"
  | .unknown detail => s!"Unknown error: {detail}"

/-- What a model is asked. -/
structure Query where
  messages : List Message
  temperature : Float
  tools : List ToolSpec := []

/-- A provider that acts on a state. -/
abbrev Provider (σ : Type) := Query → StateM σ (Except ProviderError Reply)

end MathAgents.Chat
