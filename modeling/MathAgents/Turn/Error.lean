import MathAgents.Expr.Error

namespace MathAgents

/-!
# Why a turn is not answered

The errors that reach the user, each with its message, a hint at what to do, and whether the
user can do it without changing the configuration.
-/

/-- Why a turn is not answered. -/
inductive TurnError where
  | validation (reason : Expr.Refusal) (detail : String)
  | arithmetic (detail : String)
  | configuration (detail : String)
  /-- The provider failed an agent. -/
  | invocation (agent detail : String)
  /-- An agent failed on its own. -/
  | stageFailed (stage detail : String)
  | roundsExceeded (rounds : Nat)
  | io (detail : String)
  deriving DecidableEq, Repr

namespace TurnError

/-- The message of an error. -/
def message : TurnError → String
  | validation reason detail => s!"Validation error ({reason.name}): {detail}"
  | arithmetic detail => s!"Arithmetic error: {detail}"
  | configuration detail => s!"Configuration error: {detail}"
  | invocation agent detail => s!"Capability '{agent}' invocation failed: {detail}"
  | stageFailed stage detail => s!"Stage '{stage}' failed: {detail}"
  | roundsExceeded rounds => s!"Controller did not delegate within {rounds} rounds"
  | io detail => s!"IO error: {detail}"

/-- What the user can do about an error. -/
def hint : TurnError → String
  | validation .emptyInput _ => "Provide a non-empty arithmetic expression"
  | validation .syntaxError _ =>
    "Check the expression for unbalanced parentheses or stray characters"
  | validation .unsupportedOperator _ => "Only +, -, *, / and parentheses are supported"
  | arithmetic _ => "The expression divides by zero or exceeds the numeric range"
  | configuration _ => "Set OPENAI_API_KEY or check your config file"
  | invocation _ _ => "The inference provider failed. Check your API key and network"
  | stageFailed _ _ => "A pipeline stage failed; no answer was produced"
  | roundsExceeded _ => "The controller never handed off. Try rephrasing"
  | io _ => "File system operation failed"

/-- Whether another request can succeed under the same configuration. -/
def isRecoverable : TurnError → Bool
  | configuration _ => false
  | _ => true

/-- An evaluation error as the user sees it. -/
def ofEvalError (e : Expr.EvalError) : TurnError :=
  match e.refusal? with
  | some reason => validation reason e.message
  | none => arithmetic e.message

end TurnError

end MathAgents
