import MathAgents.Expr.Evaluation
import MathAgents.Tool.Request
import MathAgents.Tool.Response
import MathAgents.Tool.Spec

namespace MathAgents

/-!
# The calculator

Evaluation as a tool: the request names an expression, and the response is the report on it or a
failure.  `Calculator.call` always answers, so that a model can react to a failure.
-/

namespace Expr

/-- The report on an expression as a JSON value, its fields in the order of their declaration. -/
def Evaluation.toJson (e : Evaluation) : Json :=
  .obj
    [("expression", .str e.expression),
     ("result", .ofFloat e.value),
     ("operations_count", .ofNat e.operations),
     ("steps", .arr (e.steps.map fun step => .str step.text))]

/-- An evaluation error as tools report it. -/
def EvalError.toFailure (e : EvalError) : Failure :=
  { kind := e.kind.name, reason := some e.reason, message := e.message }

end Expr

namespace Calculator

/-- The name of the tool. -/
def toolName : String := "compute_basic_math"

/-- The name of its argument. -/
def argumentName : String := "expression"

/-- How the tool is offered to models. -/
def spec : ToolSpec where
  name := toolName
  description :=
    "Evaluate an arithmetic expression composed of numbers, +, -, *, / and parentheses. " ++
    "Returns the normalized expression, the result, the number of operations and each step."
  parameters :=
    ToolSpec.textParameter argumentName (some "Arithmetic expression, e.g. '(10 - 4) / 3'")

/-- What the tool answers for an expression. -/
def answer (expression : String) : Json :=
  match Expr.evaluate expression with
  | .ok report => report.toJson.canonical
  | .error e => e.toFailure.value

/-- What the tool answers to a request. -/
def call (r : ToolRequest) : ToolResponse :=
  match r.argument argumentName with
  | .ok expression => ⟨toolName, answer expression⟩
  | .error e =>
    .ofFailure toolName
      { kind := Expr.ErrorKind.validation.name
        reason := some Expr.Refusal.emptyInput.name
        message := e.message }

end Calculator

end MathAgents
