import MathAgents.Decimal.Notation
import MathAgents.Expr.Error
import MathAgents.Expr.Printer

namespace MathAgents

/-!
# Evaluating expressions

Operands are evaluated before their operator, the left one first, and every operator leaves one
step in the trace.  Evaluation ends at the first literal or result that is not finite and at the
first division by zero; then there is no partial result.
-/

/-- The value of a sign in front of an operand. -/
def Sign.apply : Sign → Float → Float
  | .plus, x => x
  | .minus, x => -x

/-- The value of an operation on two operands. -/
def Operation.apply : Operation → Float → Float → Except Expr.EvalError Float
  | .add, x, y => .ok (x + y)
  | .sub, x, y => .ok (x - y)
  | .mul, x, y => .ok (x * y)
  | .div, x, y => if y == 0 then .error .divisionByZero else .ok (x / y)

namespace Expr

/-- One step of an evaluation: what was computed, as text, and the value. -/
structure Step where
  text : String
  value : Float
  deriving DecidableEq

/-- The value of an expression together with the steps that led to it. -/
structure Reduction where
  value : Float
  /-- The number of operations carried out; signs do not count. -/
  operations : Nat
  steps : List Step
  deriving DecidableEq

/-- A value as traces show it. -/
def showValue (x : Float) : String := Decimal.Notation.trace.write x

/-- An operand as the step of its operator shows it: a literal as it is written, anything else by
    its value. -/
def showOperand (e : Expr) (value : Float) : String :=
  match e with
  | .literal text _ => text
  | _ => showValue value

/-- A value that has to be finite; `source` names it if it is not. -/
def requireFinite (value : Float) (source : String) : Except EvalError Float :=
  if value.isFinite then .ok value else .error (.overflow source)

/-- The value of an expression, with its steps. -/
def reduce : Expr → Except EvalError Reduction
  | .literal text value => do
    return ⟨← requireFinite value text, 0, []⟩
  | .signed sign operand => do
    let inner ← reduce operand
    let value := sign.apply inner.value
    let step := ⟨s!"{print (.signed sign operand)} = {showValue value}", value⟩
    return ⟨value, inner.operations, inner.steps ++ [step]⟩
  | .binary op left right => do
    let l ← reduce left
    let r ← reduce right
    let result ← op.apply l.value r.value
    let text := s!"{showOperand left l.value} {op.traceSymbol} {showOperand right r.value}"
    let value ← requireFinite result text
    let step := ⟨s!"{text} = {showValue value}", value⟩
    return ⟨value, l.operations + r.operations + 1, l.steps ++ r.steps ++ [step]⟩

/-- What an evaluation reports. -/
structure Evaluation where
  /-- The normal form of the expression. -/
  expression : String
  value : Float
  /-- The number of operations; signs do not count. -/
  operations : Nat
  /-- The steps, operands before their operator. -/
  steps : List Step
  deriving DecidableEq

/-- The report on an expression. -/
def evaluateTree (e : Expr) : Except EvalError Evaluation := do
  let r ← reduce e
  return ⟨print e, r.value, r.operations, r.steps⟩

/-- The report on the expression that a text denotes. -/
def evaluate (source : String) : Except EvalError Evaluation := do
  evaluateTree (← parse source)

end Expr

end MathAgents
