import MathAgents.Expr.Parser

namespace MathAgents.Expr

/-!
# Why an evaluation fails

A text is refused before evaluation, or evaluation leaves the finite numbers.  Every error has a
kind, a reason and a message; the message of a malformed text quotes all of it.
-/

/-- What kind of failure an evaluation error is. -/
inductive ErrorKind where
  | validation
  | arithmetic
  deriving DecidableEq, Repr

/-- The name of a kind of failure. -/
def ErrorKind.name : ErrorKind → String
  | .validation => "ValidationError"
  | .arithmetic => "ArithmeticError"

/-- Why a text is refused before it is evaluated. -/
inductive Refusal where
  | emptyInput
  | syntaxError
  | unsupportedOperator
  deriving DecidableEq, Repr

/-- The name of a reason for refusal. -/
def Refusal.name : Refusal → String
  | .emptyInput => "EmptyInput"
  | .syntaxError => "SyntaxError"
  | .unsupportedOperator => "UnsupportedOperator"

/-- Why an evaluation fails. -/
inductive EvalError where
  | emptyInput
  | malformed (source detail : String)
  | unsupported (symbol : String)
  | divisionByZero
  | overflow (source : String)
  deriving DecidableEq, Repr

namespace EvalError

/-- The message of an error. -/
def message : EvalError → String
  | .emptyInput => "Expression must be a non-empty string."
  | .malformed source detail => s!"Invalid expression '{source}': {detail}"
  | .unsupported symbol => s!"Unsupported operator: {symbol}"
  | .divisionByZero => "Division by zero is not allowed."
  | .overflow source => s!"Result of '{source}' is not a finite number."

/-- The reason for refusal, for the errors that are found before evaluation. -/
def refusal? : EvalError → Option Refusal
  | .emptyInput => some .emptyInput
  | .malformed _ _ => some .syntaxError
  | .unsupported _ => some .unsupportedOperator
  | .divisionByZero | .overflow _ => none

/-- The kind of an error. -/
def kind (e : EvalError) : ErrorKind :=
  if e.refusal?.isSome then .validation else .arithmetic

/-- The name of the reason for an error. -/
def reason : EvalError → String
  | .emptyInput => Refusal.emptyInput.name
  | .malformed _ _ => Refusal.syntaxError.name
  | .unsupported _ => Refusal.unsupportedOperator.name
  | .divisionByZero => "DivisionByZero"
  | .overflow _ => "Overflow"

end EvalError

/-- The expression that a text denotes.  A text of blanks alone is refused as empty; otherwise a
    fault among the tokens is reported before anything else. -/
def parse (source : String) : Except EvalError Expr :=
  if Text.isBlank source then .error .emptyInput
  else match Token.scan source.toList with
    | .error (.unsupported symbol) => .error (.unsupported symbol)
    | .error fault => .error (.malformed source fault.detail)
    | .ok tokens =>
      match ofTokens tokens with
      | .error fault => .error (.malformed source fault.detail)
      | .ok e => .ok e

end MathAgents.Expr
