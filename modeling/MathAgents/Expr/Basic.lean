namespace MathAgents

/-!
# Arithmetic expressions

Trees of numbers, signs and the four operations.  A literal keeps the text it was written with
beside its value, so that a tree can be written down again as its author wrote it.
-/

/-- One of the four arithmetic operations. -/
inductive Operation where
  | add
  | sub
  | mul
  | div
  deriving DecidableEq, Repr

/-- A sign in front of an operand. -/
inductive Sign where
  | plus
  | minus
  deriving DecidableEq, Repr

/-- An arithmetic expression. -/
inductive Expr where
  | literal (text : String) (value : Float)
  | signed (sign : Sign) (operand : Expr)
  | binary (op : Operation) (left right : Expr)
  deriving DecidableEq

namespace Operation

/-- The symbol of an operation in expressions. -/
def symbol : Operation → Char
  | .add => '+'
  | .sub => '-'
  | .mul => '*'
  | .div => '/'

/-- The symbol of an operation in evaluation traces. -/
def traceSymbol : Operation → Char
  | .add => '+'
  | .sub => '-'
  | .mul => '×'
  | .div => '÷'

/-- How tightly an operation binds. -/
def precedence : Operation → Nat
  | .add | .sub => 1
  | .mul | .div => 2

end Operation

namespace Sign

/-- The symbol of a sign. -/
def symbol : Sign → Char
  | .plus => '+'
  | .minus => '-'

/-- How tightly a sign binds: more than any operation. -/
def precedence : Nat := 3

end Sign

namespace Expr

/-- How tightly the outermost operator of an expression binds. -/
def precedence : Expr → Nat
  | .literal _ _ => 4
  | .signed _ _ => Sign.precedence
  | .binary op _ _ => op.precedence

/-- The number of operations in an expression; signs do not count. -/
def operationCount : Expr → Nat
  | .literal _ _ => 0
  | .signed _ operand => operand.operationCount
  | .binary _ left right => 1 + left.operationCount + right.operationCount

end Expr

end MathAgents
