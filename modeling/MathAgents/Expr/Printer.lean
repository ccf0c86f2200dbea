import MathAgents.Expr.Basic

namespace MathAgents.Expr

/-!
# Writing expressions

The normal form of an expression: one space on either side of an operation, none behind a sign,
and only the parentheses that reading the text back needs.  Operations group to the left, so a
right operand that binds as loosely as its operation is put in parentheses, and a left operand
only if it binds more loosely.
-/

/-- A text in parentheses, if they are needed. -/
def enclose (needed : Bool) (cs : List Char) : List Char :=
  if needed then '(' :: cs ++ [')'] else cs

/-- The normal form of an expression. -/
def printChars : Expr → List Char
  | .literal text _ => text.toList
  | .signed sign operand =>
    sign.symbol :: enclose (operand.precedence < Sign.precedence) (printChars operand)
  | .binary op left right =>
    enclose (left.precedence < op.precedence) (printChars left) ++
      ' ' :: op.symbol :: ' ' ::
        enclose (right.precedence ≤ op.precedence) (printChars right)

/-- The normal form of an expression. -/
def print (e : Expr) : String := String.ofList (printChars e)

example : print (.binary .sub (.literal "1" 1) (.binary .sub (.literal "2" 2) (.literal "3" 3))) =
    "1 - (2 - 3)" := by decide +kernel
example : print (.signed .minus (.binary .add (.literal "2" 2) (.literal "3" 3))) =
    "-(2 + 3)" := by decide +kernel

end MathAgents.Expr
