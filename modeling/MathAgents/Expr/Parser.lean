import MathAgents.Decimal.Numeral
import MathAgents.Expr.Token

namespace MathAgents.Expr

/-!
# Reading expressions from tokens

```text
expr    := term (('+' | '-') term)*
term    := unary (('*' | '/') unary)*
unary   := ('+' | '-') unary | primary
primary := NUMBER | '(' expr ')'
```

The reader is a machine that takes one token at a time, so that it is a fold over its input.
Its state holds the open parentheses, outermost last, and for each of them what waits for a right
operand: at most one sum, at most one product, and the signs written last.  It stops at the first
token that no expression within the limits can continue with.
-/

/-- How many parentheses and signs may stand around a token. -/
def maxNesting : Nat := 200

/-- How many operators, signs included, an expression may have. -/
def maxOperators : Nat := 500

/-- Why tokens are no expression. -/
inductive ParseFault where
  | unexpected (token : Token)
  | unexpectedEnd
  | expectedClosing (found : Token)
  | unbalanced
  | tooDeep
  | tooManyOperators
  deriving DecidableEq, Repr

/-- The wording of a fault. -/
def ParseFault.detail : ParseFault → String
  | .unexpected token => s!"unexpected {token.describe}"
  | .unexpectedEnd => "unexpected end of expression"
  | .expectedClosing found => s!"expected ')' but found {found.describe}"
  | .unbalanced => "unbalanced parentheses"
  | .tooDeep => "expression is nested too deeply"
  | .tooManyOperators => s!"expression has more than {maxOperators} operators"

/-- What waits for a right operand between one parenthesis and the next. -/
structure Level where
  /-- The parentheses and the signs around this level. -/
  nesting : Nat
  sum : Option (Expr × Operation) := none
  product : Option (Expr × Operation) := none
  /-- The signs in front of the next operand, the nearest first. -/
  signs : List Sign := []

namespace Level

/-- The parentheses and the signs around the next operand. -/
def depth (l : Level) : Nat := l.nesting + l.signs.length

/-- A left operand joined with a right one, if there is a left one. -/
def join (left : Option (Expr × Operation)) (right : Expr) : Expr :=
  match left with
  | none => right
  | some (e, op) => .binary op e right

/-- The value of the term so far, when `operand` is the operand that the level waits for. -/
def term (l : Level) (operand : Expr) : Expr :=
  join l.product (l.signs.foldl (fun e sign => .signed sign e) operand)

/-- The level when the operand that it waited for has been read. -/
def settled (l : Level) : Level := { l with product := none, signs := [] }

end Level

/-- The state of the reader between two tokens. -/
structure ParseState where
  /-- The term read last, or nothing where an operand has to follow. -/
  current : Option Expr := none
  level : Level := { nesting := 0 }
  /-- The levels around the open parentheses, the innermost first. -/
  outer : List Level := []
  operators : Nat := 0

namespace ParseState

/-- The state with one more operator. -/
def countOperator (s : ParseState) : Except ParseFault ParseState :=
  if s.operators < maxOperators then .ok { s with operators := s.operators + 1 }
  else .error .tooManyOperators

/-- Refuses to go deeper than the limit. -/
def checkDepth (s : ParseState) : Except ParseFault Unit :=
  if s.level.depth < maxNesting then .ok () else .error .tooDeep

/-- The state when the operand that it waited for has been read. -/
def supply (s : ParseState) (operand : Expr) : ParseState :=
  { s with current := some (s.level.term operand), level := s.level.settled }

/-- A sign where an operand has to follow. -/
def sign (s : ParseState) (sign : Sign) : Except ParseFault ParseState := do
  let s ← s.countOperator
  s.checkDepth
  return { s with level := { s.level with signs := sign :: s.level.signs } }

/-- An opening parenthesis where an operand has to follow. -/
def openLevel (s : ParseState) : Except ParseFault ParseState := do
  s.checkDepth
  return { s with level := { nesting := s.level.depth + 1 }, outer := s.level :: s.outer }

/-- An operation that binds tightly, behind a term. -/
def times (s : ParseState) (e : Expr) (op : Operation) : Except ParseFault ParseState := do
  let s ← s.countOperator
  return { s with current := none, level := { s.level with product := some (e, op) } }

/-- An operation that binds loosely, behind a term. -/
def plus (s : ParseState) (e : Expr) (op : Operation) : Except ParseFault ParseState := do
  let s ← s.countOperator
  return { s with
    current := none
    level := { s.level with sum := some (Level.join s.level.sum e, op) } }

/-- The state after one more token. -/
def step (s : ParseState) (token : Token) : Except ParseFault ParseState :=
  match s.current with
  | none =>
    match token with
    | .number text => .ok (s.supply (.literal text (Decimal.ofNumeral text)))
    | .plus => s.sign .plus
    | .minus => s.sign .minus
    | .opening => s.openLevel
    | _ => .error (.unexpected token)
  | some e =>
    match token with
    | .star => s.times e .mul
    | .slash => s.times e .div
    | .plus => s.plus e .add
    | .minus => s.plus e .sub
    | _ =>
      match s.outer, token with
      | [], _ => .error (.unexpected token)
      | l :: ls, .closing =>
        let inner := Level.join s.level.sum e
        .ok ({ s with level := l, outer := ls }.supply inner)
      | _ :: _, _ => .error (.expectedClosing token)

/-- The expression that has been read when the tokens end. -/
def finish (s : ParseState) : Except ParseFault Expr :=
  match s.current, s.outer with
  | none, _ => .error .unexpectedEnd
  | some _, _ :: _ => .error .unbalanced
  | some e, [] => .ok (Level.join s.level.sum e)

end ParseState

/-- The expression that a list of tokens denotes. -/
def ofTokens (tokens : List Token) : Except ParseFault Expr := do
  (← tokens.foldlM ParseState.step {}).finish

end MathAgents.Expr
