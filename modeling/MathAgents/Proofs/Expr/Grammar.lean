import MathAgents.Decimal.Numeral
import MathAgents.Expr.Token

namespace MathAgents

/-!
# The grammar of expressions

```text
expr    := term (('+' | '-') term)*
term    := unary (('*' | '/') unary)*
unary   := ('+' | '-') unary | primary
primary := NUMBER | '(' expr ')'
```

`Expr.Derives c d ts e` says that the tokens `ts` are an instance of the category `c` whose tree is
`e`.  Every token is paired with its depth, the number of parentheses and signs around it, and `d`
is the depth at which the instance stands.  A repetition is derived from its left end on: one more
operand behind an instance of the same category, which is how operators of equal precedence group
to the left.

* `Expr.Derives.operators_eq` — a tree has as many signs and operations as its tokens.
* `Expr.Derives.exists_depth_le` — some token stands at least as deep as the instance.
-/

/-- The token of an operation. -/
def Operation.token : Operation → Expr.Token
  | .add => .plus
  | .sub => .minus
  | .mul => .star
  | .div => .slash

/-- The token of a sign. -/
def Sign.token : Sign → Expr.Token
  | .plus => .plus
  | .minus => .minus

namespace Expr

/-- Whether a token is an operator, as a sign or as an operation. -/
def Token.isOperator : Token → Bool
  | .plus | .minus | .star | .slash => true
  | .number _ | .opening | .closing => false

@[simp] theorem Token.isOperator_operation (op : Operation) : op.token.isOperator = true := by
  cases op <;> rfl

@[simp] theorem Token.isOperator_sign (s : Sign) : s.token.isOperator = true := by
  cases s <;> rfl

/-- A token with its depth: the number of parentheses and signs around it. -/
structure Placed where
  token : Token
  depth : Nat
  deriving DecidableEq, Repr

/-- How many operators there are among some tokens. -/
def operatorCount (ts : List Placed) : Nat := ts.countP (·.token.isOperator)

@[simp] theorem operatorCount_append (ts us : List Placed) :
    operatorCount (ts ++ us) = operatorCount ts + operatorCount us :=
  List.countP_append

@[simp] theorem operatorCount_nil : operatorCount [] = 0 := rfl

@[simp] theorem operatorCount_cons (t : Placed) (ts : List Placed) :
    operatorCount (t :: ts) = operatorCount ts + if t.token.isOperator then 1 else 0 :=
  List.countP_cons

/-- The categories of the grammar, the loosest one first. -/
inductive Category where
  | expr
  | term
  | unary
  | primary
  deriving DecidableEq, Repr

/-- The instances of a category at a depth, as tokens with their depths, and their trees. -/
inductive Derives : Category → Nat → List Placed → Expr → Prop
  | term {d : Nat} {ts : List Placed} {e : Expr} (h : Derives .term d ts e) : Derives .expr d ts e
  | sum {d : Nat} {ls rs : List Placed} {l r : Expr} {op : Operation} (hop : op = .add ∨ op = .sub)
      (hl : Derives .expr d ls l) (hr : Derives .term d rs r) :
      Derives .expr d (ls ++ ⟨op.token, d⟩ :: rs) (.binary op l r)
  | unary {d : Nat} {ts : List Placed} {e : Expr} (h : Derives .unary d ts e) : Derives .term d ts e
  | product {d : Nat} {ls rs : List Placed} {l r : Expr} {op : Operation}
      (hop : op = .mul ∨ op = .div) (hl : Derives .term d ls l) (hr : Derives .unary d rs r) :
      Derives .term d (ls ++ ⟨op.token, d⟩ :: rs) (.binary op l r)
  | primary {d : Nat} {ts : List Placed} {e : Expr} (h : Derives .primary d ts e) :
      Derives .unary d ts e
  | sign {d : Nat} {ts : List Placed} {e : Expr} (s : Sign) (h : Derives .unary (d + 1) ts e) :
      Derives .unary d (⟨s.token, d⟩ :: ts) (.signed s e)
  | number {d : Nat} (text : String) :
      Derives .primary d [⟨.number text, d⟩] (.literal text (Decimal.ofNumeral text))
  | parens {d : Nat} {ts : List Placed} {e : Expr} (h : Derives .expr (d + 1) ts e) :
      Derives .primary d (⟨.opening, d⟩ :: ts ++ [⟨.closing, d⟩]) e

/-- The number of signs and operations in an expression. -/
def operators : Expr → Nat
  | .literal _ _ => 0
  | .signed _ operand => operand.operators + 1
  | .binary _ left right => left.operators + right.operators + 1

variable {c : Category} {d : Nat} {ts : List Placed} {e : Expr}

/-- **Operators.** A tree has one sign or operation for each operator among its tokens. -/
theorem Derives.operators_eq (h : Derives c d ts e) : operatorCount ts = e.operators := by
  induction h with
  | term _ ih | unary _ ih | primary _ ih => exact ih
  | sum _ _ _ ihl ihr | product _ _ _ ihl ihr =>
    simp [operators, ihl, ihr]
    omega
  | sign s _ ih => simp [operators, ih]
  | number text => rfl
  | parens _ ih => simp [ih, Token.isOperator]

/-- Some token of an instance stands at least as deep as the instance itself. -/
theorem Derives.exists_depth_le (h : Derives c d ts e) : ∃ t ∈ ts, d ≤ t.depth := by
  induction h with
  | term _ ih | unary _ ih | primary _ ih => exact ih
  | sum | product => exact ⟨_, List.mem_append_right _ List.mem_cons_self, Nat.le_refl _⟩
  | sign | number | parens => exact ⟨_, List.mem_cons_self, Nat.le_refl _⟩

/-- An instance has at least one token. -/
theorem Derives.ne_nil (h : Derives c d ts e) : ts ≠ [] := by
  obtain ⟨t, ht, _⟩ := h.exists_depth_le
  exact List.ne_nil_of_mem ht

end Expr

end MathAgents
