import MathAgents.Expr.Printer
import MathAgents.Proofs.Expr.Parsing

namespace MathAgents.Expr

/-!
# Reading normal forms

The normal form of an expression is parsed as the expression itself, provided that its literals are
numerals with the values that they denote and that the limits are kept.

* `normalTokens` — the tokens of a normal form, with their depths.
* `derives_normalTokens` — the grammar derives the expression from them.
* `spells_print` — the normal form spells them.
* `parse_print` — hence the expression is parsed from its normal form.
-/

/-- Whether every literal is written as a numeral and has the value that its text denotes. -/
def WellSpelled : Expr → Prop
  | .literal text value => IsNumeral text.toList ∧ value = Decimal.ofNumeral text
  | .signed _ operand => operand.WellSpelled
  | .binary _ left right => left.WellSpelled ∧ right.WellSpelled

/-- How deep parentheses and signs nest in a part of a normal form, which nest `n` deep within its
    parentheses if it needs some. -/
def enclosedNesting (needed : Bool) (n : Nat) : Nat := if needed then n + 1 else n

/-- How deep parentheses and signs nest in the normal form of an expression. -/
def nesting : Expr → Nat
  | .literal _ _ => 0
  | .signed _ operand =>
    enclosedNesting (operand.precedence < Sign.precedence) operand.nesting + 1
  | .binary op left right =>
    max (enclosedNesting (left.precedence < op.precedence) left.nesting)
      (enclosedNesting (right.precedence ≤ op.precedence) right.nesting)

/-! ### The tokens of a normal form -/

/-- The tokens of a part of a normal form at depth `d`, in parentheses if it needs some. -/
def encloseTokens (needed : Bool) (d : Nat) (ts : Nat → List Placed) : List Placed :=
  if needed then ⟨.opening, d⟩ :: ts (d + 1) ++ [⟨.closing, d⟩] else ts d

/-- The tokens of the normal form of an expression that stands at depth `d`. -/
def normalTokens : Expr → (d : Nat) → List Placed
  | .literal text _, d => [⟨.number text, d⟩]
  | .signed sign operand, d =>
    ⟨sign.token, d⟩ ::
      encloseTokens (operand.precedence < Sign.precedence) (d + 1) operand.normalTokens
  | .binary op left right, d =>
    encloseTokens (left.precedence < op.precedence) d left.normalTokens ++
      ⟨op.token, d⟩ :: encloseTokens (right.precedence ≤ op.precedence) d right.normalTokens

variable {c : Category} {d : Nat} {ts : List Placed} {e : Expr} {cs : List Char}

/-- Tokens in parentheses stand within the depth of what they enclose, and one more. -/
theorem depth_encloseTokens {needed : Bool} {n : Nat} {f : Nat → List Placed}
    (h : ∀ d, ∀ t ∈ f d, t.depth ≤ d + n) :
    ∀ t ∈ encloseTokens needed d f, t.depth ≤ d + enclosedNesting needed n := by
  intro t ht
  cases needed with
  | false => exact h d t ht
  | true =>
    simp only [encloseTokens, enclosedNesting, if_true, List.cons_append, List.mem_cons,
      List.mem_append, List.not_mem_nil, or_false] at ht ⊢
    rcases ht with rfl | ht | rfl
    · exact Nat.le_add_right _ _
    · have := h (d + 1) t ht
      omega
    · exact Nat.le_add_right _ _

/-- The tokens of a normal form stand within its nesting. -/
theorem depth_normalTokens (e : Expr) (d : Nat) :
    ∀ t ∈ e.normalTokens d, t.depth ≤ d + e.nesting := by
  induction e generalizing d with
  | literal text value => simp [normalTokens]
  | signed sign operand ih =>
    intro t ht
    rcases List.mem_cons.mp ht with rfl | ht
    · exact Nat.le_add_right _ _
    · have := depth_encloseTokens ih t ht
      simp only [nesting]
      omega
  | binary op left right ihl ihr =>
    intro t ht
    simp only [nesting]
    rcases List.mem_append.mp ht with ht | ht
    · have := depth_encloseTokens ihl t ht
      omega
    · rcases List.mem_cons.mp ht with rfl | ht
      · exact Nat.le_add_right _ _
      · have := depth_encloseTokens ihr t ht
        omega

/-! ### The grammar derives an expression from the tokens of its normal form -/

/-- How tightly an instance of a category binds at least. -/
def Category.precedence : Category → Nat
  | .expr => 1
  | .term => 2
  | .unary => Sign.precedence
  | .primary => 4

/-- An instance of a category is one of every looser category. -/
theorem Derives.loosen : {c c' : Category} → Derives c d ts e → c'.precedence ≤ c.precedence →
    Derives c' d ts e
  | .expr, .expr, h, _ | .term, .term, h, _ | .unary, .unary, h, _ | .primary, .primary, h, _ => h
  | .term, .expr, h, _ => .term h
  | .unary, .expr, h, _ => .term (.unary h)
  | .unary, .term, h, _ => .unary h
  | .primary, .expr, h, _ => .term (.unary (.primary h))
  | .primary, .term, h, _ => .unary (.primary h)
  | .primary, .unary, h, _ => .primary h
  | .expr, .term, _, hc | .expr, .unary, _, hc | .expr, .primary, _, hc => absurd hc (by decide)
  | .term, .unary, _, hc | .term, .primary, _, hc | .unary, .primary, _, hc =>
    absurd hc (by decide)

/-- Every expression binds at least as tightly as the loosest category. -/
theorem precedence_expr_le (e : Expr) : Category.expr.precedence ≤ e.precedence := by
  show 1 ≤ e.precedence
  cases e with
  | literal | signed => simp [precedence, Sign.precedence]
  | binary op => cases op <;> simp [precedence, Operation.precedence]

/-- The category of an operation and of its left operand. -/
def operationCategory : Operation → Category
  | .add | .sub => .expr
  | .mul | .div => .term

/-- The category of the right operand of an operation. -/
def rightCategory : Operation → Category
  | .add | .sub => .term
  | .mul | .div => .unary

theorem precedence_operationCategory (op : Operation) :
    (operationCategory op).precedence = op.precedence := by
  cases op <;> rfl

theorem precedence_rightCategory (op : Operation) :
    (rightCategory op).precedence = op.precedence + 1 := by
  cases op <;> rfl

/-- An operation joins an instance of its own category with a right operand. -/
theorem Derives.operation {op : Operation} {ls rs : List Placed} {l r : Expr}
    (hl : Derives (operationCategory op) d ls l) (hr : Derives (rightCategory op) d rs r) :
    Derives (operationCategory op) d (ls ++ ⟨op.token, d⟩ :: rs) (.binary op l r) := by
  cases op with
  | add => exact .sum (.inl rfl) hl hr
  | sub => exact .sum (.inr rfl) hl hr
  | mul => exact .product (.inl rfl) hl hr
  | div => exact .product (.inr rfl) hl hr

/-- In parentheses where it binds too loosely, an expression is an instance of any category. -/
theorem Derives.enclose (h : ∀ c d, c.precedence ≤ e.precedence → Derives c d (e.normalTokens d) e)
    (c : Category) (d : Nat) :
    Derives c d (encloseTokens (e.precedence < c.precedence) d e.normalTokens) e := by
  by_cases hc : e.precedence < c.precedence
  · have hprimary : Derives .primary d _ e := .parens (h .expr (d + 1) (precedence_expr_le e))
    simp only [encloseTokens, hc, decide_true, if_true]
    exact hprimary.loosen (by cases c <;> decide)
  · simp only [encloseTokens, hc, decide_false]
    exact h c d (Nat.le_of_not_lt hc)

/-- The grammar derives an expression from the tokens of its normal form, in every category that
    does not bind more tightly. -/
theorem derives_normalTokens (hw : e.WellSpelled) (c : Category) (d : Nat)
    (hc : c.precedence ≤ e.precedence) : Derives c d (e.normalTokens d) e := by
  induction e generalizing c d with
  | literal text value =>
    obtain ⟨_, rfl⟩ := hw
    exact Derives.loosen (.number text) hc
  | signed sign operand ih =>
    have hinner := Derives.enclose (ih hw) .unary (d + 1)
    exact Derives.loosen (.sign sign hinner) hc
  | binary op left right ihl ihr =>
    -- a right operand that binds as loosely as its operation is enclosed, a left one is not
    have hl := Derives.enclose (ihl hw.1) (operationCategory op) d
    have hr := Derives.enclose (ihr hw.2) (rightCategory op) d
    rw [precedence_operationCategory] at hl
    simp only [precedence_rightCategory, Nat.lt_succ_iff] at hr
    refine Derives.loosen (Derives.operation hl hr) ?_
    rw [precedence_operationCategory]
    exact hc

/-! ### The text of a normal form spells its tokens -/

/-- Whether a text does not go on with a character of a number. -/
def Stops (cs : List Char) : Prop := ∀ c ∈ cs.head?, ¬ startsNumber c

/-- Whether a text spells some tokens in front of any text that stops a number. -/
def SpellsBefore (cs : List Char) (tokens : List Token) : Prop :=
  ∀ rest us, Stops rest → Spells rest us → Spells (cs ++ rest) (tokens ++ us)

/-- Parentheses around a text are spelled around its tokens. -/
theorem SpellsBefore.enclose (needed : Bool) {cs : List Char} {f : Nat → List Placed}
    (h : ∀ d, SpellsBefore cs ((f d).map (·.token))) (d : Nat) :
    SpellsBefore (Expr.enclose needed cs) ((encloseTokens needed d f).map (·.token)) := by
  cases needed with
  | false => exact h d
  | true =>
    intro rest us hstop hrest
    have hclose : Spells (')' :: rest) (.closing :: us) := hrest.sign rfl rfl
    have hstop' : Stops (')' :: rest) := by simp [Stops, startsNumber]
    have hopen := (h (d + 1) _ _ hstop' hclose).sign (t := .opening) (c := '(') rfl rfl
    simpa [Expr.enclose, encloseTokens] using hopen

/-- The normal form of an expression spells its tokens, whatever depth they are placed at. -/
theorem spells_printChars (hw : e.WellSpelled) (d : Nat) :
    SpellsBefore (printChars e) ((e.normalTokens d).map (·.token)) := by
  induction e generalizing d with
  | literal text value =>
    -- what follows stops a number, so the whole literal is the longest numeral
    intro rest us hstop hrest
    have hlit := Spells.number (hw.1.isLongestNumeral hstop) hrest
    simpa [printChars, normalTokens] using hlit
  | signed sign operand ih =>
    intro rest us hstop hrest
    have hinner := SpellsBefore.enclose (operand.precedence < Sign.precedence) (ih hw) (d + 1)
      rest us hstop hrest
    have hsign := hinner.sign (t := sign.token) (c := sign.symbol) (by cases sign <;> rfl)
      (by cases sign <;> rfl)
    simpa [printChars, normalTokens] using hsign
  | binary op left right ihl ihr =>
    intro rest us hstop hrest
    have hr := SpellsBefore.enclose (right.precedence ≤ op.precedence) (ihr hw.2) d
      rest us hstop hrest
    -- the blank behind the operation keeps it from being written twice in one piece
    have hop := Spells.symbol (t := op.token) (c := op.symbol) (by cases op <;> rfl)
      (by intro _; cases op <;> simp [Operation.symbol]) (.blank (c := ' ') (by decide) hr)
    have hl := SpellsBefore.enclose (left.precedence < op.precedence) (ihl hw.1) d
      _ _ (by simp [Stops, startsNumber]) (.blank (c := ' ') (by decide) hop)
    simpa [printChars, normalTokens] using hl

/-- The normal form of an expression spells exactly its tokens. -/
theorem spells_print (hw : e.WellSpelled) (d : Nat) :
    Spells (print e).toList ((e.normalTokens d).map (·.token)) := by
  have h := spells_printChars hw d [] [] (by simp [Stops]) .nil
  simpa [print] using h

/-- An expression within the limits is parsed from its normal form. -/
theorem parse_print (hw : e.WellSpelled) (hops : e.operators ≤ maxOperators)
    (hdepth : e.nesting ≤ maxNesting) : parse (print e) = .ok e := by
  have hd : Derives .expr 0 (e.normalTokens 0) e :=
    derives_normalTokens hw .expr 0 (precedence_expr_le e)
  refine parse_eq_ok_iff_tokens.mpr ⟨_, spells_print hw 0, ofTokens_of_derives hd ?_ ?_⟩
  · rw [hd.operators_eq]
    exact hops
  · intro t ht
    have := depth_normalTokens e 0 t ht
    omega

end MathAgents.Expr
