import MathAgents.Expr.Evaluation
import MathAgents.Proofs.Decimal.Finite
import MathAgents.Proofs.Expr.Grammar
import MathAgents.Proofs.Outcome

namespace MathAgents

/-!
# What an evaluation reports

The value of an expression is computed in floating-point arithmetic from the values of its parts,
and so is its trace, whether or not they are finite.  A node offends if it is a literal that is not
finite, a division by zero, or an operation whose value is not finite.  An evaluation reports the
value and the trace unless some node offends, and else the offence that comes first when operands
are visited before their operator.

* `Expr.reduce_eq` — reducing an expression, by the first offence among its nodes.
* `Expr.isFinite_value` — without an offence every value is finite.
* `Expr.evaluateTree_reference` — what is reported on an expression, and when.
-/

/-- The value of an operation in floating-point arithmetic. -/
def Operation.eval : Operation → Float → Float → Float
  | .add, x, y => x + y
  | .sub, x, y => x - y
  | .mul, x, y => x * y
  | .div, x, y => x / y

/-- An operation has its value unless it divides by zero. -/
theorem Operation.apply_eq (op : Operation) (x y : Float) :
    op.apply x y =
      if op = .div ∧ y == 0 then .error .divisionByZero else .ok (op.eval x y) := by
  cases op with
  | add | sub | mul => rfl
  | div => simp [Operation.apply, Operation.eval]

/-- A sign keeps finite values finite. -/
theorem Sign.isFinite_apply (s : Sign) (x : Float) : (s.apply x).isFinite = x.isFinite := by
  cases s with
  | plus => rfl
  | minus => exact Decimal.isFinite_neg x

namespace Expr

/-! ### Values, nodes and steps -/

/-- The value of an expression in floating-point arithmetic, whether or not it is finite. -/
def value : Expr → Float
  | .literal _ value => value
  | .signed sign operand => sign.apply operand.value
  | .binary op left right => op.eval left.value right.value

/-- The nodes of an expression, operands before their operator and the left one first. -/
def postOrder : Expr → List Expr
  | .literal text value => [.literal text value]
  | .signed sign operand => operand.postOrder ++ [.signed sign operand]
  | .binary op left right => left.postOrder ++ right.postOrder ++ [.binary op left right]

/-- Whether a node is a literal. -/
def isLiteral : Expr → Bool
  | .literal _ _ => true
  | .signed _ _ | .binary _ _ _ => false

/-- An operand in the step of its operator: a literal as it is written, anything else by its
    value. -/
def shown : Expr → String
  | .literal text _ => text
  | e => showValue e.value

/-- What an operation does to its operands, as its step says it. -/
def operationText (op : Operation) (left right : Expr) : String :=
  s!"{left.shown} {op.traceSymbol} {right.shown}"

/-- The step of a sign. -/
def signedStep (sign : Sign) (operand : Expr) : Step :=
  let value := (signed sign operand).value
  ⟨s!"{print (signed sign operand)} = {showValue value}", value⟩

/-- The step of an operation. -/
def binaryStep (op : Operation) (left right : Expr) : Step :=
  let value := (binary op left right).value
  ⟨s!"{operationText op left right} = {showValue value}", value⟩

/-- The trace of an expression: the steps of its operands, and then its own. -/
def trace : Expr → List Step
  | .literal _ _ => []
  | .signed sign operand => operand.trace ++ [signedStep sign operand]
  | .binary op left right => left.trace ++ right.trace ++ [binaryStep op left right]

variable {e : Expr} {f : EvalError}

/-- The text of an operand that has been evaluated is the one that its value gives. -/
theorem showOperand_value (e : Expr) : showOperand e e.value = e.shown := by
  cases e <;> rfl

/-- There is one step for each sign and operation. -/
theorem length_trace (e : Expr) : e.trace.length = e.operators := by
  induction e with
  | literal text value => rfl
  | signed sign operand ih => simp [trace, operators, ih]
  | binary op left right ihl ihr =>
    simp [trace, operators, ihl, ihr]
    omega

/-- The steps have the values of the signs and operations, in order. -/
theorem map_value_trace (e : Expr) :
    e.trace.map (·.value) = (e.postOrder.filter (!·.isLiteral)).map value := by
  induction e with
  | literal text value => rfl
  | signed sign operand ih => simp [trace, postOrder, ih, isLiteral, signedStep]
  | binary op left right ihl ihr => simp [trace, postOrder, ihl, ihr, isLiteral, binaryStep]

/-! ### Offences -/

/-- How a node offends, its operands aside. -/
inductive Offends : Expr → EvalError → Prop
  | literal {text : String} {value : Float} (h : ¬ value.isFinite) :
      Offends (.literal text value) (.overflow text)
  | division {left right : Expr} (h : right.value == 0) :
      Offends (.binary .div left right) .divisionByZero
  | operation {op : Operation} {left right : Expr} (hzero : ¬ (op = .div ∧ right.value == 0))
      (h : ¬ (binary op left right).value.isFinite) :
      Offends (.binary op left right) (.overflow (operationText op left right))

/-- Whether a node offends: a literal or the value of an operation that is not finite, or a division
    by zero of either sign. -/
def IsOffending (e : Expr) : Prop := ∃ f, Offends e f

/-- The offence of a node, if it offends. -/
def offence? : Expr → Option EvalError
  | .literal text value => if value.isFinite then none else some (.overflow text)
  | .signed _ _ => none
  | .binary op left right =>
    if op = .div ∧ right.value == 0 then some .divisionByZero
    else if (binary op left right).value.isFinite then none
    else some (.overflow (operationText op left right))

/-- A node has an offence exactly if it offends that way. -/
theorem offence?_eq_some_iff : e.offence? = some f ↔ Offends e f := by
  constructor
  · intro h
    cases e with
    | literal text value =>
      by_cases hv : value.isFinite
      · simp [offence?, hv] at h
      · obtain rfl : EvalError.overflow text = f := by simpa [offence?, hv] using h
        exact .literal hv
    | signed sign operand => cases h
    | binary op left right =>
      by_cases hz : op = .div ∧ right.value == 0
      · obtain rfl : EvalError.divisionByZero = f := by simpa [offence?, hz] using h
        obtain ⟨rfl, hz⟩ := hz
        exact .division hz
      · by_cases hv : (binary op left right).value.isFinite
        · simp [offence?, hz, hv] at h
        · obtain rfl : EvalError.overflow (operationText op left right) = f := by
            simpa [offence?, hz, hv] using h
          exact .operation hz hv
  · intro h
    cases h with
    | literal hv => simp [offence?, hv]
    | division hz => simp [offence?, hz]
    | operation hz hv => simp [offence?, hz, hv]

/-- A node has no offence exactly if it does not offend. -/
theorem offence?_eq_none_iff : e.offence? = none ↔ ¬ e.IsOffending := by
  unfold IsOffending
  simp only [← offence?_eq_some_iff, ← Option.isSome_iff_exists, Option.not_isSome_iff_eq_none]

/-! ### Evaluation -/

/-- **Reduction.** An expression is reduced to its value and its trace unless a node of it offends,
    and else the first offence is found. -/
theorem reduce_eq (e : Expr) :
    reduce e =
      match e.postOrder.findSome? offence? with
      | some f => .error f
      | none => .ok ⟨e.value, e.operationCount, e.trace⟩ := by
  induction e with
  | literal text v =>
    rw [postOrder, List.findSome?_singleton, offence?]
    unfold reduce requireFinite
    by_cases hv : v.isFinite
    · rw [if_pos hv, if_pos hv]
      rfl
    · rw [if_neg hv, if_neg hv]
      rfl
  | signed sign operand ih =>
    unfold reduce
    rw [ih, postOrder, List.findSome?_append]
    cases operand.postOrder.findSome? offence? with
    | some f => rfl
    | none => rfl
  | binary op left right ihl ihr =>
    unfold reduce
    rw [ihl, ihr, postOrder, List.findSome?_append, List.findSome?_append]
    -- an offence in the left operand comes first, then one in the right operand
    cases left.postOrder.findSome? offence? with
    | some f => rfl
    | none =>
      cases right.postOrder.findSome? offence? with
      | some f => rfl
      | none =>
        -- both operands are reduced, so the operation itself decides
        simp only [Except.bind, bind, showOperand_value, Operation.apply_eq, Option.none_or,
          List.findSome?_singleton]
        by_cases hz : op = .div ∧ right.value == 0
        · rw [if_pos hz, offence?, if_pos hz]
        · rw [if_neg hz, offence?, if_neg hz]
          by_cases hv : (binary op left right).value.isFinite
          · have hresult : (op.eval left.value right.value).isFinite := hv
            have hcount : left.operationCount + right.operationCount + 1 =
                (binary op left right).operationCount := by
              simp only [operationCount]
              omega
            simp only [requireFinite, if_pos hresult, if_pos hv, hcount]
            rfl
          · have hresult : ¬ (op.eval left.value right.value).isFinite := hv
            simp only [requireFinite, if_neg hresult, if_neg hv]
            rfl

example : (reduce (.binary .add (.literal "2" 2) (.binary .mul (.literal "3" 3)
    (.literal "4" 4)))).toOption.map (·.steps.map (·.text)) =
      some ["3 × 4 = 12.0", "2 + 12.0 = 14.0"] := by decide +kernel

/-- An expression is one of its own nodes. -/
theorem self_mem_postOrder (e : Expr) : e ∈ e.postOrder := by
  cases e <;> simp [postOrder]

/-- Where no node offends, every node has a finite value. -/
theorem isFinite_value (h : ∀ n ∈ e.postOrder, ¬ n.IsOffending) :
    ∀ n ∈ e.postOrder, n.value.isFinite := by
  induction e with
  | literal text v =>
    intro n hn
    obtain rfl := List.mem_singleton.mp hn
    by_cases hv : v.isFinite
    · exact hv
    · exact absurd ⟨_, .literal hv⟩ (h _ hn)
  | signed sign operand ih =>
    -- a sign offends in no way, so its value is finite because that of its operand is
    have hinner := ih fun n hn => h n (List.mem_append_left _ hn)
    intro n hn
    rcases List.mem_append.mp hn with hn | hn
    · exact hinner n hn
    · obtain rfl := List.mem_singleton.mp hn
      rw [value, Sign.isFinite_apply]
      exact hinner operand (self_mem_postOrder operand)
  | binary op left right ihl ihr =>
    intro n hn
    simp only [postOrder, List.mem_append, List.mem_singleton] at h hn
    rcases hn with (hn | hn) | rfl
    · exact ihl (fun n hn => h n (.inl (.inl hn))) n hn
    · exact ihr (fun n hn => h n (.inl (.inr hn))) n hn
    · have hself := h _ (.inr rfl)
      by_cases hz : op = .div ∧ right.value == 0
      · obtain ⟨rfl, hz⟩ := hz
        exact absurd ⟨_, .division hz⟩ hself
      · by_cases hv : (binary op left right).value.isFinite
        · exact hv
        · exact absurd ⟨_, .operation hz hv⟩ hself

/-- The steps of an evaluation have finite values where no node offends. -/
theorem isFinite_of_mem_trace (h : ∀ n ∈ e.postOrder, ¬ n.IsOffending) {s : Step}
    (hs : s ∈ e.trace) : s.value.isFinite := by
  have hv : s.value ∈ e.trace.map (·.value) := List.mem_map_of_mem hs
  rw [map_value_trace] at hv
  obtain ⟨n, hn, hvalue⟩ := List.mem_map.mp hv
  rw [← hvalue]
  exact isFinite_value h n (List.mem_filter.mp hn).1

/-- An expression is evaluated exactly if none of its nodes offends. -/
theorem evaluateTree_eq_ok_iff {r : Evaluation} :
    evaluateTree e = .ok r ↔
      (∀ n ∈ e.postOrder, ¬ n.IsOffending) ∧
        r = ⟨print e, e.value, e.operationCount, e.trace⟩ := by
  have hnone : e.postOrder.findSome? offence? = none ↔ ∀ n ∈ e.postOrder, ¬ n.IsOffending := by
    simp only [List.findSome?_eq_none_iff, offence?_eq_none_iff]
  rw [← hnone, evaluateTree, reduce_eq]
  cases e.postOrder.findSome? offence? with
  | some f => simp [bind, Except.bind]
  | none => simp [bind, Except.bind, pure, Except.pure, eq_comm]

/-- An evaluation fails with the offence of the first offending node. -/
theorem evaluateTree_eq_error_iff :
    evaluateTree e = .error f ↔
      ∃ before n after, e.postOrder = before ++ n :: after ∧ Offends n f ∧
        ∀ m ∈ before, ¬ m.IsOffending := by
  have herror : evaluateTree e = .error f ↔ e.postOrder.findSome? offence? = some f := by
    rw [evaluateTree, reduce_eq]
    cases e.postOrder.findSome? offence? with
    | some f => simp [bind, Except.bind]
    | none => simp [bind, Except.bind, pure, Except.pure]
  rw [herror, List.findSome?_eq_some_iff]
  simp only [offence?_eq_none_iff, offence?_eq_some_iff]

/-- **Evaluation.** An expression is evaluated exactly if none of its nodes offends; the report then
    holds its normal form, its value, the number of its operations and its trace.  The trace has one
    step for each sign and operation, in order and with the finite value of its node.  Otherwise the
    offence of the first offending node is reported, operands before their operator and the left
    one first. -/
theorem evaluateTree_reference (e : Expr) :
    (∀ r, evaluateTree e = .ok r ↔
      (∀ n ∈ e.postOrder, ¬ n.IsOffending) ∧
        r = ⟨print e, e.value, e.operationCount, e.trace⟩) ∧
    (∀ r, evaluateTree e = .ok r →
      r.steps.length = e.operators ∧
        r.steps.map (·.value) = (e.postOrder.filter (!·.isLiteral)).map value ∧
        ∀ s ∈ r.steps, s.value.isFinite) ∧
    (∀ f, evaluateTree e = .error f ↔
      ∃ before n after, e.postOrder = before ++ n :: after ∧ Offends n f ∧
        ∀ m ∈ before, ¬ m.IsOffending) := by
  refine ⟨fun r => evaluateTree_eq_ok_iff, ?_, fun f => evaluateTree_eq_error_iff⟩
  intro r hr
  obtain ⟨hsound, rfl⟩ := evaluateTree_eq_ok_iff.mp hr
  exact ⟨length_trace e, map_value_trace e, fun s hs => isFinite_of_mem_trace hsound hs⟩

end Expr

end MathAgents
