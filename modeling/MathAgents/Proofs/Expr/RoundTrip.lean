import MathAgents.Expr.Evaluation
import MathAgents.Proofs.Expr.NormalForm

namespace MathAgents.Expr

/-!
# Reading normal forms back

Every expression that has been parsed is parsed again from its normal form: its literals are
numerals, and printing it adds neither operators nor parentheses that count.  So evaluating a normal
form reports what was reported before.

* `Derives.exists_nesting_le` — printing never nests deeper than the text that was parsed.
* `parse_print_of_parse` — what has been parsed is parsed again from its normal form.
* `print_roundtrip` — the round trip, for expressions, for parsed texts and for evaluations.
-/

variable {c : Category} {d : Nat} {ts : List Placed} {e : Expr} {cs : List Char}

/-! ### What has been parsed is within the limits of its normal form -/

/-- The literals of a derived expression are the numbers among its tokens, with their values. -/
theorem Derives.wellSpelled (h : Derives c d ts e)
    (hn : ∀ text, .number text ∈ ts.map (·.token) → IsNumeral text.toList) : e.WellSpelled := by
  induction h with
  | term _ ih | unary _ ih | primary _ ih => exact ih hn
  | sum _ _ _ ihl ihr | product _ _ _ ihl ihr =>
    exact ⟨ihl fun text ht => hn text (by simp [ht]), ihr fun text ht => hn text (by simp [ht])⟩
  | sign _ _ ih => exact ih fun text ht => hn text (by simp [ht])
  | number text => exact ⟨hn text (by simp), rfl⟩
  | parens _ ih => exact ih fun text ht => hn text (by simp [ht])

/-- How many pairs of parentheses an expression needs to be an instance of a category. -/
def Category.pairs (c : Category) (e : Expr) : Nat := if e.precedence < c.precedence then 1 else 0

/-- Where it binds tightly enough, an expression needs no parentheses. -/
theorem pairs_of_le (h : c.precedence ≤ e.precedence) : c.pairs e = 0 :=
  if_neg (Nat.not_lt_of_le h)

/-- One pair of parentheses is enough. -/
theorem pairs_le_one (c : Category) (e : Expr) : c.pairs e ≤ 1 := by
  unfold Category.pairs
  split <;> omega

/-- A category that binds more tightly encloses more expressions. -/
theorem pairs_mono {c' : Category} (h : c'.precedence ≤ c.precedence) (e : Expr) :
    c'.pairs e ≤ c.pairs e := by
  unfold Category.pairs
  split <;> split <;> omega

/-- How deep the normal form of an expression nests as an instance of a category. -/
def nestingIn (c : Category) (e : Expr) : Nat :=
  enclosedNesting (e.precedence < c.precedence) e.nesting

/-- Parentheses nest one deeper. -/
theorem nestingIn_eq (c : Category) (e : Expr) : nestingIn c e = e.nesting + c.pairs e := by
  unfold nestingIn enclosedNesting Category.pairs
  by_cases h : e.precedence < c.precedence <;> simp [h]

/-- Without parentheses, an instance nests as the expression itself. -/
theorem nestingIn_of_le (h : c.precedence ≤ e.precedence) : nestingIn c e = e.nesting := by
  rw [nestingIn_eq, pairs_of_le h, Nat.add_zero]

/-- The operands of an operation nest as instances of their categories. -/
theorem nesting_binary (op : Operation) (l r : Expr) :
    (binary op l r).nesting =
      max (nestingIn (operationCategory op) l) (nestingIn (rightCategory op) r) := by
  simp only [nesting, nestingIn, precedence_operationCategory, precedence_rightCategory,
    Nat.lt_succ_iff]

/-- The nesting of two operands is reached among the tokens of the one or of the other. -/
theorem exists_max_le {ls rs : List Placed} {m n : Nat} (t : Placed)
    (hl : ∃ u ∈ ls, d + m ≤ u.depth) (hr : ∃ u ∈ rs, d + n ≤ u.depth) :
    ∃ u ∈ ls ++ t :: rs, d + max m n ≤ u.depth := by
  rcases Nat.le_total n m with h | h
  · obtain ⟨u, hu, hm⟩ := hl
    exact ⟨u, List.mem_append_left _ hu, by omega⟩
  · obtain ⟨u, hu, hn⟩ := hr
    exact ⟨u, List.mem_append_right _ (List.mem_cons_of_mem t hu), by omega⟩

/-- **Nesting.** Among the tokens of an instance there is one as deep as the normal form of its tree
    nests, in parentheses where the tree binds too loosely for the category. -/
theorem Derives.exists_nesting_le (h : Derives c d ts e) :
    ∃ t ∈ ts, d + nestingIn c e ≤ t.depth := by
  have loosen {c c' : Category} {d : Nat} {ts : List Placed} {e : Expr}
      (hc : c'.precedence ≤ c.precedence) (ih : ∃ t ∈ ts, d + nestingIn c e ≤ t.depth) :
      ∃ t ∈ ts, d + nestingIn c' e ≤ t.depth := by
    obtain ⟨t, ht, hle⟩ := ih
    have hpairs := pairs_mono hc e
    rw [nestingIn_eq] at hle ⊢
    exact ⟨t, ht, by omega⟩
  -- by induction on the derivation, as it is the text that has the parentheses
  induction h with
  -- a looser category encloses fewer trees
  | term _ ih | unary _ ih | primary _ ih => exact loosen (by decide) ih
  | sum hop _ _ ihl ihr =>
    rw [nestingIn_of_le (precedence_expr_le _), nesting_binary]
    rcases hop with rfl | rfl <;> exact exists_max_le _ ihl ihr
  | product hop _ _ ihl ihr =>
    rw [nestingIn_of_le (by rcases hop with rfl | rfl <;> exact Nat.le_refl 2), nesting_binary]
    rcases hop with rfl | rfl <;> exact exists_max_le _ ihl ihr
  | @sign d ts e s _ ih =>
    obtain ⟨t, ht, hle⟩ := ih
    refine ⟨t, List.mem_cons_of_mem _ ht, ?_⟩
    have hnesting : (Expr.signed s e).nesting = nestingIn .unary e + 1 := rfl
    rw [nestingIn_of_le (Nat.le_refl _), hnesting]
    omega
  | number text => exact ⟨_, List.mem_cons_self, Nat.le_refl _⟩
  | @parens d ts e _ ih =>
    -- the text has parentheses here, whether or not the normal form keeps them
    obtain ⟨t, ht, hle⟩ := ih
    refine ⟨t, by simp [ht], ?_⟩
    have hpair := pairs_le_one .primary e
    rw [nestingIn_of_le (precedence_expr_le e)] at hle
    rw [nestingIn_eq]
    omega

/-- What has been parsed is well spelled and within the limits of its normal form: the text had as
    many operators, and nested as deep. -/
theorem limits_of_derives (hs : Spells cs (ts.map (·.token))) (h : Derives .expr 0 ts e) :
    e.WellSpelled ∧ e.operators = operatorCount ts ∧ ∃ t ∈ ts, e.nesting ≤ t.depth := by
  obtain ⟨t, ht, hle⟩ := h.exists_nesting_le
  rw [nestingIn_of_le (precedence_expr_le e), Nat.zero_add] at hle
  exact ⟨h.wellSpelled fun text => hs.isNumeral, h.operators_eq.symm, t, ht, hle⟩

/-- An expression that has been parsed is parsed again from its normal form. -/
theorem parse_print_of_parse {s : String} (h : parse s = .ok e) : parse (print e) = .ok e := by
  obtain ⟨tokens, hs, ht⟩ := parse_eq_ok_iff_tokens.mp h
  obtain ⟨ts, rfl, hd, hops, hdepth⟩ := derives_of_ofTokens ht
  obtain ⟨hw, hcount, t, ht, hle⟩ := limits_of_derives hs hd
  exact parse_print hw (hcount ▸ hops) (Nat.le_trans hle (hdepth t ht))

/-! ### The round trip -/

/-- What is reported on an expression names its normal form. -/
theorem expression_evaluateTree {r : Evaluation} (h : evaluateTree e = .ok r) :
    r.expression = print e := by
  obtain ⟨_, _, hr⟩ := bind_eq_ok_iff.mp h
  rw [← Except.ok.inj hr]

/-- **Round trip.** An expression is parsed from its normal form if its literals are numerals with
    their values, and if its operators and the nesting of its normal form are within the limits.
    Every parsed expression is of this kind, with no more operators and no deeper nesting than the
    text it was parsed from.  Hence evaluating the normal form that an evaluation reports gives the
    same report again. -/
theorem print_roundtrip :
    (∀ e : Expr, e.WellSpelled → e.operators ≤ 500 → e.nesting ≤ 200 →
      parse (print e) = .ok e) ∧
    (∀ (s : String) (e : Expr), parse s = .ok e →
      e.WellSpelled ∧ e.operators ≤ 500 ∧ e.nesting ≤ 200 ∧
        ∀ ts : List Placed, Spells s.toList (ts.map (·.token)) → Derives .expr 0 ts e →
          e.operators ≤ operatorCount ts ∧ ∃ t ∈ ts, e.nesting ≤ t.depth) ∧
    (∀ (s : String) (r : Evaluation), evaluate s = .ok r → evaluate r.expression = .ok r) := by
  refine ⟨fun e => parse_print, fun s e h => ?_, fun s r h => ?_⟩
  · obtain ⟨tokens, hs, ht⟩ := parse_eq_ok_iff_tokens.mp h
    obtain ⟨ts, rfl, hd, hops, hdepth⟩ := derives_of_ofTokens ht
    obtain ⟨hw, hcount, t, ht, hle⟩ := limits_of_derives hs hd
    refine ⟨hw, hcount ▸ hops, Nat.le_trans hle (hdepth t ht), fun us hs' hd' => ?_⟩
    obtain ⟨_, hcount', hdeep⟩ := limits_of_derives hs' hd'
    exact ⟨Nat.le_of_eq hcount', hdeep⟩
  · obtain ⟨e, hp, he⟩ := bind_eq_ok_iff.mp h
    rw [expression_evaluateTree he]
    exact bind_eq_ok_iff.mpr ⟨e, parse_print_of_parse hp, he⟩

/-- The round trip of a difference under a sign: its parentheses are kept, and the report on its
    normal form is the report on the text. -/
theorem print_roundtrip_negated_difference :
    let e : Expr := .signed .minus (.binary .sub (.literal "1" (Decimal.ofNumeral "1"))
      (.literal ".5" (Decimal.ofNumeral ".5")))
    (e.WellSpelled ∧ e.operators ≤ 500 ∧ e.nesting ≤ 200) ∧ print e = "-(1 - .5)" ∧
      parse "-(1 - .5)" = .ok e ∧
      ∃ r, evaluate "-(1 - .5)" = .ok r ∧ evaluate r.expression = .ok r := by
  intro e
  have hone : IsNumeral ['1'] := .whole ⟨by decide, by simp⟩
  have hhalf : IsNumeral ['.', '5'] := .fraction ⟨by decide, by simp⟩
  have hw : e.WellSpelled := ⟨⟨hone, rfl⟩, hhalf, rfl⟩
  have hops : e.operators = 2 := rfl
  have hnesting : e.nesting = 2 := rfl
  have hprint : print e = "-(1 - .5)" := by decide +kernel
  have hparse : parse "-(1 - .5)" = .ok e :=
    hprint ▸ print_roundtrip.1 e hw (by omega) (by omega)
  have hok : (evaluateTree e).isOk := by decide +kernel
  obtain ⟨r, he⟩ : ∃ r, evaluateTree e = .ok r := by
    cases h : evaluateTree e with
    | ok r => exact ⟨r, rfl⟩
    | error fault =>
      rw [h] at hok
      cases hok
  have hr : evaluate "-(1 - .5)" = .ok r := bind_eq_ok_iff.mpr ⟨e, hparse, he⟩
  exact ⟨⟨hw, by omega, by omega⟩, hprint, hparse, r, hr, print_roundtrip.2.2 _ r hr⟩

end MathAgents.Expr
