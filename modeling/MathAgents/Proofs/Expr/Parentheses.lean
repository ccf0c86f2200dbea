import MathAgents.Proofs.Expr.RoundTrip

namespace MathAgents.Expr

/-!
# Normal forms have the fewest parentheses

The numbers and operators of a text are those of its tree, in order, so the texts of one expression
differ in blanks and parentheses alone.  Where the normal form has parentheses the grammar has to
descend to a tighter category, which it can do in no other way; so no text of the expression has
fewer.

* `operands` — the numbers and operators of an expression, in order; `Derives.operands_eq` — they
  are the tokens of every instance but for its parentheses.
* `parentheses` — how many pairs the normal form has; `Derives.parentheses_le` — no instance has
  fewer.
* `Spells.count_symbol` — the parentheses of a text are those among its tokens.
* `print_fewest_parentheses` — the texts of an expression, and its normal form without a pair.
-/

variable {c : Category} {d : Nat} {ts : List Placed} {e : Expr} {cs : List Char}
  {tokens : List Token}

/-! ### Numbers and operators -/

/-- Whether a token is a parenthesis. -/
def Token.isParenthesis : Token → Bool
  | .opening | .closing => true
  | .number _ | .plus | .minus | .star | .slash => false

/-- The numbers and operators of an expression, in the order of its texts. -/
def operands : Expr → List Token
  | .literal text _ => [.number text]
  | .signed sign operand => sign.token :: operand.operands
  | .binary op left right => left.operands ++ op.token :: right.operands

/-- The tokens of an instance are the numbers and operators of its tree, but for its
    parentheses. -/
theorem Derives.operands_eq (h : Derives c d ts e) :
    (ts.map (·.token)).filter (!·.isParenthesis) = e.operands := by
  have hop (op : Operation) : op.token.isParenthesis = false := by cases op <;> rfl
  have hsign (s : Sign) : s.token.isParenthesis = false := by cases s <;> rfl
  induction h with
  | term _ ih | unary _ ih | primary _ ih => exact ih
  | sum _ _ _ ihl ihr | product _ _ _ ihl ihr => simp [operands, hop, ihl, ihr]
  | sign s _ ih => simp [operands, hsign, ih]
  | number text => rfl
  | parens _ ih =>
    have hopening : Token.opening.isParenthesis = true := rfl
    have hclosing : Token.closing.isParenthesis = true := rfl
    simp [hopening, hclosing, ih]

/-! ### Parentheses -/

/-- How many parentheses are opened among some tokens. -/
def openings (ts : List Placed) : Nat := (ts.map (·.token)).count .opening

/-- How many parentheses are closed among some tokens. -/
def closings (ts : List Placed) : Nat := (ts.map (·.token)).count .closing

/-- How many pairs of parentheses the normal form of an expression has. -/
def parentheses : Expr → Nat
  | .literal _ _ => 0
  | .signed _ operand => operand.parentheses + Category.unary.pairs operand
  | .binary op left right =>
    (left.parentheses + (operationCategory op).pairs left) +
      (right.parentheses + (rightCategory op).pairs right)

theorem openings_operation (op : Operation) (ls rs : List Placed) :
    openings (ls ++ ⟨op.token, d⟩ :: rs) = openings ls + openings rs := by
  cases op <;> simp [openings, Operation.token]

theorem openings_sign (s : Sign) (ts : List Placed) :
    openings (⟨s.token, d⟩ :: ts) = openings ts := by
  cases s <;> simp [openings, Sign.token]

theorem openings_parens (ts : List Placed) :
    openings (⟨.opening, d⟩ :: ts ++ [⟨.closing, d⟩]) = openings ts + 1 := by
  simp [openings]

/-- Every parenthesis that an instance opens is closed in it. -/
theorem Derives.closings_eq (h : Derives c d ts e) : closings ts = openings ts := by
  induction h with
  | term _ ih | unary _ ih | primary _ ih => exact ih
  | @sum d ls rs l r op _ _ _ ihl ihr | @product d ls rs l r op _ _ _ ihl ihr =>
    rw [openings_operation, ← ihl, ← ihr]
    cases op <;> simp [closings, Operation.token]
  | sign s _ ih =>
    rw [openings_sign, ← ih]
    cases s <;> simp [closings, Sign.token]
  | number text => rfl
  | parens _ ih =>
    rw [openings_parens, ← ih]
    simp [closings]

/-- **Fewest.** An instance has no fewer parentheses than the normal form of its tree, in
    parentheses where the tree binds too loosely for the category. -/
theorem Derives.parentheses_le (h : Derives c d ts e) :
    e.parentheses + c.pairs e ≤ openings ts := by
  have loosen {c c' : Category} {ts : List Placed} {e : Expr} (hc : c'.precedence ≤ c.precedence)
      (ih : e.parentheses + c.pairs e ≤ openings ts) :
      e.parentheses + c'.pairs e ≤ openings ts :=
    Nat.le_trans (Nat.add_le_add_left (pairs_mono hc e) _) ih
  induction h with
  | term _ ih | unary _ ih | primary _ ih => exact loosen (by decide) ih
  | sum hop _ _ ihl ihr =>
    rw [pairs_of_le (precedence_expr_le _), openings_operation, Nat.add_zero]
    rcases hop with rfl | rfl <;> exact Nat.add_le_add ihl ihr
  | product hop _ _ ihl ihr =>
    rw [pairs_of_le (by rcases hop with rfl | rfl <;> exact Nat.le_refl 2), openings_operation,
      Nat.add_zero]
    rcases hop with rfl | rfl <;> exact Nat.add_le_add ihl ihr
  | sign s _ ih =>
    rw [pairs_of_le (Nat.le_refl _), openings_sign]
    exact ih
  | number text => exact Nat.zero_le _
  | @parens d ts e _ ih =>
    have hpair := pairs_le_one .primary e
    rw [pairs_of_le (precedence_expr_le e)] at ih
    rw [openings_parens]
    omega

/-- Parentheses around a part of a normal form are counted if it needs them. -/
theorem openings_encloseTokens (c : Category) (e : Expr) {n : Nat}
    (h : ∀ d, openings (e.normalTokens d) = n) (d : Nat) :
    openings (encloseTokens (e.precedence < c.precedence) d e.normalTokens) = n + c.pairs e := by
  unfold encloseTokens Category.pairs
  by_cases hc : e.precedence < c.precedence
  · simp only [hc, decide_true, if_true, openings_parens, h]
  · simp only [hc, decide_false, if_false, Bool.false_eq_true, h, Nat.add_zero]

/-- The parentheses of a normal form. -/
theorem openings_normalTokens (e : Expr) (d : Nat) :
    openings (e.normalTokens d) = e.parentheses := by
  induction e generalizing d with
  | literal text value => rfl
  | signed sign operand ih =>
    rw [normalTokens, openings_sign]
    exact openings_encloseTokens .unary operand ih (d + 1)
  | binary op left right ihl ihr =>
    have hl := openings_encloseTokens (operationCategory op) left ihl d
    have hr := openings_encloseTokens (rightCategory op) right ihr d
    rw [precedence_operationCategory] at hl
    simp only [precedence_rightCategory, Nat.lt_succ_iff] at hr
    rw [normalTokens, openings_operation, hl, hr, parentheses]

/-! ### The parentheses of a text -/

/-- The characters of operators and parentheses in a text are those of its tokens. -/
theorem Spells.count_symbol (h : Spells cs tokens) {t : Token} {c : Char}
    (ht : t.symbol? = some c) :
    cs.count c = tokens.count t := by
  obtain ⟨hblank, hnumber⟩ := Token.not_blank_of_symbol ht
  induction h with
  | nil => rfl
  | @blank b cs ts hb _ ih =>
    have hne : b ≠ c := by
      rintro rfl
      rw [hblank] at hb
      cases hb
    rw [List.count_cons_of_ne hne, ih]
  | @number ds cs ts hd _ ih =>
    have hnone : ds.count c = 0 := by
      rw [List.count_eq_zero]
      intro hc
      have hstarts := hd.1.startsNumber_of_mem hc
      rw [hnumber] at hstarts
      cases hstarts
    have hne : Token.number (String.ofList ds) ≠ t := by
      rintro rfl
      cases ht
    rw [List.count_append, hnone, Nat.zero_add, ih, List.count_cons_of_ne hne]
  | @symbol u b cs ts hu _ _ ih =>
    by_cases hb : b = c
    · subst hb
      obtain rfl := Token.symbol?_inj hu ht
      rw [List.count_cons_self, List.count_cons_self, ih]
    · have hne : u ≠ t := by
        rintro rfl
        exact hb (Option.some.inj (hu.symm.trans ht))
      rw [List.count_cons_of_ne hb, List.count_cons_of_ne hne, ih]

/-- How many parentheses a text opens and closes. -/
theorem count_parentheses (hs : Spells cs (ts.map (·.token))) (h : Derives c d ts e) :
    cs.count '(' = openings ts ∧ cs.count ')' = openings ts :=
  ⟨hs.count_symbol rfl, (hs.count_symbol rfl).trans h.closings_eq⟩

/-- What has been parsed is derived from the tokens of its text. -/
theorem derives_of_parse {s : String} (h : parse s = .ok e) :
    ∃ ts : List Placed, Spells s.toList (ts.map (·.token)) ∧ Derives .expr 0 ts e := by
  obtain ⟨tokens, hs, ht⟩ := parse_eq_ok_iff_tokens.mp h
  obtain ⟨ts, rfl, hd, -, -⟩ := derives_of_ofTokens ht
  exact ⟨ts, hs, hd⟩

/-- The normal form has as many parentheses of either kind as `parentheses` says. -/
theorem count_print (hw : e.WellSpelled) :
    (print e).toList.count '(' = e.parentheses ∧ (print e).toList.count ')' = e.parentheses := by
  have hd := derives_normalTokens hw .expr 0 (precedence_expr_le e)
  have hcount := count_parentheses (spells_print hw 0) hd
  rwa [openings_normalTokens] at hcount

/-- No text of an expression has fewer parentheses than its normal form. -/
theorem count_print_le {s : String} (h : parse s = .ok e) :
    (print e).toList.count '(' ≤ s.toList.count '(' ∧
      (print e).toList.count ')' ≤ s.toList.count ')' := by
  obtain ⟨ts, hs, hd⟩ := derives_of_parse h
  obtain ⟨hopen, hclose⟩ := count_parentheses hs hd
  obtain ⟨hprintOpen, hprintClose⟩ := count_print (limits_of_derives hs hd).1
  have hle : e.parentheses ≤ openings ts := Nat.le_of_add_right_le hd.parentheses_le
  omega

/-- **Fewest parentheses.** The normal form of a parsed expression has the numbers and operators of
    the text, in the same order, and the expression is parsed from it.  No text that the expression
    is parsed from has fewer parentheses, the text itself included; so it is not parsed any more
    from the normal form without any one pair. -/
theorem print_fewest_parentheses (s : String) (e : Expr) (h : parse s = .ok e) :
    (∃ ts us, Token.scan s.toList = .ok ts ∧ Token.scan (print e).toList = .ok us ∧
      us.filter (!·.isParenthesis) = ts.filter (!·.isParenthesis)) ∧
    parse (print e) = .ok e ∧
    (∀ s', parse s' = .ok e →
      (print e).toList.count '(' ≤ s'.toList.count '(' ∧
        (print e).toList.count ')' ≤ s'.toList.count ')') ∧
    ∀ front within behind, (print e).toList = front ++ '(' :: within ++ ')' :: behind →
      parse (String.ofList (front ++ within ++ behind)) ≠ .ok e := by
  obtain ⟨ts, hs, hd⟩ := derives_of_parse h
  have hw := (limits_of_derives hs hd).1
  have hnormal := derives_normalTokens hw .expr 0 (precedence_expr_le e)
  refine ⟨⟨_, _, scan_of_spells hs, scan_of_spells (spells_print hw 0), ?_⟩,
    parse_print_of_parse h, fun s' => count_print_le, ?_⟩
  · rw [hnormal.operands_eq, hd.operands_eq]
  · intro front within behind hprint hparse
    have hle := (count_print_le hparse).1
    rw [hprint, String.toList_ofList] at hle
    simp only [List.count_append, List.count_cons_self] at hle
    have hother : (')' :: behind).count '(' = behind.count '(' := List.count_cons_of_ne (by decide)
    omega

/-- A difference with more parentheses than it needs: its normal form keeps one pair, and without
    that pair it would be another expression. -/
theorem print_fewest_parentheses_difference :
    let e : Expr := .binary .sub (.literal "1" (Decimal.ofNumeral "1"))
      (.binary .sub (.literal "2" (Decimal.ofNumeral "2")) (.literal "3" (Decimal.ofNumeral "3")))
    parse "((1) - ((2) - 3))" = .ok e ∧ print e = "1 - (2 - 3)" ∧ parse "1 - 2 - 3" ≠ .ok e := by
  intro e
  have hsome : (parse "((1) - ((2) - 3))").toOption = some e := by decide +kernel
  have hparse : parse "((1) - ((2) - 3))" = .ok e := by
    cases h : parse "((1) - ((2) - 3))" with
    | error f =>
      rw [h] at hsome
      cases hsome
    | ok e' =>
      rw [h] at hsome
      exact congrArg Except.ok (Option.some.inj hsome)
  have hprint : print e = "1 - (2 - 3)" := by decide +kernel
  obtain ⟨-, -, -, hdelete⟩ := print_fewest_parentheses _ e hparse
  refine ⟨hparse, hprint, hdelete "1 - ".toList "2 - 3".toList [] ?_⟩
  rw [hprint]
  rfl

end MathAgents.Expr
