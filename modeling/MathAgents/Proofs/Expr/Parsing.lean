import MathAgents.Expr.Error
import MathAgents.Proofs.Expr.Completeness
import MathAgents.Proofs.Expr.Spelling

namespace MathAgents.Expr

/-!
# Which texts are expressions

A text is an expression exactly if it spells tokens that the grammar derives within the limits, and
the expression is the tree of that derivation.  Both halves are put together here: what is scanned
(`Spells`) and what is read from the tokens (`Derives`).

* `parse_eq_ok_iff_tokens` — parsing is scanning and then reading; blank texts need no exception.
* `parse_accepts_grammar` — the texts that are accepted, and their trees.
-/

variable {s : String} {e : Expr}

/-- No token is no expression. -/
theorem ofTokens_nil_ne_ok : ofTokens [] ≠ .ok e := by
  intro h
  obtain ⟨ts, hts, hd, _⟩ := derives_of_ofTokens h
  exact hd.ne_nil (List.map_eq_nil_iff.mp hts)

/-- Parsing succeeds with the expression that is read from the tokens of the text. -/
theorem parse_eq_ok_iff_tokens :
    parse s = .ok e ↔ ∃ tokens, Spells s.toList tokens ∧ ofTokens tokens = .ok e := by
  simp only [← scan_eq_ok_iff]
  unfold parse
  by_cases hb : Text.isBlank s
  · -- a blank text has no tokens, so nothing is read from it either
    rw [if_pos hb, scan_of_all_blank hb]
    constructor
    · intro h
      cases h
    · rintro ⟨tokens, ht, he⟩
      obtain rfl := Except.ok.inj ht
      exact absurd he ofTokens_nil_ne_ok
  · rw [if_neg hb]
    cases hs : Token.scan s.toList with
    | error fault =>
      constructor
      · intro h
        cases fault <;> cases h
      · rintro ⟨tokens, ht, _⟩
        cases ht
    | ok tokens =>
      cases ht : ofTokens tokens with
      | error fault => simp [ht]
      | ok e' => simp [ht]

/-- **Parsing.** A text is parsed as an expression `e` exactly if it spells tokens that the grammar
    derives with the tree `e`, with at most 500 operators among them and none of them inside more
    than 200 parentheses and signs.  The operators that are counted are the signs and operations of
    the tree. -/
theorem parse_accepts_grammar (s : String) (e : Expr) :
    (parse s = .ok e ↔
      ∃ ts : List Placed, Spells s.toList (ts.map (·.token)) ∧ Derives .expr 0 ts e ∧
        ts.countP (·.token.isOperator) ≤ 500 ∧ ∀ t ∈ ts, t.depth ≤ 200) ∧
    ∀ ts : List Placed, Derives .expr 0 ts e →
      ts.countP (·.token.isOperator) = e.operators := by
  refine ⟨?_, fun ts h => h.operators_eq⟩
  rw [parse_eq_ok_iff_tokens]
  constructor
  · rintro ⟨tokens, hs, ht⟩
    obtain ⟨ts, rfl, hd, hops, hdepth⟩ := ofTokens_eq_ok_iff.mp ht
    exact ⟨ts, hs, hd, hops, hdepth⟩
  · rintro ⟨ts, hs, hd, hops, hdepth⟩
    exact ⟨_, hs, ofTokens_eq_ok_iff.mpr ⟨ts, rfl, hd, hops, hdepth⟩⟩

end MathAgents.Expr
