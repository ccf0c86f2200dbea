import MathAgents.Proofs.Expr.Reader

namespace MathAgents.Expr

/-!
# What the grammar derives is read by the reader

The reader takes the tokens of an instance in any state that waits for it and has room for its
operators and its depth.  By induction on the derivation, the state behind the tokens is the state
in front of them with the tree of the instance put in (`ParseState.Takes`); an expression leaves a
pending sum and its last term, which a closing parenthesis or the end of the tokens joins.

* `ParseState.Admits` — the limits, as a state in front of some tokens has to keep them.
* `ParseState.Taken` — whether the reader takes some tokens as an instance, and what it comes to;
  one lemma for each rule of the grammar.
* `Derives.taken` — the reader takes every instance.
* `ofTokens_eq_ok_iff` — the reader gives an expression exactly if the grammar derives it.
-/

variable {c : Category} {d : Nat} {ts us : List Placed} {e : Expr} {l : Level}
  {s s' : ParseState} {t : Token}

namespace ParseState

/-- The state behind some tokens. -/
def run (s : ParseState) (ts : List Placed) : Except ParseFault ParseState :=
  (ts.map (·.token)).foldlM ParseState.step s

/-- A step is the first part of a run. -/
theorem run_cons {u : Placed} (h : s.step u.token = .ok s') : s.run (u :: us) = s'.run us := by
  simp only [run, List.map_cons, List.foldlM_cons, h]
  rfl

/-- A run goes on where a run has ended. -/
theorem run_append (h : s.run ts = .ok s') : s.run (ts ++ us) = s'.run us := by
  simp only [run] at h ⊢
  rw [List.map_append, List.foldlM_append, h]
  rfl

/-- Whether a state can take some tokens without passing a limit. -/
def Admits (s : ParseState) (ts : List Placed) : Prop :=
  s.operators + operatorCount ts ≤ maxOperators ∧ ∀ t ∈ ts, t.depth ≤ maxNesting

/-- The state behind an operand with `n` operators. -/
def behindOperand (s : ParseState) (n : Nat) (operand : Expr) : ParseState :=
  { s.supply operand with operators := s.operators + n }

/-- The state behind an expression with `n` operators that consists of a pending sum and its last
    term. -/
def behindSum (s : ParseState) (n : Nat) (left : Option (Expr × Operation)) (last : Expr) :
    ParseState :=
  { s with
    current := some last
    level := { s.level with sum := left }
    operators := s.operators + n }

/-- The state `s'` that `s` comes to when it has taken an instance of a category with `n` operators
    and the tree `e`: an operand is supplied, and an expression leaves its last term current. -/
def Takes (s : ParseState) (n : Nat) (c : Category) (e : Expr) (s' : ParseState) : Prop :=
  match c with
  | .expr => ∃ left last, Level.join left last = e ∧ s' = s.behindSum n left last
  | _ => s' = s.behindOperand n e

/-- What has to be empty in a level in front of an instance of a category. -/
def Ready (l : Level) : Category → Prop
  | .expr => l.sum = none ∧ l.product = none ∧ l.signs = []
  | .term => l.product = none ∧ l.signs = []
  | .unary | .primary => True

/-- Where neither a product nor signs wait for it, an operand becomes the last term. -/
theorem behindOperand_of_ready (h : Ready s.level .term) (n : Nat) (e : Expr) :
    s.behindOperand n e = s.behindSum n s.level.sum e := by
  obtain ⟨current, ⟨nesting, sum, product, signs⟩, outer, operators⟩ := s
  obtain ⟨rfl, rfl⟩ := h
  rfl

/-- What admits an operator has room for it. -/
theorem Admits.lt_maxOperators {u : Placed} (h : s.Admits (u :: us)) (hu : u.token.isOperator) :
    s.operators < maxOperators := by
  have hops := h.1
  rw [operatorCount_cons, if_pos hu] at hops
  omega

/-- Behind its first token, the other tokens are admitted. -/
theorem Admits.tail {u : Placed} (h : s.Admits (u :: us))
    (hs : s'.operators = s.operators + if u.token.isOperator then 1 else 0) : s'.Admits us := by
  obtain ⟨hops, hdepth⟩ := h
  rw [operatorCount_cons] at hops
  exact ⟨by omega, fun t ht => hdepth t (List.mem_cons_of_mem u ht)⟩

/-- The first ones of admitted tokens are admitted. -/
theorem Admits.left (h : s.Admits (ts ++ us)) : s.Admits ts := by
  obtain ⟨hops, hdepth⟩ := h
  rw [operatorCount_append] at hops
  exact ⟨by omega, fun t ht => hdepth t (List.mem_append_left us ht)⟩

/-- Behind the first ones of admitted tokens, the others are admitted. -/
theorem Admits.right (h : s.Admits (ts ++ us))
    (hs : s'.operators = s.operators + operatorCount ts) : s'.Admits us := by
  obtain ⟨hops, hdepth⟩ := h
  rw [operatorCount_append] at hops
  exact ⟨by omega, fun t ht => hdepth t (List.mem_append_right ts ht)⟩

/-- A number is an operand. -/
theorem step_number (hc : s.current = none) (text : String) :
    s.step (.number text) = .ok (s.supply (.literal text (Decimal.ofNumeral text))) := by
  simp [ParseState.step, hc]

/-- An admitted sign is read where an operand has to follow. -/
theorem step_sign (hc : s.current = none) {g : Sign} (ha : s.Admits (⟨g.token, d⟩ :: us))
    (hdepth : s.level.depth < maxNesting) :
    s.step g.token = .ok (s.behindSign g) ∧ (s.behindSign g).Admits us := by
  have hstep : s.step g.token = s.sign g := by
    cases g <;> simp [ParseState.step, hc, Sign.token]
  rw [hstep, sign_eq_ok_iff]
  exact ⟨⟨ha.lt_maxOperators (by simp), hdepth, rfl⟩, ha.tail (by simp [behindSign])⟩

/-- An admitted parenthesis is opened where an operand has to follow. -/
theorem step_opening (hc : s.current = none) (ha : s.Admits (⟨.opening, d⟩ :: us))
    (hdepth : s.level.depth < maxNesting) :
    s.step .opening = .ok s.behindOpening ∧ s.behindOpening.Admits us := by
  have hstep : s.step .opening = s.openLevel := by simp [ParseState.step, hc]
  rw [hstep, openLevel_eq_ok_iff]
  exact ⟨⟨hdepth, rfl⟩, ha.tail (by simp [behindOpening, Token.isOperator])⟩

/-- An admitted operation that binds loosely is read behind a term. -/
theorem step_plus (hc : s.current = some e) {op : Operation} (hop : op = .add ∨ op = .sub)
    (ha : s.Admits (⟨op.token, d⟩ :: us)) :
    s.step op.token = .ok (s.behindPlus e op) ∧ (s.behindPlus e op).Admits us := by
  have hstep : s.step op.token = s.plus e op := by
    rcases hop with rfl | rfl <;> simp [ParseState.step, hc, Operation.token]
  rw [hstep, plus_eq_ok_iff]
  exact ⟨⟨ha.lt_maxOperators (by simp), rfl⟩, ha.tail (by simp [behindPlus])⟩

/-- An admitted operation that binds tightly is read behind a term. -/
theorem step_times (hc : s.current = some e) {op : Operation} (hop : op = .mul ∨ op = .div)
    (ha : s.Admits (⟨op.token, d⟩ :: us)) :
    s.step op.token = .ok (s.behindTimes e op) ∧ (s.behindTimes e op).Admits us := by
  have hstep : s.step op.token = s.times e op := by
    rcases hop with rfl | rfl <;> simp [ParseState.step, hc, Operation.token]
  rw [hstep, times_eq_ok_iff]
  exact ⟨⟨ha.lt_maxOperators (by simp), rfl⟩, ha.tail (by simp [behindTimes])⟩

/-- A closing parenthesis turns the innermost level into an operand. -/
theorem step_closing {ls : List Level} (hc : s.current = some e) (ho : s.outer = l :: ls) :
    s.step .closing = .ok (s.behindClosing e l ls) := by
  simp [ParseState.step, hc, ho, behindClosing]

/-- There is room for one more level in front of an admitted instance that stands in it. -/
theorem Admits.lt_maxNesting (ha : s.Admits ts) (h : Derives c (d + 1) us e) (hsub : us ⊆ ts) :
    d < maxNesting := by
  obtain ⟨t, ht, hdeep⟩ := h.exists_depth_le
  exact Nat.lt_of_lt_of_le hdeep (ha.2 t (hsub ht))

/-- Whether the reader takes some tokens as an instance of a category at a depth: in every state
    that waits for one and whose limits admit the tokens. -/
def Taken (c : Category) (d : Nat) (ts : List Placed) (e : Expr) : Prop :=
  ∀ s : ParseState, s.Admits ts → s.current = none → Ready s.level c → s.level.depth = d →
    ∃ s', s.run ts = .ok s' ∧ s.Takes (operatorCount ts) c e s'

/-! ### One rule of the grammar at a time -/

/-- A number is taken as an operand. -/
theorem taken_number (d : Nat) (text : String) :
    Taken .primary d [⟨.number text, d⟩] (.literal text (Decimal.ofNumeral text)) := by
  intro s _ hc _ _
  refine ⟨_, ?_, rfl⟩
  rw [run_cons (step_number hc text)]
  rfl

/-- A term is taken as the last one of an expression, as no sum waits for it. -/
theorem Taken.term (h : Taken .term d ts e) : Taken .expr d ts e := by
  intro s ha hc hready hd
  obtain ⟨_, hrun, rfl⟩ := h s ha hc hready.2 hd
  refine ⟨_, hrun, none, e, rfl, ?_⟩
  rw [behindOperand_of_ready hready.2, hready.1]

variable {ls rs : List Placed} {left right : Expr} {op : Operation}

/-- A loose operation joins what its left operand has left pending, and takes up a term. -/
theorem Taken.sum (hop : op = .add ∨ op = .sub) (hl : Taken .expr d ls left)
    (hr : Taken .term d rs right) :
    Taken .expr d (ls ++ ⟨op.token, d⟩ :: rs) (.binary op left right) := by
  intro s ha hc hready hd
  obtain ⟨_, hrun, pending, last, rfl, rfl⟩ := hl s ha.left hc hready hd
  have hadmits : (s.behindSum (operatorCount ls) pending last).Admits (⟨op.token, d⟩ :: rs) :=
    ha.right rfl
  obtain ⟨hstep, hadmits'⟩ := step_plus rfl hop hadmits
  obtain ⟨_, hrun', rfl⟩ := hr _ hadmits' rfl hready.2 hd
  refine ⟨_, (run_append hrun).trans ((run_cons hstep).trans hrun'),
    some (Level.join pending last, op), right, rfl, ?_⟩
  have hready' : Ready (behindPlus (s.behindSum (operatorCount ls) pending last) last op).level
      .term := hready.2
  rw [behindOperand_of_ready hready']
  simp [behindSum, behindPlus]
  omega

/-- A tight operation keeps its left operand, which has become the last term, and takes up an
    operand. -/
theorem Taken.product (hop : op = .mul ∨ op = .div) (hl : Taken .term d ls left)
    (hr : Taken .unary d rs right) :
    Taken .term d (ls ++ ⟨op.token, d⟩ :: rs) (.binary op left right) := by
  intro s ha hc hready hd
  obtain ⟨_, hrun, rfl⟩ := hl s ha.left hc hready hd
  rw [behindOperand_of_ready hready] at hrun
  have hadmits : (s.behindSum (operatorCount ls) s.level.sum left).Admits (⟨op.token, d⟩ :: rs) :=
    ha.right rfl
  obtain ⟨hstep, hadmits'⟩ := step_times rfl hop hadmits
  obtain ⟨_, hrun', rfl⟩ := hr _ hadmits' rfl trivial hd
  refine ⟨_, (run_append hrun).trans ((run_cons hstep).trans hrun'), ?_⟩
  show _ = s.behindOperand _ _
  obtain ⟨hproduct, hsigns⟩ := hready
  simp [behindSum, behindTimes, behindOperand, supply, Level.settled, Level.term, Level.join,
    hproduct, hsigns]
  omega

/-- A sign waits for its operand, and is put on it when the operand is supplied. -/
theorem Taken.sign (g : Sign) (hdeep : Derives .unary (d + 1) ts e)
    (h : Taken .unary (d + 1) ts e) : Taken .unary d (⟨g.token, d⟩ :: ts) (.signed g e) := by
  intro s ha hc _ hd
  have hdepth : s.level.depth < maxNesting :=
    hd ▸ ha.lt_maxNesting hdeep (List.subset_cons_self _ _)
  obtain ⟨hstep, hadmits⟩ := step_sign hc ha hdepth
  obtain ⟨_, hrun, rfl⟩ := h _ hadmits hc trivial (by rw [← hd]; rfl)
  refine ⟨_, (run_cons hstep).trans hrun, ?_⟩
  show _ = s.behindOperand _ _
  simp [behindSign, behindOperand, supply, Level.settled, Level.term]
  omega

/-- An expression in parentheses is read in a level of its own, which the closing one joins. -/
theorem Taken.parens (hdeep : Derives .expr (d + 1) ts e) (h : Taken .expr (d + 1) ts e) :
    Taken .primary d (⟨.opening, d⟩ :: ts ++ [⟨.closing, d⟩]) e := by
  intro s ha hc _ hd
  have hdepth : s.level.depth < maxNesting := hd ▸ ha.lt_maxNesting hdeep (by simp)
  obtain ⟨hstep, hadmits⟩ := step_opening hc ha hdepth
  obtain ⟨_, hrun, pending, last, rfl, rfl⟩ :=
    h _ hadmits.left hc ⟨rfl, rfl, rfl⟩ (by rw [← hd]; rfl)
  refine ⟨_, (run_cons hstep).trans ((run_append hrun).trans (run_cons (step_closing rfl rfl))), ?_⟩
  show _ = s.behindOperand _ _
  simp [behindSum, behindOpening, behindClosing, behindOperand, supply, Level.settled, Level.term,
    Token.isOperator]

end ParseState

open ParseState in
/-- **Completeness of a run.** The reader takes every instance of the grammar. -/
theorem Derives.taken (h : Derives c d ts e) : Taken c d ts e := by
  induction h with
  | term _ ih => exact ih.term
  | sum hop _ _ ihl ihr => exact ihl.sum hop ihr
  | unary _ ih | primary _ ih => exact fun s ha hc _ hd => ih s ha hc trivial hd
  | product hop _ _ ihl ihr => exact ihl.product hop ihr
  | sign g h ih => exact .sign g h ih
  | @number d text => exact taken_number d text
  | parens h ih => exact .parens h ih

/-- **Completeness.** The reader gives the tree of any expression that the grammar derives from the
    tokens within the limits. -/
theorem ofTokens_of_derives (h : Derives .expr 0 ts e) (hops : operatorCount ts ≤ maxOperators)
    (hdepth : ∀ t ∈ ts, t.depth ≤ maxNesting) : ofTokens (ts.map (·.token)) = .ok e := by
  have ha : ParseState.Admits {} ts := ⟨by simpa using hops, hdepth⟩
  obtain ⟨_, hrun, left, last, rfl, rfl⟩ := h.taken {} ha rfl ⟨rfl, rfl, rfl⟩ rfl
  exact bind_eq_ok_iff.mpr ⟨_, hrun, rfl⟩

/-- **The reader and the grammar.** The reader gives an expression for a list of tokens exactly if
    the grammar derives it from them within the limits. -/
theorem ofTokens_eq_ok_iff {tokens : List Token} :
    ofTokens tokens = .ok e ↔
      ∃ ts, ts.map (·.token) = tokens ∧ Derives .expr 0 ts e ∧ operatorCount ts ≤ maxOperators ∧
        ∀ t ∈ ts, t.depth ≤ maxNesting := by
  constructor
  · exact derives_of_ofTokens
  · rintro ⟨ts, rfl, h, hops, hdepth⟩
    exact ofTokens_of_derives h hops hdepth

end MathAgents.Expr
