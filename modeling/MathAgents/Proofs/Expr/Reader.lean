import MathAgents.Expr.Parser
import MathAgents.Proofs.Expr.Grammar
import MathAgents.Proofs.Outcome

namespace MathAgents.Expr

/-!
# What the reader reads is derived by the grammar

The reader takes one token at a time.  `ParseState.Reads s ts` is what holds of its state `s` when
it has taken the tokens `ts`: every level holds instances of the grammar that wait for a right
operand, the levels are separated by the open parentheses, and the limits have been kept.

* `Level.Waits`, `Level.Holds` — the tokens of a level before and behind an operand.
* `ParseState.behindSign`, `ParseState.sign_eq_ok_iff` and their like — the state behind a token,
  and the limits within which it is taken.
* `ParseState.Reads.step` — one more token keeps the invariant, at some depth.
* `derives_of_ofTokens` — the expression that the reader gives is derived from the tokens that it
  took, within the limits.
-/

/-! ### The tokens of a level -/

/-- The signs of a level as tokens, the outermost one first; `d` is the depth in front of them. -/
def signTokens (d : Nat) : List Sign → List Placed
  | [] => []
  | s :: ss => signTokens d ss ++ [⟨s.token, d + ss.length⟩]

/-- The tokens of a left operand of category `c` and its operation, one of `ops`; there are none
    if nothing waits for a right operand. -/
inductive Pending (c : Category) (ops : List Operation) (d : Nat) :
    Option (Expr × Operation) → List Placed → Prop
  | none : Pending c ops d none []
  | some {ts : List Placed} {e : Expr} {op : Operation} (hop : op ∈ ops) (h : Derives c d ts e) :
      Pending c ops d (some (e, op)) (ts ++ [⟨op.token, d⟩])

/-- The tokens of a level that waits for an operand: a sum, a product and signs, each of them in
    front of what is still to come. -/
def Level.Waits (l : Level) (ts : List Placed) : Prop :=
  ∃ ss ps, ts = ss ++ ps ++ signTokens l.nesting l.signs ∧
    Pending .expr [.add, .sub] l.nesting l.sum ss ∧
    Pending .term [.mul, .div] l.nesting l.product ps

/-- The tokens of a level whose last term is `e`. -/
def Level.Holds (l : Level) (e : Expr) (ts : List Placed) : Prop :=
  l.product = none ∧ l.signs = [] ∧
    ∃ ss us, ts = ss ++ us ∧ Pending .expr [.add, .sub] l.nesting l.sum ss ∧
      Derives .term l.nesting us e

variable {c : Category} {d : Nat} {ts us : List Placed} {e : Expr} {l : Level}

/-- The signs in front of an operand turn it into a signed one. -/
theorem Derives.signed (ss : List Sign) (h : Derives .unary (d + ss.length) ts e) :
    Derives .unary d (signTokens d ss ++ ts) (ss.foldl (fun e s => .signed s e) e) := by
  induction ss generalizing ts e with
  | nil => exact h
  | cons s ss ih =>
    have hs : Derives .unary (d + ss.length) (⟨s.token, d + ss.length⟩ :: ts) (.signed s e) :=
      .sign s h
    simpa [signTokens] using ih hs

/-- A pending product takes up its right operand. -/
theorem Pending.product {left : Option (Expr × Operation)}
    (hp : Pending .term [.mul, .div] d left ts) (h : Derives .unary d us e) :
    Derives .term d (ts ++ us) (Level.join left e) := by
  cases hp with
  | none => exact .unary h
  | some hop hl => simpa [Level.join] using Derives.product (by simpa using hop) hl h

/-- A pending sum takes up its right operand. -/
theorem Pending.sum {left : Option (Expr × Operation)}
    (hp : Pending .expr [.add, .sub] d left ts) (h : Derives .term d us e) :
    Derives .expr d (ts ++ us) (Level.join left e) := by
  cases hp with
  | none => exact .term h
  | some hop hl => simpa [Level.join] using Derives.sum (by simpa using hop) hl h

/-- An operand completes the term of the level that waited for it. -/
theorem Level.Waits.supply (hw : l.Waits ts) (h : Derives .primary l.depth us e) :
    l.settled.Holds (l.term e) (ts ++ us) := by
  obtain ⟨ss, ps, rfl, hs, hp⟩ := hw
  refine ⟨rfl, rfl, ss, ps ++ (signTokens l.nesting l.signs ++ us), by simp, hs, ?_⟩
  exact hp.product (.signed l.signs (.primary h))

/-- A further sign keeps a level waiting. -/
theorem Level.Waits.sign (hw : l.Waits ts) (s : Sign) :
    Level.Waits { l with signs := s :: l.signs } (ts ++ [⟨s.token, l.depth⟩]) := by
  obtain ⟨ss, ps, rfl, hs, hp⟩ := hw
  exact ⟨ss, ps, by simp [signTokens, Level.depth], hs, hp⟩

/-- An operation that binds tightly keeps the last term as its left operand. -/
theorem Level.Holds.times (hl : l.Holds e ts) {op : Operation} (hop : op ∈ [Operation.mul, .div]) :
    Level.Waits { l with product := some (e, op) } (ts ++ [⟨op.token, l.nesting⟩]) := by
  obtain ⟨_, hsigns, ss, us, rfl, hs, h⟩ := hl
  exact ⟨ss, us ++ [⟨op.token, l.nesting⟩], by simp [hsigns, signTokens], hs, .some hop h⟩

/-- An operation that binds loosely joins all of the level to its left operand. -/
theorem Level.Holds.plus (hl : l.Holds e ts) {op : Operation} (hop : op ∈ [Operation.add, .sub]) :
    Level.Waits { l with sum := some (Level.join l.sum e, op) }
      (ts ++ [⟨op.token, l.nesting⟩]) := by
  obtain ⟨hproduct, hsigns, ss, us, rfl, hs, h⟩ := hl
  refine ⟨ss ++ us ++ [⟨op.token, l.nesting⟩], [], by simp [hsigns, signTokens], ?_, ?_⟩
  · exact .some hop (hs.sum h)
  · simpa [hproduct] using Pending.none

/-- The expression that a level holds is derived from its tokens. -/
theorem Level.Holds.derives (hl : l.Holds e ts) :
    Derives .expr l.nesting ts (Level.join l.sum e) := by
  obtain ⟨_, _, ss, us, rfl, hs, h⟩ := hl
  exact hs.sum h

/-! ### The tokens of a state -/

/-- The tokens up to the innermost open parenthesis, and the nesting behind it. -/
inductive Outer : List Level → Nat → List Placed → Prop
  | nil : Outer [] 0 []
  | cons {l : Level} {ls : List Level} {ts us : List Placed} (h : Outer ls l.nesting ts)
      (hw : l.Waits us) : Outer (l :: ls) (l.depth + 1) (ts ++ us ++ [⟨.opening, l.depth⟩])

/-- What holds of the reader's state when it has taken some tokens. -/
structure ParseState.Reads (s : ParseState) (ts : List Placed) : Prop where
  tokens : ∃ os us, ts = os ++ us ∧ Outer s.outer s.level.nesting os ∧
    match s.current with
    | none => s.level.Waits us
    | some e => s.level.Holds e us
  operators : s.operators = operatorCount ts
  few : s.operators ≤ maxOperators
  shallow : ∀ t ∈ ts, t.depth ≤ maxNesting
  depth : s.level.depth ≤ maxNesting

variable {s s' : ParseState} {t : Token}

namespace ParseState

/-- The reader starts with no token. -/
theorem Reads.start : Reads {} [] where
  tokens := ⟨[], [], rfl, .nil, [], [], rfl, .none, .none⟩
  operators := rfl
  few := Nat.zero_le _
  shallow := by simp
  depth := Nat.zero_le _

/-! ### What a step comes to -/

/-- One more operator is counted within the limit. -/
theorem countOperator_eq_ok_iff :
    s.countOperator = .ok s' ↔
      s.operators < maxOperators ∧ s' = { s with operators := s.operators + 1 } := by
  unfold countOperator
  split <;> simp [*, eq_comm]

/-- A level deeper stays within the limit. -/
theorem checkDepth_eq_ok_iff {u : Unit} :
    s.checkDepth = .ok u ↔ s.level.depth < maxNesting := by
  unfold checkDepth
  split <;> simp [*]

/-- The state behind a sign. -/
def behindSign (s : ParseState) (g : Sign) : ParseState :=
  { s with operators := s.operators + 1, level := { s.level with signs := g :: s.level.signs } }

/-- The state behind an opening parenthesis. -/
def behindOpening (s : ParseState) : ParseState :=
  { s with level := { nesting := s.level.depth + 1 }, outer := s.level :: s.outer }

/-- The state behind an operation that binds tightly, whose left operand is `e`. -/
def behindTimes (s : ParseState) (e : Expr) (op : Operation) : ParseState :=
  { s with
    operators := s.operators + 1
    current := none
    level := { s.level with product := some (e, op) } }

/-- The state behind an operation that binds loosely, in front of which the last term is `e`. -/
def behindPlus (s : ParseState) (e : Expr) (op : Operation) : ParseState :=
  { s with
    operators := s.operators + 1
    current := none
    level := { s.level with sum := some (Level.join s.level.sum e, op) } }

/-- The state behind a closing parenthesis, with the term `e` in front of it, where `l` and `ls` are
    the levels around the one that is closed. -/
def behindClosing (s : ParseState) (e : Expr) (l : Level) (ls : List Level) : ParseState :=
  supply { s with level := l, outer := ls } (Level.join s.level.sum e)

/-- A sign is read within both limits. -/
theorem sign_eq_ok_iff {g : Sign} :
    s.sign g = .ok s' ↔
      s.operators < maxOperators ∧ s.level.depth < maxNesting ∧ s' = s.behindSign g := by
  simp only [ParseState.sign, bind_eq_ok_iff, countOperator_eq_ok_iff, checkDepth_eq_ok_iff]
  constructor
  · rintro ⟨_, ⟨hfew, rfl⟩, _, hdepth, hs⟩
    exact ⟨hfew, hdepth, (Except.ok.inj hs).symm⟩
  · rintro ⟨hfew, hdepth, rfl⟩
    exact ⟨_, ⟨hfew, rfl⟩, (), hdepth, rfl⟩

/-- A parenthesis is opened within the limit of depth. -/
theorem openLevel_eq_ok_iff :
    s.openLevel = .ok s' ↔ s.level.depth < maxNesting ∧ s' = s.behindOpening := by
  simp only [openLevel, bind_eq_ok_iff, checkDepth_eq_ok_iff]
  constructor
  · rintro ⟨_, hdepth, hs⟩
    exact ⟨hdepth, (Except.ok.inj hs).symm⟩
  · rintro ⟨hdepth, rfl⟩
    exact ⟨(), hdepth, rfl⟩

/-- An operation that binds tightly is read within the limit of operators. -/
theorem times_eq_ok_iff {op : Operation} :
    s.times e op = .ok s' ↔ s.operators < maxOperators ∧ s' = s.behindTimes e op := by
  simp only [times, bind_eq_ok_iff, countOperator_eq_ok_iff]
  constructor
  · rintro ⟨_, ⟨hfew, rfl⟩, hs⟩
    exact ⟨hfew, (Except.ok.inj hs).symm⟩
  · rintro ⟨hfew, rfl⟩
    exact ⟨_, ⟨hfew, rfl⟩, rfl⟩

/-- An operation that binds loosely is read within the limit of operators. -/
theorem plus_eq_ok_iff {op : Operation} :
    s.plus e op = .ok s' ↔ s.operators < maxOperators ∧ s' = s.behindPlus e op := by
  simp only [plus, bind_eq_ok_iff, countOperator_eq_ok_iff]
  constructor
  · rintro ⟨_, ⟨hfew, rfl⟩, hs⟩
    exact ⟨hfew, (Except.ok.inj hs).symm⟩
  · rintro ⟨hfew, rfl⟩
    exact ⟨_, ⟨hfew, rfl⟩, rfl⟩

/-! ### Every step keeps the invariant -/

/-- A token that stands no deeper than the state's level keeps the limit of depth. -/
theorem Reads.shallow_append (h : s.Reads ts) (hd : d ≤ s.level.depth) :
    ∀ u ∈ ts ++ [⟨t, d⟩], u.depth ≤ maxNesting := by
  intro u hu
  rcases List.mem_append.mp hu with hu | hu
  · exact h.shallow u hu
  · rw [List.mem_singleton.mp hu]
    exact Nat.le_trans hd h.depth

/-- A number keeps the invariant. -/
theorem Reads.number (h : s.Reads ts) (hc : s.current = none) (text : String) :
    (s.supply (.literal text (Decimal.ofNumeral text))).Reads
      (ts ++ [⟨.number text, s.level.depth⟩]) := by
  have hshallow := h.shallow_append (t := .number text) (Nat.le_refl s.level.depth)
  obtain ⟨os, us, rfl, ho, hw⟩ := h.tokens
  simp only [hc] at hw
  refine ⟨⟨os, us ++ [⟨.number text, s.level.depth⟩], by simp, ho, ?_⟩, ?_, h.few, hshallow, ?_⟩
  · exact hw.supply (.number text)
  · simp [supply, h.operators, Token.isOperator]
  · exact Nat.le_trans (Nat.le_add_right _ _) h.depth

/-- A sign keeps the invariant within the limits. -/
theorem Reads.behindSign (h : s.Reads ts) (hc : s.current = none)
    (hfew : s.operators < maxOperators) (hdepth : s.level.depth < maxNesting) (g : Sign) :
    (s.behindSign g).Reads (ts ++ [⟨g.token, s.level.depth⟩]) := by
  have hshallow := h.shallow_append (t := g.token) (Nat.le_refl s.level.depth)
  obtain ⟨os, us, rfl, ho, hw⟩ := h.tokens
  simp only [hc] at hw
  refine ⟨⟨os, us ++ [⟨g.token, s.level.depth⟩], by simp, ho, ?_⟩, ?_, hfew, hshallow, hdepth⟩
  · simpa only [ParseState.behindSign, hc] using hw.sign g
  · simp [ParseState.behindSign, h.operators]
    omega

/-- An opening parenthesis keeps the invariant within the limit of depth. -/
theorem Reads.behindOpening (h : s.Reads ts) (hc : s.current = none)
    (hdepth : s.level.depth < maxNesting) :
    s.behindOpening.Reads (ts ++ [⟨.opening, s.level.depth⟩]) := by
  have hshallow := h.shallow_append (t := .opening) (Nat.le_refl s.level.depth)
  obtain ⟨os, us, rfl, ho, hw⟩ := h.tokens
  simp only [hc] at hw
  -- the new level waits for its first operand, and the old one for the parenthesis to be closed
  refine ⟨⟨os ++ us ++ [⟨.opening, s.level.depth⟩], [], by simp, ?_, ?_⟩, ?_, h.few, hshallow,
    hdepth⟩
  · exact .cons ho hw
  · simpa only [ParseState.behindOpening, hc] using ⟨[], [], rfl, .none, .none⟩
  · simp [ParseState.behindOpening, h.operators, Token.isOperator]

/-- An operation that binds tightly keeps the invariant within the limit of operators. -/
theorem Reads.behindTimes (h : s.Reads ts) (hc : s.current = some e)
    (hfew : s.operators < maxOperators) {op : Operation} (hop : op ∈ [Operation.mul, .div]) :
    (s.behindTimes e op).Reads (ts ++ [⟨op.token, s.level.nesting⟩]) := by
  have hshallow := h.shallow_append (t := op.token) (Nat.le_add_right s.level.nesting _)
  obtain ⟨os, us, rfl, ho, hl⟩ := h.tokens
  simp only [hc] at hl
  refine ⟨⟨os, us ++ [⟨op.token, s.level.nesting⟩], by simp, ho, ?_⟩, ?_, hfew, hshallow, h.depth⟩
  · exact hl.times hop
  · simp [ParseState.behindTimes, h.operators]
    omega

/-- An operation that binds loosely keeps the invariant within the limit of operators. -/
theorem Reads.behindPlus (h : s.Reads ts) (hc : s.current = some e)
    (hfew : s.operators < maxOperators) {op : Operation} (hop : op ∈ [Operation.add, .sub]) :
    (s.behindPlus e op).Reads (ts ++ [⟨op.token, s.level.nesting⟩]) := by
  have hshallow := h.shallow_append (t := op.token) (Nat.le_add_right s.level.nesting _)
  obtain ⟨os, us, rfl, ho, hl⟩ := h.tokens
  simp only [hc] at hl
  refine ⟨⟨os, us ++ [⟨op.token, s.level.nesting⟩], by simp, ho, ?_⟩, ?_, hfew, hshallow, h.depth⟩
  · exact hl.plus hop
  · simp [ParseState.behindPlus, h.operators]
    omega

/-- A closing parenthesis keeps the invariant: what stood in the parentheses becomes an operand of
    the level around them. -/
theorem Reads.behindClosing (h : s.Reads ts) (hc : s.current = some e) {ls : List Level}
    (houter : s.outer = l :: ls) :
    (s.behindClosing e l ls).Reads (ts ++ [⟨.closing, l.depth⟩]) := by
  have hdepth := h.depth
  obtain ⟨os, us, rfl, ho, hl⟩ := h.tokens
  simp only [hc] at hl
  rw [houter] at ho
  generalize hn : s.level.nesting = n at ho
  cases ho with
  | @cons _ _ os vs ho hw =>
    have hinner : Derives .expr (l.depth + 1) us (Level.join s.level.sum e) := hn ▸ hl.derives
    -- the parentheses stand one level less deep than what they enclose
    have hless : l.depth ≤ s.level.depth := by
      unfold Level.depth at hn ⊢
      omega
    refine ⟨⟨os, vs ++ (⟨.opening, l.depth⟩ :: us ++ [⟨.closing, l.depth⟩]), by simp, ho, ?_⟩, ?_,
      h.few, h.shallow_append hless, ?_⟩
    · exact hw.supply (.parens hinner)
    · simp [ParseState.behindClosing, supply, h.operators, Token.isOperator]
    · show l.nesting + 0 ≤ maxNesting
      exact Nat.le_trans (Nat.le_add_right _ _) (Nat.le_trans hless hdepth)

/-- A token where an operand has to follow keeps the invariant. -/
theorem Reads.step_none (h : s.Reads ts) (hc : s.current = none) (hs : s.step t = .ok s') :
    ∃ d, s'.Reads (ts ++ [⟨t, d⟩]) := by
  have hsign {g : Sign} (hs : s.sign g = .ok s') : s'.Reads (ts ++ [⟨g.token, s.level.depth⟩]) := by
    obtain ⟨hfew, hdepth, rfl⟩ := sign_eq_ok_iff.mp hs
    exact h.behindSign hc hfew hdepth g
  simp only [ParseState.step, hc] at hs
  split at hs
  case h_1 text =>
    obtain rfl := Except.ok.inj hs
    exact ⟨_, h.number hc text⟩
  case h_2 => exact ⟨_, hsign hs⟩
  case h_3 => exact ⟨_, hsign hs⟩
  case h_4 =>
    obtain ⟨hdepth, rfl⟩ := openLevel_eq_ok_iff.mp hs
    exact ⟨_, h.behindOpening hc hdepth⟩
  case h_5 => cases hs

/-- A token behind an operand keeps the invariant. -/
theorem Reads.step_some (h : s.Reads ts) (hc : s.current = some e) (hs : s.step t = .ok s') :
    ∃ d, s'.Reads (ts ++ [⟨t, d⟩]) := by
  have htimes {op : Operation} (hop : op ∈ [Operation.mul, .div]) (hs : s.times e op = .ok s') :
      s'.Reads (ts ++ [⟨op.token, s.level.nesting⟩]) := by
    obtain ⟨hfew, rfl⟩ := times_eq_ok_iff.mp hs
    exact h.behindTimes hc hfew hop
  have hplus {op : Operation} (hop : op ∈ [Operation.add, .sub]) (hs : s.plus e op = .ok s') :
      s'.Reads (ts ++ [⟨op.token, s.level.nesting⟩]) := by
    obtain ⟨hfew, rfl⟩ := plus_eq_ok_iff.mp hs
    exact h.behindPlus hc hfew hop
  simp only [ParseState.step, hc] at hs
  split at hs
  case h_1 => exact ⟨_, htimes (by simp) hs⟩
  case h_2 => exact ⟨_, htimes (by simp) hs⟩
  case h_3 => exact ⟨_, hplus (by simp) hs⟩
  case h_4 => exact ⟨_, hplus (by simp) hs⟩
  case h_5 =>
    -- any other token but a closing parenthesis of an open one is refused
    split at hs
    case h_1 => cases hs
    case h_3 => cases hs
    case h_2 houter _ _ _ _ =>
      obtain rfl := Except.ok.inj hs
      exact ⟨_, h.behindClosing hc houter⟩

/-- **Step.** A token that the reader takes keeps the invariant, at some depth. -/
theorem Reads.step (h : s.Reads ts) (hs : s.step t = .ok s') : ∃ d, s'.Reads (ts ++ [⟨t, d⟩]) := by
  cases hc : s.current with
  | none => exact h.step_none hc hs
  | some e => exact h.step_some hc hs

/-- **Run.** The invariant holds of the state behind any tokens that the reader takes. -/
theorem Reads.run {tokens : List Token} (h : s.Reads ts)
    (hs : tokens.foldlM ParseState.step s = .ok s') :
    ∃ us, us.map (·.token) = tokens ∧ s'.Reads (ts ++ us) := by
  induction tokens generalizing s ts with
  | nil =>
    obtain rfl := Except.ok.inj hs
    exact ⟨[], rfl, by simpa using h⟩
  | cons t tokens ih =>
    rw [List.foldlM_cons, bind_eq_ok_iff] at hs
    obtain ⟨s₁, hstep, hrun⟩ := hs
    obtain ⟨d, h₁⟩ := h.step hstep
    obtain ⟨us, hus, h₂⟩ := ih h₁ hrun
    exact ⟨⟨t, d⟩ :: us, by simp [hus], by simpa using h₂⟩

/-- At the end of the tokens, the expression that has been read is derived from all of them. -/
theorem Reads.finish (h : s.Reads ts) (hf : s.finish = .ok e) : Derives .expr 0 ts e := by
  obtain ⟨os, us, rfl, ho, hl⟩ := h.tokens
  unfold ParseState.finish at hf
  -- a missing operand and an open parenthesis are refused
  split at hf
  case h_1 => cases hf
  case h_2 => cases hf
  case h_3 e hc houter =>
    obtain rfl := Except.ok.inj hf
    simp only [hc] at hl
    rw [houter] at ho
    have hd := hl.derives
    generalize hn : s.level.nesting = n at ho hd
    cases ho
    exact hd

end ParseState

/-- **Soundness.** The expression that the reader gives is derived from the tokens that it took,
    within the limits. -/
theorem derives_of_ofTokens {tokens : List Token} (h : ofTokens tokens = .ok e) :
    ∃ ts, ts.map (·.token) = tokens ∧ Derives .expr 0 ts e ∧ operatorCount ts ≤ maxOperators ∧
      ∀ t ∈ ts, t.depth ≤ maxNesting := by
  obtain ⟨s, hrun, hf⟩ := bind_eq_ok_iff.mp h
  obtain ⟨ts, hts, hr⟩ := ParseState.Reads.start.run hrun
  exact ⟨ts, hts, hr.finish hf, hr.operators ▸ hr.few, hr.shallow⟩

end MathAgents.Expr
