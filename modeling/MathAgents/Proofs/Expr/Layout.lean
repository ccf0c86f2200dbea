import Mathlib.Data.List.Chain
import MathAgents.Proofs.Expr.NormalForm
import MathAgents.Proofs.Expr.Trace

namespace MathAgents.Expr

/-!
# The layout of expressions

The blanks of a text separate tokens and mean nothing else.  A *layout* of some tokens is a choice
of blanks in front of, between and behind them; only two numbers, and the halves of `**` and of
`//`, have to be kept apart.  Every layout spells its tokens, so what a text is parsed as and
evaluated to does not depend on the layout; and a text that is refused is refused in every layout
for the same reason, quoted as it is laid out.

* `Layout` — the layouts of a list of tokens.
* `Layout.spells` — a layout spells its tokens.
* `parse_of_spells`, `evaluate_of_spells` — a text is judged by its tokens alone.
* `layout_insignificant` — what is scanned, parsed and evaluated in one layout and in another.
-/

/-! ### Layouts -/

/-- The characters of a token. -/
def Token.chars : Token → List Char
  | .number text => text.toList
  | .plus => ['+']
  | .minus => ['-']
  | .star => ['*']
  | .slash => ['/']
  | .opening => ['(']
  | .closing => [')']

/-- Whether a token can be scanned: a number has to be a numeral. -/
def Token.Proper (t : Token) : Prop := ∀ text, t = .number text → IsNumeral text.toList

/-- Whether two tokens have to be kept apart, as they may be read as something else if nothing
    stands between them. -/
def Token.Clashes : Token → Token → Prop
  | .number _, .number _ | .star, .star | .slash, .slash => True
  | _, _ => False

/-- A token with the blanks behind it. -/
structure Item where
  token : Token
  gap : List Char

/-- The characters of a token and of the blanks behind it. -/
def Item.chars (i : Item) : List Char := i.token.chars ++ i.gap

/-- A choice of blanks in front of, between and behind some tokens. -/
structure Layout (tokens : List Token) where
  /-- The blanks in front of all tokens. -/
  margin : List Char
  items : List Item
  tokens_eq : items.map (·.token) = tokens
  proper : ∀ t ∈ tokens, t.Proper
  margin_blank : ∀ c ∈ margin, Text.isBlankChar c
  gaps_blank : ∀ i ∈ items, ∀ c ∈ i.gap, Text.isBlankChar c
  /-- Tokens that clash are kept apart. -/
  apart : items.IsChain fun i j => i.token.Clashes j.token → i.gap ≠ []

/-- The text that is laid out. -/
def Layout.text {tokens : List Token} (l : Layout tokens) : String :=
  String.ofList (l.margin ++ l.items.flatMap Item.chars)

/-- The layout with a space behind every token. -/
def Layout.spaced (tokens : List Token) (proper : ∀ t ∈ tokens, t.Proper) : Layout tokens where
  margin := []
  items := tokens.map (⟨·, [' ']⟩)
  tokens_eq := by
    rw [List.map_map]
    exact List.map_id tokens
  proper
  margin_blank := List.forall_mem_nil _
  gaps_blank := by
    intro i hi
    obtain ⟨t, -, rfl⟩ := List.mem_map.mp hi
    exact List.forall_mem_singleton.mpr rfl
  apart := by
    rw [List.isChain_map]
    exact (List.pairwise_of_forall fun _ _ _ => List.cons_ne_nil _ _).isChain

/-! ### A layout spells its tokens -/

variable {cs bs : List Char} {ts : List Token} {t u : Token}

/-- Blanks in front of a text add no tokens to it. -/
theorem Spells.blanks (h : Spells cs ts) (hb : ∀ c ∈ bs, Text.isBlankChar c) :
    Spells (bs ++ cs) ts := by
  induction bs with
  | nil => exact h
  | cons b bs ih =>
    obtain ⟨hb, hbs⟩ := List.forall_mem_cons.mp hb
    exact .blank hb (ih hbs)

/-- A token with a character of its own is that character. -/
theorem Token.chars_of_symbol {c : Char} (h : t.symbol? = some c) : t.chars = [c] := by
  cases t <;> cases h <;> rfl

/-- The first character of a token is not blank, and it starts a number exactly if the token is
    one. -/
theorem Token.head_chars (ht : t.Proper) {c : Char} (hc : c ∈ t.chars.head?) :
    Text.isBlankChar c = false ∧ (startsNumber c ↔ ∃ text, t = .number text) := by
  cases hs : t.symbol? with
  | none =>
    obtain ⟨text, rfl⟩ := Token.exists_number hs
    have hstarts : startsNumber c := (ht text rfl).startsNumber_of_mem (List.mem_of_mem_head? hc)
    exact ⟨not_blank_of_startsNumber hstarts, iff_of_true hstarts ⟨text, rfl⟩⟩
  | some d =>
    rw [Token.chars_of_symbol hs] at hc
    obtain rfl := Option.some.inj hc
    obtain ⟨hblank, hstarts⟩ := Token.not_blank_of_symbol hs
    refine ⟨hblank, iff_of_false (by simp [hstarts]) ?_⟩
    rintro ⟨text, rfl⟩
    cases hs

/-- Tokens have characters. -/
theorem Token.chars_ne_nil (ht : t.Proper) : t.chars ≠ [] := by
  cases t with
  | number text =>
    intro h
    have hdigit : text.toList.any Char.isDigit := (ht text rfl).any_isDigit
    rw [show text.toList = [] from h] at hdigit
    cases hdigit
  | _ => simp [chars]

/-- An operator that may not be written twice in one piece clashes with itself. -/
theorem Token.clashes_self {c : Char} (ht : t.symbol? = some c) (hc : isLoneOperator c) :
    t.Clashes t := by
  cases t with
  | star | slash => trivial
  | number => cases ht
  | plus | minus | opening | closing =>
    cases ht
    cases hc

/-- Whether a token ends in front of a text: nothing follows, or a blank, or a token that does not
    clash with it. -/
def Token.EndsBefore (t : Token) (cs : List Char) : Prop :=
  ∀ c ∈ cs.head?, Text.isBlankChar c ∨ ∃ u : Token, u.Proper ∧ ¬ t.Clashes u ∧ c ∈ u.chars.head?

/-- A text in front of which a number ends stops it. -/
theorem Token.EndsBefore.stops {text : String} (h : (Token.number text).EndsBefore cs) :
    Stops cs := by
  intro c hc hstarts
  rcases h c hc with hblank | ⟨u, hu, hclash, hhead⟩
  · rw [not_blank_of_startsNumber hstarts] at hblank
    cases hblank
  · obtain ⟨other, rfl⟩ := (Token.head_chars hu hhead).2.mp hstarts
    exact hclash trivial

/-- An operator that may not be written twice in one piece is not repeated where it ends. -/
theorem Token.EndsBefore.head?_ne {c : Char} (h : t.EndsBefore cs) (ht : t.symbol? = some c)
    (hc : isLoneOperator c) : cs.head? ≠ some c := by
  obtain ⟨hnotBlank, hnotNumber⟩ := Token.not_blank_of_symbol ht
  intro hhead
  rcases h c hhead with hblank | ⟨u, hu, hclash, hmem⟩
  · rw [hnotBlank] at hblank
    cases hblank
  · -- the next token starts with the same operator, so it is that operator
    cases hs : u.symbol? with
    | none =>
      have hstarts := (Token.head_chars hu hmem).2.mpr (Token.exists_number hs)
      rw [hnotNumber] at hstarts
      cases hstarts
    | some d =>
      rw [Token.chars_of_symbol hs] at hmem
      obtain rfl := Option.some.inj hmem
      rw [Token.symbol?_inj hs ht] at hclash
      exact hclash (Token.clashes_self ht hc)

/-- A token is spelled in front of a text where it ends. -/
theorem Spells.token (h : Spells cs ts) (ht : t.Proper) (hends : t.EndsBefore cs) :
    Spells (t.chars ++ cs) (t :: ts) := by
  cases hs : t.symbol? with
  | none =>
    obtain ⟨text, rfl⟩ := Token.exists_number hs
    have hnumber := Spells.number ((ht text rfl).isLongestNumeral hends.stops) h
    rwa [String.ofList_toList] at hnumber
  | some c =>
    rw [Token.chars_of_symbol hs]
    exact .symbol hs (hends.head?_ne hs) h

/-- The items of a layout spell their tokens. -/
theorem spells_items {items : List Item}
    (hproper : ∀ i ∈ items, i.token.Proper)
    (hblank : ∀ i ∈ items, ∀ c ∈ i.gap, Text.isBlankChar c)
    (hapart : items.IsChain fun i j => i.token.Clashes j.token → i.gap ≠ []) :
    Spells (items.flatMap Item.chars) (items.map (·.token)) := by
  induction items with
  | nil => exact .nil
  | cons i items ih =>
    obtain ⟨hi, hitems⟩ := List.forall_mem_cons.mp hproper
    obtain ⟨hgap, hgaps⟩ := List.forall_mem_cons.mp hblank
    have hrest := (ih hitems hgaps hapart.tail).blanks hgap
    have hends : i.token.EndsBefore (i.gap ++ items.flatMap Item.chars) := by
      intro c hc
      cases hg : i.gap with
      | cons b bs =>
        rw [hg] at hc
        obtain rfl := Option.some.inj hc
        exact .inl (hgap b (by simp [hg]))
      | nil =>
        -- nothing stands between this token and the next one, so they do not clash
        cases items with
        | nil => simp [hg] at hc
        | cons j items =>
          have hj := hitems j List.mem_cons_self
          have hclash : ¬ i.token.Clashes j.token := fun h =>
            (List.isChain_cons_cons.mp hapart).1 h hg
          refine .inr ⟨j.token, hj, hclash, ?_⟩
          rw [hg, List.nil_append, List.flatMap_cons, Item.chars, List.append_assoc,
            List.head?_append_of_ne_nil _ (Token.chars_ne_nil hj)] at hc
          exact hc
    have htoken := hrest.token hi hends
    simpa [Item.chars] using htoken

/-- **Layouts.** A layout spells its tokens. -/
theorem Layout.spells (l : Layout ts) : Spells l.text.toList ts := by
  obtain ⟨margin, items, rfl, hproper, hmargin, hgaps, hapart⟩ := l
  have hitems : ∀ i ∈ items, i.token.Proper := fun i hi => hproper _ (List.mem_map_of_mem hi)
  have h := (spells_items hitems hgaps hapart).blanks hmargin
  simpa [Layout.text] using h

/-! ### Texts are judged by their tokens -/

/-- The same error about a text that is written differently. -/
def EvalError.about (source : String) : EvalError → EvalError
  | .malformed _ detail => .malformed source detail
  | e => e

/-- A text is blank exactly if it spells no tokens. -/
theorem Spells.isBlank_iff {s : String} (h : Spells s.toList ts) : Text.isBlank s ↔ ts = [] := by
  constructor
  · intro hb
    have hscan := scan_of_spells h
    rw [scan_of_all_blank hb] at hscan
    exact (Except.ok.inj hscan).symm
  · rintro rfl
    unfold Text.isBlank
    generalize s.toList = cs at h
    generalize hts : ([] : List Token) = ts at h
    induction h with
    | nil => rfl
    | blank hc _ ih => rw [List.all_cons, hc, ih hts, Bool.and_self]
    | number | symbol => cases hts

/-- The expression of a text, or why there is none, by its tokens. -/
theorem parse_of_spells {s : String} (h : Spells s.toList ts) :
    parse s =
      if ts = [] then .error .emptyInput
      else (ofTokens ts).mapError fun fault => .malformed s fault.detail := by
  unfold parse
  by_cases hb : Text.isBlank s
  · rw [if_pos hb, if_pos (h.isBlank_iff.mp hb)]
  · rw [if_neg hb, if_neg (fun hts => hb (h.isBlank_iff.mpr hts)), scan_of_spells h]
    cases hts : ofTokens ts <;> simp [hts, Except.mapError]

/-- What goes wrong in an evaluation does not depend on the text of the expression. -/
theorem about_of_evaluateTree {e : Expr} {f : EvalError} (h : evaluateTree e = .error f)
    (source : String) : f.about source = f := by
  obtain ⟨-, n, -, -, hoffends, -⟩ := evaluateTree_eq_error_iff.mp h
  cases hoffends <;> rfl

/-- Two texts that spell the same tokens are parsed as the same expression, or refused for the same
    reason. -/
theorem parse_eq_of_spells {s s' : String} (h : Spells s.toList ts) (h' : Spells s'.toList ts) :
    parse s' = (parse s).mapError (·.about s') := by
  rw [parse_of_spells h, parse_of_spells h']
  split
  · rfl
  · cases ofTokens ts <;> rfl

/-- Two texts that spell the same tokens are evaluated with the same report, or the same error. -/
theorem evaluate_eq_of_spells {s s' : String} (h : Spells s.toList ts) (h' : Spells s'.toList ts) :
    evaluate s' = (evaluate s).mapError (·.about s') := by
  have hparse := parse_eq_of_spells h h'
  unfold evaluate
  rw [hparse]
  cases parse s with
  | error f => rfl
  | ok e =>
    show evaluateTree e = (evaluateTree e).mapError (·.about s')
    cases he : evaluateTree e with
    | ok r => rfl
    | error f => rw [Except.mapError, about_of_evaluateTree he]

/-! ### Layout is insignificant -/

/-- **Layout.** Scanning a layout gives exactly its tokens.  So two layouts of the same tokens are
    parsed as the same expression or refused alike, and evaluated with the same report or the same
    error; errors differ in nothing but the text that they quote. -/
theorem layout_insignificant (tokens : List Token) (l l' : Layout tokens) :
    Token.scan l.text.toList = .ok tokens ∧
      parse l'.text = (parse l.text).mapError (·.about l'.text) ∧
      evaluate l'.text = (evaluate l.text).mapError (·.about l'.text) :=
  ⟨scan_of_spells l.spells, parse_eq_of_spells l.spells l'.spells,
    evaluate_eq_of_spells l.spells l'.spells⟩

/-- A product in one piece and with a space behind every token: both have the same tokens, and the
    same report. -/
theorem layout_insignificant_product :
    let tokens : List Token := [.number "2", .star, .number "3."]
    Token.scan "2*3.".toList = .ok tokens ∧ Token.scan "2 * 3. ".toList = .ok tokens ∧
      evaluate "2 * 3. " = (evaluate "2*3.").mapError (·.about "2 * 3. ") := by
  intro tokens
  have htwo : IsNumeral ['2'] := .whole ⟨by decide, by simp⟩
  have hthree : IsNumeral ['3', '.'] :=
    @IsNumeral.pointed ['3'] [] ⟨by decide, by simp⟩ (List.forall_mem_nil _)
  have hproper : ∀ t ∈ tokens, t.Proper := by
    simp [tokens, Token.Proper, htwo, hthree]
  let tight : Layout tokens :=
    { margin := []
      items := [⟨.number "2", []⟩, ⟨.star, []⟩, ⟨.number "3.", []⟩]
      tokens_eq := rfl
      proper := hproper
      margin_blank := by simp
      gaps_blank := by simp
      apart := by simp [Token.Clashes] }
  have htight : tight.text = "2*3." := rfl
  have hspaced : (Layout.spaced tokens hproper).text = "2 * 3. " := rfl
  obtain ⟨hscan, -, hevaluate⟩ := layout_insignificant tokens tight (.spaced tokens hproper)
  obtain ⟨hscan', -, -⟩ := layout_insignificant tokens (.spaced tokens hproper) tight
  rw [htight] at hscan hevaluate
  rw [hspaced] at hscan' hevaluate
  exact ⟨hscan, hscan', hevaluate⟩

end MathAgents.Expr
