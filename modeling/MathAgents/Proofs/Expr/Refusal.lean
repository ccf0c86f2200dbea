import MathAgents.Proofs.Expr.Layout

namespace MathAgents

/-!
# Why a text is refused

A text may be wrong in several ways at once: blank, misspelled somewhere, no expression, too deep or
too long.  Only one of them is reported.  A text of blanks is empty; in any other text the first
place at which no token can be read decides; and where every token can be read, the text as a whole
is malformed.

* `SpellsUpTo` — the tokens that a text spells up to a place in it.
* `StartsWithFault` — the faults, by the characters at the place where they are found.
* `FirstFault` — the first fault of a text: nothing but tokens and blanks stands in front of it.
* `scan_eq_error_iff` — the scan of a text ends with its first fault.
* `refused_by_first_fault` — the error that a text is refused with.
-/

/-- Whether no range of one table overlaps with a range of another one. -/
def Text.apart (rs qs : List (Nat × Nat)) : Bool :=
  rs.all fun r => qs.all fun q => r.2.blt q.1 || q.2.blt r.1

/-- A code point lies in one of two tables only, if their ranges do not overlap. -/
theorem Text.not_inRanges_of_apart {rs qs : List (Nat × Nat)} {n : Nat} (hapart : apart rs qs)
    (hn : inRanges qs n) : inRanges rs n = false := by
  obtain ⟨q, hq, hrange⟩ := List.any_eq_true.mp hn
  simp only [Bool.and_eq_true, decide_eq_true_eq] at hrange
  refine List.any_eq_false.mpr fun r hr => ?_
  have hsides := List.all_eq_true.mp (List.all_eq_true.mp hapart r hr) q hq
  simp only [Bool.or_eq_true, Nat.blt_eq] at hsides
  simp only [Bool.and_eq_true, decide_eq_true_eq]
  omega

namespace Expr

variable {c : Char} {cs rest : List Char} {ts : List Token} {fault : ScanFault}

/-! ### Classes of characters -/

/-- Ranges of characters that are no letters: those of ASCII and of its neighbours, and blanks. -/
def letterless : List (Nat × Nat) :=
  [(0, 0x40), (0x5B, 0x60), (0x7B, 0xA9), (0xD7, 0xD7), (0xF7, 0xF7)] ++ Text.blankRanges

/-- No character of these ranges but the underscore starts a name. -/
theorem not_startsName_of_letterless (hc : Text.inRanges letterless c.toNat) (hne : c ≠ '_') :
    startsName c = false := by
  have hletter : Text.isLetter c = false := Text.not_inRanges_of_apart (by decide +kernel) hc
  simp [startsName, hletter, hne]

/-- No blank starts a name. -/
theorem not_startsName_of_blank (hc : Text.isBlankChar c) : startsName c = false := by
  have hrange : Text.inRanges letterless c.toNat := by
    rw [letterless, Text.inRanges, List.any_append]
    exact Bool.or_eq_true .. ▸ .inr hc
  refine not_startsName_of_letterless hrange ?_
  rintro rfl
  exact absurd hc (by decide)

/-- No character of a number starts a name. -/
theorem not_startsName_of_startsNumber (hc : startsNumber c) : startsName c = false := by
  rcases Bool.or_eq_true .. ▸ hc with hdigit | hpoint
  · have hrange : 48 ≤ c.toNat ∧ c.toNat ≤ 57 := Char.isDigit_iff_toNat.mp hdigit
    have hletterless : Text.inRanges letterless c.toNat :=
      List.any_eq_true.mpr ⟨(0, 0x40), by simp [letterless], by simp; omega⟩
    refine not_startsName_of_letterless hletterless ?_
    rintro rfl
    exact absurd hdigit (by decide)
  · rw [eq_of_beq hpoint]
    exact not_startsName_of_letterless (by decide) (by decide)

/-- The operators of other notations. -/
def foreignOperators : List Char := ['%', '^', '&', '|', '<', '>', '=', '!', '~', '@', '×', '÷']

theorem isForeignOperator_iff : isForeignOperator c ↔ c ∈ foreignOperators := by
  simp [isForeignOperator, foreignOperators]

/-- Whether a character is part of no token and separates none. -/
structure IsForeign (c : Char) : Prop where
  not_blank : ¬ Text.isBlankChar c
  not_startsNumber : ¬ startsNumber c
  symbol?_ne : ∀ t : Token, t.symbol? ≠ some c

/-- The operators of other notations are no tokens, and start no names. -/
theorem isForeign_of_mem (hc : c ∈ foreignOperators) : IsForeign c ∧ startsName c = false := by
  have hall : foreignOperators.all fun c => !Text.isBlankChar c && !startsNumber c &&
      !(['+', '-', '*', '/', '(', ')'].contains c) && Text.inRanges letterless c.toNat &&
      c != '_' := by decide
  have hclass := List.all_eq_true.mp hall c hc
  simp only [Bool.and_eq_true, Bool.not_eq_true', bne_iff_ne] at hclass
  obtain ⟨⟨⟨⟨hblank, hnumber⟩, hsymbol⟩, hletterless⟩, hne⟩ := hclass
  refine ⟨⟨by simp [hblank], by simp [hnumber], fun t ht => ?_⟩,
    not_startsName_of_letterless hletterless hne⟩
  cases t <;> cases ht <;> exact absurd hsymbol (by decide)

/-- Names start with characters that are no tokens and no operators of other notations. -/
theorem isForeign_of_startsName (hc : startsName c) : IsForeign c ∧ c ∉ foreignOperators := by
  refine ⟨⟨fun hblank => ?_, fun hnumber => ?_, fun t ht => ?_⟩, fun hmem => ?_⟩
  · rw [not_startsName_of_blank hblank] at hc
    cases hc
  · rw [not_startsName_of_startsNumber hnumber] at hc
    cases hc
  · have hname : startsName c = false := by
      cases t <;> cases ht <;> exact not_startsName_of_letterless (by decide) (by decide)
    rw [hname] at hc
    cases hc
  · rw [(isForeign_of_mem hmem).2] at hc
    cases hc

/-! ### Faults -/

/-- The tokens that a text spells up to the place from which on `rest` is left of it. -/
inductive SpellsUpTo (rest : List Char) : List Char → List Token → Prop
  | here : SpellsUpTo rest rest []
  | blank {c : Char} {cs : List Char} {ts : List Token} (hc : Text.isBlankChar c)
      (h : SpellsUpTo rest cs ts) : SpellsUpTo rest (c :: cs) ts
  | number {ds cs : List Char} {ts : List Token} (hd : IsLongestNumeral ds (ds ++ cs))
      (h : SpellsUpTo rest cs ts) :
      SpellsUpTo rest (ds ++ cs) (.number (String.ofList ds) :: ts)
  | symbol {t : Token} {c : Char} {cs : List Char} {ts : List Token} (ht : t.symbol? = some c)
      (hc : isLoneOperator c → cs.head? ≠ some c) (h : SpellsUpTo rest cs ts) :
      SpellsUpTo rest (c :: cs) (t :: ts)

/-- The fault that a text starts with. -/
inductive StartsWithFault : List Char → ScanFault → Prop
  /-- An operator of another notation. -/
  | foreign {c : Char} {behind : List Char} (hc : c ∈ foreignOperators) :
      StartsWithFault (c :: behind) (.unsupported (String.singleton c))
  /-- An operator that is written twice in one piece. -/
  | doubled {c : Char} {behind : List Char} (hc : isLoneOperator c) :
      StartsWithFault (c :: c :: behind) (.unsupported (String.ofList [c, c]))
  /-- A point without a digit. -/
  | point {behind : List Char} (hb : ∀ d ∈ behind.head?, ¬ d.isDigit) :
      StartsWithFault ('.' :: behind) (.malformedNumber ".")
  /-- A name, up to the first character that cannot go on with it. -/
  | name {c : Char} {tail behind : List Char} (hc : startsName c)
      (ht : ∀ d ∈ tail, continuesName d) (hb : ∀ d ∈ behind.head?, ¬ continuesName d) :
      StartsWithFault (c :: (tail ++ behind)) (.name (String.ofList (c :: tail)))
  /-- Any other character. -/
  | stray {c : Char} {behind : List Char} (hc : IsForeign c) (hf : c ∉ foreignOperators)
      (hn : ¬ startsName c) : StartsWithFault (c :: behind) (.stray c)

/-- The first fault of a text: there are nothing but tokens and blanks in front of it. -/
def FirstFault (cs : List Char) (fault : ScanFault) : Prop :=
  ∃ rest ts, SpellsUpTo rest cs ts ∧ StartsWithFault rest fault

/-! ### Scans that end with a fault -/

/-- The tokens in front of a place are scanned first, and then what is left there. -/
theorem SpellsUpTo.scan_eq (h : SpellsUpTo rest cs ts) :
    Token.scan cs = (Token.scan rest).map (ts ++ ·) := by
  induction h with
  | here => cases Token.scan rest <;> rfl
  | blank hc _ ih => rw [scan_blank hc, ih]
  | number hd _ ih =>
    rw [scan_number hd, ih]
    cases Token.scan rest <;> rfl
  | symbol ht hc _ ih =>
    rw [scan_symbol ht hc, ih]
    cases Token.scan rest <;> rfl

/-- A text that starts with a character of no token is refused there. -/
theorem IsForeign.scan_eq (hc : IsForeign c) (cs : List Char) :
    Token.scan (c :: cs) =
      if c ∈ foreignOperators then .error (.unsupported (String.singleton c))
      else if startsName c then .error (.name (String.ofList (c :: cs.takeWhile continuesName)))
      else .error (.stray c) := by
  have hne (t : Token) {d : Char} (ht : t.symbol? = some d) : c ≠ d := by
    rintro rfl
    exact hc.symbol?_ne t ht
  rw [Token.scan, if_neg hc.not_blank, dif_neg hc.not_startsNumber, if_neg (hne .plus rfl),
    if_neg (hne .minus rfl), if_neg (hne .star rfl), if_neg (hne .slash rfl),
    if_neg (hne .opening rfl), if_neg (hne .closing rfl)]
  simp only [isForeignOperator_iff]

/-- A point without a digit is all that the scanner takes as a number. -/
theorem takeNumber_point (hcs : ∀ d ∈ cs.head?, ¬ d.isDigit) : takeNumber ('.' :: cs) = ['.'] := by
  have hdigits : cs.takeWhile Char.isDigit = [] := by
    cases cs with
    | nil => rfl
    | cons d cs => exact List.takeWhile_cons_of_neg (hcs d rfl)
  simp [takeNumber, hdigits]

/-- A text that starts with a fault is refused for it. -/
theorem StartsWithFault.scan_eq (h : StartsWithFault cs fault) : Token.scan cs = .error fault := by
  cases h with
  | foreign hc => rw [(isForeign_of_mem hc).1.scan_eq, if_pos hc]
  | @doubled c behind hc =>
    rcases Bool.or_eq_true .. ▸ hc with hstar | hslash
    · rw [eq_of_beq hstar, Token.scan]
      rfl
    · rw [eq_of_beq hslash, Token.scan]
      rfl
  | point hb =>
    rw [Token.scan, if_neg (by decide), dif_pos (by decide), takeNumber_point hb]
    rfl
  | @name c tail behind hc ht hb =>
    obtain ⟨hforeign, hoperator⟩ := isForeign_of_startsName hc
    have hbehind : behind.takeWhile continuesName = [] := by
      cases behind with
      | nil => rfl
      | cons d behind => exact List.takeWhile_cons_of_neg (hb d rfl)
    have htail : (tail ++ behind).takeWhile continuesName = tail := by
      rw [List.takeWhile_append_of_pos ht, hbehind, List.append_nil]
    rw [hforeign.scan_eq, if_neg hoperator, if_pos hc, htail]
  | stray hc hf hn => rw [hc.scan_eq, if_neg hf, if_neg hn]

/-- Where the scanner takes no digit as a number, it takes a point with no digit behind it. -/
theorem startsWithFault_of_not_any (hc : startsNumber c)
    (h : ¬ (takeNumber (c :: cs)).any Char.isDigit) :
    StartsWithFault (c :: cs) (.malformedNumber (String.ofList (takeNumber (c :: cs)))) := by
  -- a digit would be a numeral, and so part of what is taken
  have hnone (ds : List Char) (hd : IsNumeral ds) : ¬ ds <+: c :: cs := by
    rintro ⟨behind, hbehind⟩
    have htaken := hd.prefix_takeNumber behind
    rw [hbehind] at htaken
    exact h (List.any_eq_true.mpr ((List.any_eq_true.mp hd.any_isDigit).imp fun d hd =>
      ⟨htaken.subset hd.1, hd.2⟩))
  have hdigit (d : Char) (hd : d.isDigit) : IsDigits [d] := ⟨by simp, by simpa using hd⟩
  have hpoint : c = '.' := by
    rcases Bool.or_eq_true .. ▸ hc with hd | hpoint
    · exact absurd ⟨cs, rfl⟩ (hnone [c] (.whole (hdigit c hd)))
    · exact eq_of_beq hpoint
  subst hpoint
  have hbehind : ∀ d ∈ cs.head?, ¬ d.isDigit := by
    intro d hhead hd
    obtain ⟨behind, rfl⟩ := List.head?_eq_some_iff.mp hhead
    exact hnone ['.', d] (.fraction (hdigit d hd)) ⟨behind, rfl⟩
  rw [takeNumber_point hbehind]
  exact .point hbehind

/-! ### First faults -/

theorem FirstFault.blank (h : FirstFault cs fault) (hc : Text.isBlankChar c) :
    FirstFault (c :: cs) fault := by
  obtain ⟨rest, ts, hspells, hfault⟩ := h
  exact ⟨rest, ts, .blank hc hspells, hfault⟩

theorem FirstFault.number {ds : List Char} (h : FirstFault cs fault)
    (hd : IsLongestNumeral ds (ds ++ cs)) : FirstFault (ds ++ cs) fault := by
  obtain ⟨rest, ts, hspells, hfault⟩ := h
  exact ⟨rest, _, .number hd hspells, hfault⟩

theorem FirstFault.symbol (h : FirstFault cs fault) (t : Token) (ht : t.symbol? = some c)
    (hc : isLoneOperator c → cs.head? ≠ some c) : FirstFault (c :: cs) fault := by
  obtain ⟨rest, ts, hspells, hfault⟩ := h
  exact ⟨rest, _, .symbol ht hc hspells, hfault⟩

/-- A token whose character is no lone operator may stand in front of any fault. -/
theorem FirstFault.sign (h : FirstFault cs fault) (t : Token) (ht : t.symbol? = some c)
    (hc : isLoneOperator c = false) : FirstFault (c :: cs) fault :=
  h.symbol t ht fun hl => absurd hl (by simp [hc])

/-- A text that starts with a fault has it as its first one. -/
theorem StartsWithFault.firstFault (h : StartsWithFault cs fault) : FirstFault cs fault :=
  ⟨cs, [], .here, h⟩

/-- An operator written twice is a fault. -/
theorem startsWithFault_of_head? (hc : isLoneOperator c) (hcs : cs.head? = some c) :
    StartsWithFault (c :: cs) (.unsupported (String.ofList [c, c])) := by
  obtain ⟨behind, rfl⟩ := List.head?_eq_some_iff.mp hcs
  exact .doubled hc

/-- A name is a fault. -/
theorem startsWithFault_of_startsName (hc : startsName c) (cs : List Char) :
    StartsWithFault (c :: cs) (.name (String.ofList (c :: cs.takeWhile continuesName))) := by
  have hbehind : ∀ d ∈ (cs.dropWhile continuesName).head?, ¬ continuesName d := by
    intro d hd
    have hfirst := List.head?_dropWhile_not continuesName cs
    rw [hd] at hfirst
    simpa using hfirst
  have htail : ∀ d ∈ cs.takeWhile continuesName, continuesName d :=
    fun d hd => List.all_eq_true.mp List.all_takeWhile d hd
  have hfault := StartsWithFault.name hc htail hbehind
  rwa [List.takeWhile_append_dropWhile] at hfault

/-- A scan that fails ends at the first fault. -/
theorem firstFault_of_scan (h : Token.scan cs = .error fault) : FirstFault cs fault := by
  -- the cases of the scan: what is no fault leaves the rest of the text to be scanned
  fun_induction Token.scan cs generalizing fault with
  | case1 => cases h
  | case2 c r hb ih => exact (ih h).blank hb
  | case3 c r _ _ text hany =>
    rename_i ih
    have hfirst := (ih (map_eq_error_iff.mp h)).number (isLongestNumeral_takeNumber hany)
    rwa [takeNumber_append_dropNumber] at hfirst
  | case4 c r _ hn =>
    rename_i hnone
    obtain rfl := Except.error.inj h
    exact (startsWithFault_of_not_any hn hnone).firstFault
  | case5 r _ _ ih => exact (ih (map_eq_error_iff.mp h)).sign .plus rfl rfl
  | case6 r _ _ _ ih => exact (ih (map_eq_error_iff.mp h)).sign .minus rfl rfl
  | case7 r hnext | case9 r hnext =>
    obtain rfl := Except.error.inj h
    exact (startsWithFault_of_head? rfl hnext).firstFault
  | case8 r hnext _ _ _ _ ih => exact (ih (map_eq_error_iff.mp h)).symbol .star rfl fun _ => hnext
  | case10 r hnext _ _ _ _ _ ih =>
    exact (ih (map_eq_error_iff.mp h)).symbol .slash rfl fun _ => hnext
  | case11 r _ _ _ _ _ _ ih => exact (ih (map_eq_error_iff.mp h)).sign .opening rfl rfl
  | case12 r _ _ _ _ _ _ _ ih => exact (ih (map_eq_error_iff.mp h)).sign .closing rfl rfl
  | case13 c r _ _ _ _ _ _ _ _ hf =>
    obtain rfl := Except.error.inj h
    exact (StartsWithFault.foreign (isForeignOperator_iff.mp hf)).firstFault
  | case14 c r _ _ _ _ _ _ _ _ _ hname =>
    obtain rfl := Except.error.inj h
    exact (startsWithFault_of_startsName hname r).firstFault
  | case15 c r hblank hnumber hplus hminus hstar hslash hopening hclosing hf hname =>
    obtain rfl := Except.error.inj h
    refine (StartsWithFault.stray ⟨hblank, hnumber, fun t ht => ?_⟩ ?_ hname).firstFault
    · cases t <;> cases ht <;> contradiction
    · exact fun hmem => hf (isForeignOperator_iff.mpr hmem)

/-- **Scanning.** A scan ends with the first fault of the text, and with no fault if there is none. -/
theorem scan_eq_error_iff : Token.scan cs = .error fault ↔ FirstFault cs fault := by
  refine ⟨firstFault_of_scan, ?_⟩
  rintro ⟨rest, ts, hspells, hfault⟩
  rw [hspells.scan_eq, hfault.scan_eq]
  rfl

/-- A text has no fault exactly if all of it is spelled as tokens. -/
theorem not_firstFault_iff : (¬ ∃ fault, FirstFault cs fault) ↔ ∃ ts, Spells cs ts := by
  simp only [← scan_eq_error_iff, ← scan_eq_ok_iff]
  cases Token.scan cs <;> simp

/-! ### Refusals -/

/-- The error that a fault is reported with, in a text. -/
def ScanFault.toError (source : String) : ScanFault → EvalError
  | .unsupported symbol => .unsupported symbol
  | fault => .malformed source fault.detail

variable {s : String} {e : EvalError}

/-- A text is refused for its first fault, whatever else is wrong with it. -/
theorem parse_of_firstFault (h : FirstFault s.toList fault) : parse s = .error (fault.toError s) := by
  have hscan := scan_eq_error_iff.mpr h
  have hblank : ¬ Text.isBlank s := by
    intro hblank
    rw [scan_of_all_blank hblank] at hscan
    cases hscan
  unfold parse
  rw [if_neg hblank, hscan]
  cases fault <;> rfl

/-- A text that spells tokens, and that is not blank, is only refused as malformed. -/
theorem exists_malformed_of_spells (h : Spells s.toList ts) (hblank : ¬ Text.isBlank s)
    (he : parse s = .error e) : ∃ detail, e = .malformed s detail := by
  rw [parse_of_spells h, if_neg fun hts => hblank (h.isBlank_iff.mpr hts)] at he
  cases htokens : ofTokens ts with
  | ok tree =>
    rw [htokens] at he
    cases he
  | error fault =>
    rw [htokens] at he
    exact ⟨fault.detail, (Except.error.inj he).symm⟩

/-- A text is refused as empty if it is blank, and only then. -/
theorem parse_eq_emptyInput_iff : parse s = .error .emptyInput ↔ Text.isBlank s := by
  refine ⟨fun he => ?_, fun hblank => by rw [parse, if_pos hblank]⟩
  by_contra hblank
  cases hscan : Token.scan s.toList with
  | error fault =>
    rw [parse_of_firstFault (scan_eq_error_iff.mp hscan)] at he
    cases fault <;> cases he
  | ok ts =>
    obtain ⟨detail, hmalformed⟩ := exists_malformed_of_spells (scan_eq_ok_iff.mp hscan) hblank he
    cases hmalformed

/-- A text is refused for an operator that expressions do not have if its first fault is one, and
    only then. -/
theorem parse_eq_unsupported_iff {symbol : String} :
    parse s = .error (.unsupported symbol) ↔ FirstFault s.toList (.unsupported symbol) := by
  refine ⟨fun he => ?_, parse_of_firstFault⟩
  have hblank : ¬ Text.isBlank s := by
    intro hblank
    rw [parse_eq_emptyInput_iff.mpr hblank] at he
    cases he
  cases hscan : Token.scan s.toList with
  | error fault =>
    have hfirst := scan_eq_error_iff.mp hscan
    rw [parse_of_firstFault hfirst] at he
    cases fault <;> cases he
    exact hfirst
  | ok ts =>
    obtain ⟨detail, hmalformed⟩ := exists_malformed_of_spells (scan_eq_ok_iff.mp hscan) hblank he
    cases hmalformed

/-- **Refusal.** A text is refused as empty exactly if it is blank.  It has at most one first fault;
    where it has one it is refused with the error of that fault, whatever else is wrong with it.  A
    text without a fault is spelled as tokens throughout: unless it is blank, it is only refused as
    malformed, with all of it quoted.  So an operator is reported only where it is the first
    fault. -/
theorem refused_by_first_fault (s : String) :
    (parse s = .error .emptyInput ↔ ∀ c ∈ s.toList, Text.isBlankChar c) ∧
    (∀ fault, FirstFault s.toList fault →
      parse s = .error (fault.toError s) ∧
      ∀ other, FirstFault s.toList other → other = fault) ∧
    ((¬ ∃ fault, FirstFault s.toList fault) ↔ ∃ ts, Spells s.toList ts) ∧
    (∀ e, (¬ ∃ fault, FirstFault s.toList fault) → (¬ ∀ c ∈ s.toList, Text.isBlankChar c) →
      parse s = .error e → ∃ detail, e = .malformed s detail) ∧
    ∀ symbol, parse s = .error (.unsupported symbol) ↔
      FirstFault s.toList (.unsupported symbol) := by
  have hblank : Text.isBlank s ↔ ∀ c ∈ s.toList, Text.isBlankChar c := List.all_eq_true
  rw [← hblank]
  refine ⟨parse_eq_emptyInput_iff, fun fault h => ⟨parse_of_firstFault h, fun other ho => ?_⟩,
    not_firstFault_iff, fun e hnone hs he => ?_, fun symbol => parse_eq_unsupported_iff⟩
  · have heq : Except.error other = (.error fault : Except ScanFault (List Token)) :=
      (scan_eq_error_iff.mpr ho).symm.trans (scan_eq_error_iff.mpr h)
    exact Except.error.inj heq
  · obtain ⟨ts, hspells⟩ := not_firstFault_iff.mp hnone
    exact exists_malformed_of_spells hspells hs he

/-- A text with an open parenthesis, a power and a remainder: the power is reported. -/
theorem refused_by_first_fault_power :
    FirstFault "(1.5**x %".toList (.unsupported "**") ∧
      parse "(1.5**x %" = .error (.unsupported "**") := by
  have hnumeral : IsNumeral ['1', '.', '5'] :=
    @IsNumeral.pointed ['1'] ['5'] ⟨by decide, by simp⟩ (by simp)
  have hstop : ∀ c ∈ ['*', '*', 'x', ' ', '%'].head?, ¬ startsNumber c := by
    simp [startsNumber]
  have hpower : FirstFault ['*', '*', 'x', ' ', '%'] (.unsupported "**") :=
    (StartsWithFault.doubled rfl).firstFault
  have htext : "(1.5**x %".toList = '(' :: (['1', '.', '5'] ++ ['*', '*', 'x', ' ', '%']) := rfl
  have hfirst : FirstFault "(1.5**x %".toList (.unsupported "**") := by
    rw [htext]
    exact (hpower.number (hnumeral.isLongestNumeral hstop)).sign .opening rfl rfl
  exact ⟨hfirst, ((refused_by_first_fault "(1.5**x %").2.1 _ hfirst).1⟩

end Expr

end MathAgents
