import MathAgents.Expr.Token
import MathAgents.Proofs.Outcome

namespace MathAgents.Expr

/-!
# The spelling of token lists

`Spells cs ts` says that the text `cs` is cut into the tokens `ts`: blanks stand anywhere between
tokens, a number is the longest numeral at its place, and neither `**` nor `//` is written in one
piece.  The relation does not mention how a text is scanned.

* `IsNumeral` — the texts of numbers, by their three forms.
* `isLongestNumeral_iff` — the scanner's number is a numeral, and no numeral in front of the
  same text is longer.
* `scan_eq_ok_iff` — a scan gives the tokens that the text spells, and a text that spells no
  tokens is refused.
-/

/-! ### Numerals -/

/-- At least one decimal digit, and nothing else. -/
def IsDigits (ds : List Char) : Prop := ds ≠ [] ∧ ∀ c ∈ ds, c.isDigit

/-- The texts of numbers: `12`, `12.` and `12.5`, or `.5`. -/
inductive IsNumeral : List Char → Prop
  | whole {ds : List Char} (hd : IsDigits ds) : IsNumeral ds
  | pointed {ds fs : List Char} (hd : IsDigits ds) (hf : ∀ c ∈ fs, c.isDigit) :
      IsNumeral (ds ++ '.' :: fs)
  | fraction {fs : List Char} (hf : IsDigits fs) : IsNumeral ('.' :: fs)

variable {cs ds p q : List Char}

/-- A numeral holds a digit. -/
theorem IsNumeral.any_isDigit (hp : IsNumeral p) : p.any Char.isDigit := by
  have key {ds : List Char} (hd : IsDigits ds) : ds.any Char.isDigit := by
    obtain ⟨c, hc⟩ := List.exists_mem_of_ne_nil ds hd.1
    exact List.any_eq_true.mpr ⟨c, hc, hd.2 c hc⟩
  cases hp with
  | whole hd => exact key hd
  | pointed hd _ => rw [List.any_append, key hd]; rfl
  | fraction hf => rw [List.any_cons, key hf, Bool.or_true]

/-- What the scanner takes as a number is a numeral as soon as it holds a digit. -/
theorem isNumeral_takeNumber (h : (takeNumber cs).any Char.isDigit) :
    IsNumeral (takeNumber cs) := by
  have digits (l : List Char) : ∀ c ∈ l.takeWhile Char.isDigit, c.isDigit :=
    fun c hc => List.all_eq_true.mp List.all_takeWhile c hc
  unfold takeNumber at h ⊢
  by_cases hw : cs.takeWhile Char.isDigit = []
  · -- no digit in front, so one stands behind a point
    split at h
    · next r hr =>
      rw [hw, List.nil_append] at h ⊢
      refine .fraction ⟨?_, digits r⟩
      intro he
      rw [he] at h
      exact absurd h (by decide)
    · rw [hw] at h
      exact absurd h (by decide)
  · split
    · exact .pointed ⟨hw, digits cs⟩ (digits _)
    · exact .whole ⟨hw, digits cs⟩

/-- A numeral in front of a text is part of what the scanner takes there. -/
theorem IsNumeral.prefix_takeNumber (hp : IsNumeral p) (q : List Char) :
    p <+: takeNumber (p ++ q) := by
  have pointed {ds fs : List Char} (hd : ∀ c ∈ ds, c.isDigit) (hf : ∀ c ∈ fs, c.isDigit) :
      ds ++ '.' :: fs <+: takeNumber (ds ++ '.' :: fs ++ q) := by
    have hw : (ds ++ '.' :: fs ++ q).takeWhile Char.isDigit = ds := by
      rw [List.append_assoc, List.takeWhile_append_of_pos hd]
      simp
    have hr : (ds ++ '.' :: fs ++ q).dropWhile Char.isDigit = '.' :: (fs ++ q) := by
      rw [List.append_assoc, List.dropWhile_append_of_pos hd]
      simp
    simp only [takeNumber, hw, hr, List.takeWhile_append_of_pos hf]
    rw [← List.cons_append, ← List.append_assoc]
    exact List.prefix_append _ _
  cases hp with
  | whole hd =>
    -- the text behind the digits may go on with more digits, or with a point
    simp only [takeNumber, List.takeWhile_append_of_pos hd.2]
    split
    · rw [List.append_assoc]
      exact List.prefix_append _ _
    · exact List.prefix_append _ _
  | pointed hd hf => exact pointed hd.2 hf
  | fraction hf =>
    -- a point with no digit in front of it
    have hnone : ∀ c ∈ ([] : List Char), c.isDigit := by simp
    exact pointed hnone hf.2

/-- What the scanner takes as a number is written in front of the text. -/
theorem takeNumber_isPrefix (cs : List Char) : takeNumber cs <+: cs :=
  ⟨dropNumber cs, takeNumber_append_dropNumber cs⟩

/-- No numeral in front of a text is longer than what the scanner takes there. -/
theorem length_le_takeNumber (hp : IsNumeral p) (h : p <+: cs) :
    p.length ≤ (takeNumber cs).length := by
  obtain ⟨q, rfl⟩ := h
  exact (hp.prefix_takeNumber q).length_le

/-- Whether a numeral in front of a text is the longest one there. -/
def IsLongestNumeral (ds cs : List Char) : Prop :=
  IsNumeral ds ∧ ds <+: cs ∧ ∀ p, IsNumeral p → p <+: cs → p.length ≤ ds.length

/-- **Longest match.** The scanner's number is the longest numeral in front of the text, and there
    is no other one. -/
theorem isLongestNumeral_iff :
    IsLongestNumeral ds cs ↔ ds = takeNumber cs ∧ (takeNumber cs).any Char.isDigit := by
  constructor
  · rintro ⟨hn, hp, hmax⟩
    obtain ⟨q, rfl⟩ := hp
    have hpre := hn.prefix_takeNumber q
    have hany : (takeNumber (ds ++ q)).any Char.isDigit := by
      obtain ⟨r, hr⟩ := hpre
      rw [← hr, List.any_append, hn.any_isDigit, Bool.true_or]
    have hle := hmax _ (isNumeral_takeNumber hany) (takeNumber_isPrefix _)
    exact ⟨hpre.eq_of_length_le hle, hany⟩
  · rintro ⟨rfl, hany⟩
    exact ⟨isNumeral_takeNumber hany, takeNumber_isPrefix cs, fun _ => length_le_takeNumber⟩

/-- Where the scanner takes a number with a digit, it is the longest numeral there. -/
theorem isLongestNumeral_takeNumber (hany : (takeNumber cs).any Char.isDigit) :
    IsLongestNumeral (takeNumber cs) (takeNumber cs ++ dropNumber cs) := by
  rw [takeNumber_append_dropNumber]
  exact isLongestNumeral_iff.mpr ⟨rfl, hany⟩

/-- Every character of a numeral may start one. -/
theorem IsNumeral.startsNumber_of_mem {c : Char} (hp : IsNumeral p) (hc : c ∈ p) :
    startsNumber c := by
  have digit {c : Char} (h : c.isDigit) : startsNumber c := by simp [startsNumber, h]
  cases hp with
  | whole hd => exact digit (hd.2 c hc)
  | pointed hd hf =>
    rcases List.mem_append.mp hc with hc | hc
    · exact digit (hd.2 c hc)
    · rcases List.mem_cons.mp hc with rfl | hc
      · rfl
      · exact digit (hf c hc)
  | fraction hf =>
    rcases List.mem_cons.mp hc with rfl | hc
    · rfl
    · exact digit (hf.2 c hc)

/-- A numeral is the longest one in front of a text that does not go on as a number. -/
theorem IsNumeral.isLongestNumeral (hn : IsNumeral ds) (hstop : ∀ c ∈ cs.head?, ¬ startsNumber c) :
    IsLongestNumeral ds (ds ++ cs) := by
  refine ⟨hn, List.prefix_append _ _, fun p hp hpre => ?_⟩
  rcases Nat.le_total p.length ds.length with hle | hle
  · exact hle
  · -- a longer numeral would go on with the first character of the text behind
    obtain ⟨q, rfl⟩ := List.prefix_of_prefix_length_le (List.prefix_append ds cs) hpre hle
    have hq : q <+: cs := (List.prefix_append_right_inj ds).mp hpre
    cases q with
    | nil => simp
    | cons c q =>
      obtain ⟨r, rfl⟩ := hq
      exact absurd (hp.startsNumber_of_mem (by simp)) (hstop c rfl)

/-! ### Tokens and their spelling -/

/-- The character of a token that is no number. -/
def Token.symbol? : Token → Option Char
  | .number _ => none
  | .plus => some '+'
  | .minus => some '-'
  | .star => some '*'
  | .slash => some '/'
  | .opening => some '('
  | .closing => some ')'

/-- A token without a character of its own is a number. -/
theorem Token.exists_number {t : Token} (h : t.symbol? = none) : ∃ text, t = .number text := by
  cases t with
  | number text => exact ⟨text, rfl⟩
  | _ => cases h

/-- Different tokens have different characters. -/
theorem Token.symbol?_inj {t u : Token} {c : Char} (h : t.symbol? = some c)
    (h' : u.symbol? = some c) : t = u := by
  cases t <;> cases h <;> cases u <;> cases h' <;> rfl

/-- The operators that may not be written twice in one piece. -/
def isLoneOperator (c : Char) : Bool := c == '*' || c == '/'

/-- The token lists that a text spells. -/
inductive Spells : List Char → List Token → Prop
  | nil : Spells [] []
  | blank {c : Char} {cs : List Char} {ts : List Token} (hc : Text.isBlankChar c)
      (h : Spells cs ts) : Spells (c :: cs) ts
  | number {ds cs : List Char} {ts : List Token} (hd : IsLongestNumeral ds (ds ++ cs))
      (h : Spells cs ts) : Spells (ds ++ cs) (.number (String.ofList ds) :: ts)
  | symbol {t : Token} {c : Char} {cs : List Char} {ts : List Token} (ht : t.symbol? = some c)
      (hc : isLoneOperator c → cs.head? ≠ some c) (h : Spells cs ts) : Spells (c :: cs) (t :: ts)

/-- A token whose character is no lone operator may stand in front of any text. -/
theorem Spells.sign {t : Token} {c : Char} {ts : List Token} (h : Spells cs ts)
    (ht : t.symbol? = some c) (hc : isLoneOperator c = false) : Spells (c :: cs) (t :: ts) :=
  .symbol ht (fun hl => absurd hl (by simp [hc])) h

/-- A character that starts a number is not blank. -/
theorem not_blank_of_startsNumber {c : Char} (h : startsNumber c) : Text.isBlankChar c = false := by
  rcases Bool.or_eq_true .. ▸ h with hd | hp
  · -- the digits lie between the blanks of ASCII and the first one behind it
    have hrange : 48 ≤ c.toNat ∧ c.toNat ≤ 57 := Char.isDigit_iff_toNat.mp hd
    simp only [Text.isBlankChar, Text.inRanges, Text.blankRanges, List.any_cons, List.any_nil,
      Bool.or_false, Bool.or_eq_false_iff, Bool.and_eq_false_iff, decide_eq_false_iff_not]
    omega
  · rw [eq_of_beq hp]
    decide

/-- Where the scanner takes a number with a digit, the text starts as a number. -/
theorem startsNumber_of_takeNumber {c : Char} {r : List Char}
    (h : (takeNumber (c :: r)).any Char.isDigit) : startsNumber c := by
  by_cases hd : c.isDigit
  · simp [startsNumber, hd]
  · have hw : (c :: r).takeWhile Char.isDigit = [] := List.takeWhile_cons_of_neg hd
    have hr : (c :: r).dropWhile Char.isDigit = c :: r := List.dropWhile_cons_of_neg hd
    simp only [takeNumber, hw, hr] at h
    split at h
    · next hc => simp [startsNumber, (List.cons.inj hc).1]
    · exact absurd h (by decide)

/-- The number in front of a text is read first, and then what it leaves. -/
theorem scan_takeNumber {cs : List Char} (h : (takeNumber cs).any Char.isDigit) :
    Token.scan cs =
      (Token.scan (dropNumber cs)).map (.number (String.ofList (takeNumber cs)) :: ·) := by
  cases cs with
  | nil => exact absurd h (by decide)
  | cons c r =>
    have hc : startsNumber c := startsNumber_of_takeNumber h
    rw [Token.scan, if_neg (by simp [not_blank_of_startsNumber hc]), dif_pos hc]
    exact if_pos h

/-- The longest numeral in front of a text is read first, and then the text behind it. -/
theorem scan_number (hd : IsLongestNumeral ds (ds ++ cs)) :
    Token.scan (ds ++ cs) = (Token.scan cs).map (.number (String.ofList ds) :: ·) := by
  obtain ⟨htake, hany⟩ := isLongestNumeral_iff.mp hd
  have hdrop : dropNumber (ds ++ cs) = cs := by
    have hcut := takeNumber_append_dropNumber (ds ++ cs)
    rw [← htake] at hcut
    exact List.append_cancel_left hcut
  rw [scan_takeNumber hany, hdrop, ← htake]

/-- A blank in front of a text is passed over. -/
theorem scan_blank {c : Char} (hc : Text.isBlankChar c) (cs : List Char) :
    Token.scan (c :: cs) = Token.scan cs := by
  rw [Token.scan, if_pos hc]

/-- Operators and parentheses are neither blank nor the start of a number. -/
theorem Token.not_blank_of_symbol {t : Token} {c : Char} (ht : t.symbol? = some c) :
    Text.isBlankChar c = false ∧ startsNumber c = false := by
  cases t <;> simp only [Token.symbol?, Option.some.injEq, reduceCtorEq] at ht <;> subst ht <;>
    decide

/-- An operator or a parenthesis in front of a text is read on its own, unless it is an operator
    written twice. -/
theorem scan_symbol {t : Token} {c : Char} {cs : List Char} (ht : t.symbol? = some c)
    (hc : isLoneOperator c → cs.head? ≠ some c) :
    Token.scan (c :: cs) = (Token.scan cs).map (t :: ·) := by
  obtain ⟨hb, hn⟩ := Token.not_blank_of_symbol ht
  rw [Token.scan, if_neg (by simp [hb]), dif_neg (by simp [hn])]
  cases t <;> simp only [Token.symbol?, Option.some.injEq, reduceCtorEq] at ht <;> subst ht
  case star => simp [hc (by decide)]
  case slash => simp [hc (by decide)]
  all_goals simp

/-- A text from which tokens are scanned spells them. -/
theorem spells_of_scan {ts : List Token} (h : Token.scan cs = .ok ts) : Spells cs ts := by
  -- the cases of the scan: the end, a blank, a number, and every symbol with what is refused of it
  fun_induction Token.scan cs generalizing ts with
  | case1 =>
    obtain rfl := Except.ok.inj h
    exact .nil
  | case2 c r hb ih => exact .blank hb (ih h)
  | case3 c r _ _ text hany =>
    rename_i ih
    obtain ⟨us, hs, rfl⟩ := map_eq_ok_iff.mp h
    have hspells := Spells.number (isLongestNumeral_takeNumber hany) (ih hs)
    rwa [takeNumber_append_dropNumber] at hspells
  | case5 r _ _ ih | case6 r _ _ _ ih | case11 r _ _ _ _ _ _ ih | case12 r _ _ _ _ _ _ _ ih =>
    obtain ⟨us, hs, rfl⟩ := map_eq_ok_iff.mp h
    exact (ih hs).sign rfl rfl
  | case8 r hnext _ _ _ _ ih | case10 r hnext _ _ _ _ _ ih =>
    obtain ⟨us, hs, rfl⟩ := map_eq_ok_iff.mp h
    exact .symbol rfl (fun _ => hnext) (ih hs)
  | case4 | case7 | case9 | case13 | case14 | case15 => cases h

/-- The tokens that a text spells are scanned from it. -/
theorem scan_of_spells {ts : List Token} (h : Spells cs ts) : Token.scan cs = .ok ts := by
  induction h with
  | nil => rw [Token.scan]
  | blank hc _ ih => rw [scan_blank hc, ih]
  | number hd _ ih =>
    rw [scan_number hd, ih]
    rfl
  | symbol ht hc _ ih =>
    rw [scan_symbol ht hc, ih]
    rfl

/-- **Scanning.** The scan of a text gives exactly the tokens that the text spells. -/
theorem scan_eq_ok_iff {ts : List Token} : Token.scan cs = .ok ts ↔ Spells cs ts :=
  ⟨spells_of_scan, scan_of_spells⟩

/-- A text spells its numbers as numerals. -/
theorem Spells.isNumeral {ts : List Token} (h : Spells cs ts) {text : String}
    (ht : .number text ∈ ts) : IsNumeral text.toList := by
  induction h with
  | nil => cases ht
  | blank _ _ ih => exact ih ht
  | number hd _ ih =>
    rcases List.mem_cons.mp ht with heq | ht
    · obtain rfl := Token.number.inj heq
      simpa using hd.1
    · exact ih ht
  | symbol hs _ _ ih =>
    rcases List.mem_cons.mp ht with rfl | ht
    · cases hs
    · exact ih ht

/-- A text of blanks alone has no tokens. -/
theorem scan_of_all_blank (hb : cs.all Text.isBlankChar) : Token.scan cs = .ok [] := by
  induction cs with
  | nil => rw [Token.scan]
  | cons c r ih =>
    rw [List.all_cons, Bool.and_eq_true] at hb
    rw [scan_blank hb.1, ih hb.2]

end MathAgents.Expr
