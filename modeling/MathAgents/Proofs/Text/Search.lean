import MathAgents.Text.Blank
import MathAgents.Text.Search

namespace MathAgents.Text

/-!
# What is found in a text

Trimming takes the blanks off the ends of a text and leaves the rest of it alone, and a search stops
at the first occurrence of its pattern.  Where a text is made of pieces, the lemmas of this file say
what comes of each piece.

* `Trimmed`, `trimChars_append` — trimming what stands around a trimmed text.
* `cut?_skip`, `cut?_first` — a search passes over characters that do not start the pattern.
* `cut?_past` — a search passes over a text without the pattern that ends where the pattern cannot.
* `cut?_start` — a search stops at a pattern whose first character is found only there.
* `cut?_eq_some_iff` — a search stops where the pattern stands first.
* `infix_of_cut?` — what is found is in the text.
-/

variable {cs before behind pattern : List Char} {c : Char}

/-! ### Trimming -/

/-- Whether neither end of a text is blank. -/
structure Trimmed (cs : List Char) : Prop where
  left : ∀ c, cs.head? = some c → ¬ isBlankChar c
  right : ∀ c, cs.getLast? = some c → ¬ isBlankChar c

theorem trimLeft_append_of_head (h : ∀ c, cs.head? = some c → ¬ isBlankChar c)
    (before : List Char) : trimLeft (before ++ cs) = trimLeft before ++ cs := by
  induction before with
  | nil =>
    cases cs with
    | nil => rfl
    | cons c cs => exact List.dropWhile_cons_of_neg (h c rfl)
  | cons b before ih =>
    by_cases hb : isBlankChar b
    · simpa [trimLeft, hb] using ih
    · simp [trimLeft, hb]

theorem trimRight_append_of_last (h : ∀ c, cs.getLast? = some c → ¬ isBlankChar c)
    (behind : List Char) : trimRight (cs ++ behind) = cs ++ trimRight behind := by
  have hreverse : ∀ c, cs.reverse.head? = some c → ¬ isBlankChar c := by
    intro c hc
    exact h c (by rwa [List.head?_reverse] at hc)
  have hleft := trimLeft_append_of_head hreverse behind.reverse
  simp only [trimLeft] at hleft
  simp [trimRight, hleft]

/-- What stands around a trimmed text is trimmed on its own. -/
theorem trimChars_append (h : Trimmed cs) (hne : cs ≠ []) (before behind : List Char) :
    trimChars (before ++ cs ++ behind) = trimLeft before ++ cs ++ trimRight behind := by
  have hleft : ∀ c, (cs ++ behind).head? = some c → ¬ isBlankChar c := by
    obtain ⟨c, cs, rfl⟩ := List.exists_cons_of_ne_nil hne
    exact h.left
  have hright : ∀ c, (trimLeft before ++ cs).getLast? = some c → ¬ isBlankChar c := by
    intro c hc
    have hlast := List.getLast?_eq_some_getLast hne
    rw [List.getLast?_append, hlast, Option.some_or] at hc
    exact h.right c (hlast.trans hc)
  rw [trimChars, List.append_assoc, trimLeft_append_of_head hleft, ← List.append_assoc,
    trimRight_append_of_last hright]

/-- Nothing is left of blanks. -/
theorem trimLeft_eq_nil (h : cs.all isBlankChar) : trimLeft cs = [] := by
  have happend := trimLeft_append h []
  rwa [List.append_nil] at happend

theorem trimRight_eq_nil (h : cs.all isBlankChar) : trimRight cs = [] := by
  have happend := trimRight_append h []
  rwa [List.nil_append] at happend

/-- A trimmed text is what is left of it between blanks. -/
theorem trimChars_blanks (h : Trimmed cs) (hne : cs ≠ []) (hbefore : before.all isBlankChar)
    (hbehind : behind.all isBlankChar) : trimChars (before ++ cs ++ behind) = cs := by
  rw [trimChars_append h hne, trimLeft_eq_nil hbefore, trimRight_eq_nil hbehind, List.append_nil,
    List.nil_append]

theorem trimLeft_isSuffix (cs : List Char) : trimLeft cs <:+ cs := List.dropWhile_suffix isBlankChar

theorem trimChars_isPrefix (cs : List Char) : trimChars cs <+: trimLeft cs := by
  rw [← List.reverse_suffix]
  simpa [trimChars, trimRight] using List.dropWhile_suffix isBlankChar

/-- What is left of a text is a piece of it. -/
theorem trimChars_isInfix (cs : List Char) : trimChars cs <:+: cs :=
  (trimChars_isPrefix cs).isInfix.trans (trimLeft_isSuffix cs).isInfix

/-- Trimming takes the blanks off both ends. -/
theorem trimmed_trimChars (cs : List Char) : Trimmed (trimChars cs) := by
  have hdrop (ds : List Char) (c : Char) (hc : (ds.dropWhile isBlankChar).head? = some c) :
      ¬ isBlankChar c := by
    have hfirst := List.head?_dropWhile_not isBlankChar ds
    rw [hc] at hfirst
    simpa using hfirst
  constructor
  · intro c hc
    obtain ⟨behind, hbehind⟩ := trimChars_isPrefix cs
    refine hdrop cs c ?_
    rw [← trimLeft, ← hbehind, List.head?_append, hc]
    rfl
  · intro c hc
    refine hdrop (trimLeft cs).reverse c ?_
    rwa [trimChars, trimRight, List.getLast?_reverse] at hc

/-! ### Searching -/

/-- A pattern in front of a text that goes on with a character the pattern does not have is found
    in front of that character. -/
theorem prefix_of_prefix_append (hc : c ∉ pattern) (h : pattern <+: before ++ c :: behind) :
    pattern <+: before := by
  induction before generalizing pattern with
  | nil =>
    cases pattern with
    | nil => exact List.nil_prefix
    | cons p pattern =>
      obtain ⟨rfl, -⟩ := List.cons_prefix_cons.mp h
      exact absurd List.mem_cons_self hc
  | cons b before ih =>
    cases pattern with
    | nil => exact List.nil_prefix
    | cons p pattern =>
      obtain ⟨rfl, hrest⟩ := List.cons_prefix_cons.mp h
      exact List.cons_prefix_cons.mpr ⟨rfl, ih (fun hmem => hc (List.mem_cons_of_mem _ hmem)) hrest⟩

/-- A search goes on behind a character where the pattern does not stand. -/
theorem cut?_cons (h : ¬ pattern <+: c :: cs) :
    cut? pattern (c :: cs) =
      (cut? pattern cs).map fun (before, behind) => (c :: before, behind) := by
  rw [cut?, if_neg (by rwa [List.isPrefixOf_iff_prefix])]

/-- A search stops where the pattern stands. -/
theorem cut?_of_prefix (hne : pattern ≠ []) (behind : List Char) :
    cut? pattern (pattern ++ behind) = some ([], behind) := by
  obtain ⟨c, cs, rfl⟩ := List.exists_cons_of_ne_nil hne
  rw [List.cons_append, cut?, if_pos]
  · simp
  · rw [List.isPrefixOf_iff_prefix]
    exact List.prefix_append _ _

/-- A search passes over characters that do not start the pattern. -/
theorem cut?_skip (hne : pattern ≠ []) (h : ∀ b ∈ before, pattern.head? ≠ some b) :
    cut? pattern (before ++ cs) =
      (cut? pattern cs).map fun (front, behind) => (before ++ front, behind) := by
  induction before with
  | nil => cases hcut : cut? pattern cs <;> simp [hcut]
  | cons b before ih =>
    obtain ⟨hb, hbefore⟩ := List.forall_mem_cons.mp h
    have hstart : ¬ pattern <+: b :: (before ++ cs) := by
      obtain ⟨p, rest, rfl⟩ := List.exists_cons_of_ne_nil hne
      rw [List.cons_prefix_cons]
      rintro ⟨rfl, -⟩
      exact hb rfl
    rw [List.cons_append, cut?_cons hstart, ih hbefore, Option.map_map]
    rfl

/-- A search stops at the pattern behind such characters. -/
theorem cut?_first (hne : pattern ≠ []) (h : ∀ b ∈ before, pattern.head? ≠ some b)
    (behind : List Char) :
    cut? pattern (before ++ (pattern ++ behind)) = some (before, behind) := by
  rw [cut?_skip hne h, cut?_of_prefix hne]
  simp

/-- A search passes over a text without the pattern that ends with a character the pattern does not
    have. -/
theorem cut?_past (hne : pattern ≠ []) (hc : c ∉ pattern) (h : ¬ pattern <:+: before) :
    cut? pattern (before ++ c :: cs) =
      (cut? pattern cs).map fun (front, behind) => (before ++ c :: front, behind) := by
  induction before with
  | nil =>
    refine (cut?_cons fun hfront => hne ?_).trans rfl
    exact List.prefix_nil.mp (@prefix_of_prefix_append [] cs pattern c hc hfront)
  | cons b before ih =>
    have hstart : ¬ pattern <+: b :: (before ++ c :: cs) := fun hfront =>
      h (@prefix_of_prefix_append (b :: before) cs pattern c hc hfront).isInfix
    have hbefore : ¬ pattern <:+: before := fun hwithin => h (List.infix_cons hwithin)
    rw [List.cons_append, cut?_cons hstart, ih hbefore, Option.map_map]
    rfl

/-- A search stops at a pattern whose first character is found nowhere else in it, if there is none
    in front of that. -/
theorem cut?_start (hc : c ∉ pattern) (h : ¬ (c :: pattern) <:+: before) :
    cut? (c :: pattern) (before ++ (c :: pattern ++ behind)) = some (before, behind) := by
  induction before with
  | nil => exact cut?_of_prefix (List.cons_ne_nil c pattern) behind
  | cons b before ih =>
    have hstart : ¬ (c :: pattern) <+: b :: (before ++ (c :: pattern ++ behind)) := by
      rw [List.cons_prefix_cons]
      rintro ⟨rfl, hrest⟩
      -- a pattern that starts earlier ends earlier too: it cannot hold its first character again
      have hfront : pattern <+: before := prefix_of_prefix_append hc hrest
      exact h (List.cons_prefix_cons.mpr ⟨rfl, hfront⟩).isInfix
    have hbefore : ¬ (c :: pattern) <:+: before := fun hwithin => h (List.infix_cons hwithin)
    rw [List.cons_append, cut?_cons hstart, ih hbefore]
    rfl

/-- **Searching.** A pattern is found exactly where it stands first: it does not stand in the text
    that ends one character earlier. -/
theorem cut?_eq_some_iff (hne : pattern ≠ []) :
    cut? pattern cs = some (before, behind) ↔
      cs = before ++ pattern ++ behind ∧ ¬ pattern <:+: before ++ pattern.dropLast := by
  have hpos : 0 < pattern.length := List.length_pos_iff.mpr hne
  have hshort : pattern.dropLast.length = pattern.length - 1 := List.length_dropLast
  have hearlier (front rest : List Char) :
      front ++ pattern.dropLast <+: front ++ pattern ++ rest := by
    rw [List.append_assoc, List.prefix_append_right_inj]
    exact (List.dropLast_prefix pattern).trans (List.prefix_append pattern rest)
  constructor
  · intro h
    refine ⟨(append_of_cut? h).symm, ?_⟩
    induction cs generalizing before with
    | nil => simp [cut?, hne] at h
    | cons c cs ih =>
      by_cases hp : pattern <+: c :: cs
      · obtain ⟨rest, hrest⟩ := hp
        rw [← hrest, cut?_of_prefix hne] at h
        obtain ⟨rfl, -⟩ := Prod.mk.inj (Option.some.inj h)
        intro hwithin
        have hlength := hwithin.length_le
        rw [List.nil_append] at hlength
        omega
      · rw [cut?_cons hp] at h
        obtain ⟨⟨front, rest⟩, hfound, hpieces⟩ := Option.map_eq_some_iff.mp h
        obtain ⟨rfl, rfl⟩ := Prod.mk.inj hpieces
        rw [List.cons_append, List.infix_cons_iff]
        rintro (hfront | hwithin)
        · apply hp
          rw [← append_of_cut? hfound]
          exact hfront.trans (hearlier (c :: front) rest)
        · exact ih hfound hwithin
  · rintro ⟨rfl, hnone⟩
    induction before with
    | nil => exact cut?_of_prefix hne behind
    | cons b before ih =>
      rw [List.cons_append, List.infix_cons_iff, not_or] at hnone
      have hstart : ¬ pattern <+: b :: (before ++ pattern ++ behind) := by
        intro hfront
        apply hnone.1
        apply List.prefix_of_prefix_length_le hfront (hearlier (b :: before) behind)
        simp only [List.length_append, List.length_cons]
        omega
      rw [List.cons_append, List.cons_append, cut?_cons hstart, ih hnone.2]
      rfl

/-- What is found is in the text. -/
theorem infix_of_cut? (h : cut? pattern cs = some (before, behind)) : pattern <:+: cs :=
  ⟨before, behind, append_of_cut? h⟩

end MathAgents.Text
