import MathAgents.Proofs.Json.Extent
import MathAgents.Proofs.Json.Unambiguous

namespace MathAgents.Json

/-!
# The layout of written values

A value is written on one line without space, or with one item or field a line.  The two texts are
the same but for the space between their parts, and the text on one line holds no control character,
whatever strings there are in the value.

* `Unbroken` — texts without control characters; `unbroken_printChars` — values on one line.
* `Bare` — texts without quotes or space, such as words and numbers.
* `withoutSpace` — a text without the space between its parts.
* `Compacts` — what a part of a text is without that space; `compacts_prettyChars` — values.
-/

variable {c : Char} {t t' u u' : List Char}

/-! ### Texts of one line -/

/-- Whether a text holds no control character below U+0020. -/
def Unbroken (t : List Char) : Prop := ∀ c ∈ t, 0x20 ≤ c.toNat

instance (t : List Char) : Decidable (Unbroken t) := List.decidableBAll _ t

@[simp] theorem unbroken_nil : Unbroken [] := List.forall_mem_nil _

@[simp] theorem unbroken_cons : Unbroken (c :: t) ↔ 0x20 ≤ c.toNat ∧ Unbroken t :=
  List.forall_mem_cons

@[simp] theorem unbroken_append : Unbroken (t ++ u) ↔ Unbroken t ∧ Unbroken u :=
  List.forall_mem_append

/-- There is no control character to be found in such a text. -/
theorem Unbroken.count_eq_zero (h : Unbroken t) (hc : c.toNat < 0x20) : t.count c = 0 := by
  apply List.count_eq_zero_of_not_mem
  intro hmem
  have hleast := h c hmem
  omega

/-- A control character is escaped by others. -/
theorem unbroken_escapeChar (c : Char) : Unbroken (escapeChar c) := by
  have hdigits : ∀ n < 0x20, 0x20 ≤ (hexDigit (n / 16)).toNat ∧
      0x20 ≤ (hexDigit (n % 16)).toNat := by decide
  unfold escapeChar
  -- the characters with escapes of their own are settled by their texts; of the others, those below
  -- U+0020 are written with the digits of their numbers, and the rest as they are
  repeat' split
  case isFalse.isFalse.isFalse.isFalse.isFalse.isFalse.isFalse.isTrue hcontrol =>
    simp [hdigits c.toNat hcontrol]
  case isFalse.isFalse.isFalse.isFalse.isFalse.isFalse.isFalse.isFalse hcontrol =>
    simp only [unbroken_cons, unbroken_nil, and_true]
    omega
  all_goals simp

theorem unbroken_quote (cs : List Char) : Unbroken (quote cs) := by
  have hinner : Unbroken (cs.flatMap escapeChar) := by
    intro d hd
    obtain ⟨c, -, hc⟩ := List.mem_flatMap.mp hd
    exact unbroken_escapeChar c d hc
  simp [quote, hinner]

/-! ### Words and numbers -/

/-- Whether a text holds no quote, no space and no control character. -/
def Bare (t : List Char) : Prop := ∀ c ∈ t, 0x20 < c.toNat ∧ c ≠ '"'

instance (t : List Char) : Decidable (Bare t) := List.decidableBAll _ t

@[simp] theorem bare_nil : Bare [] := List.forall_mem_nil _

@[simp] theorem bare_cons : Bare (c :: t) ↔ (0x20 < c.toNat ∧ c ≠ '"') ∧ Bare t :=
  List.forall_mem_cons

@[simp] theorem bare_append : Bare (t ++ u) ↔ Bare t ∧ Bare u := List.forall_mem_append

theorem Bare.unbroken (h : Bare t) : Unbroken t := fun c hc => Nat.le_of_lt (h c hc).1

/-- A part of a bare text is bare. -/
theorem Bare.of_subset (h : Bare t) (hu : u ⊆ t) : Bare u := fun c hc => h c (hu hc)

theorem bare_toDigits (n : Nat) : Bare (Nat.toDigits 10 n) := by
  intro c hc
  have hdigit : c.isDigit := Nat.isDigit_of_mem_toDigits (by decide) (by decide) hc
  obtain ⟨hzero, -⟩ : 48 ≤ c.toNat ∧ c.toNat ≤ 57 := Char.isDigit_iff_toNat.mp hdigit
  refine ⟨by omega, ?_⟩
  rintro rfl
  exact absurd hdigit (by decide)

theorem bare_zeros (n : Nat) : Bare (List.replicate n '0') := by
  intro c hc
  rw [List.eq_of_mem_replicate hc]
  decide

theorem bare_printInt (n : Int) : Bare (printInt n) := by
  unfold printInt
  split
  · simp [bare_toDigits]
  · exact bare_toDigits _

/-- Digits with a point among or behind them. -/
theorem bare_positional (ht : Bare t) (e : Int) : Bare (Decimal.positional t e) := by
  unfold Decimal.positional
  dsimp only
  split
  · simp [ht, bare_zeros]
  · split
    · simp [ht, bare_zeros]
    · simp [ht.of_subset (List.take_subset _ t), ht.of_subset (List.drop_subset _ t)]

/-- Digits with an exponent behind them. -/
theorem bare_scientific {plus : String} (hplus : Bare plus.toList) (ht : Bare t) (e : Int) :
    Bare (Decimal.scientific plus t e) := by
  have hfirst : Bare (t.take 1) := ht.of_subset (List.take_subset 1 t)
  have hrest : Bare (t.drop 1) := ht.of_subset (List.drop_subset 1 t)
  unfold Decimal.scientific
  dsimp only
  simp only [bare_append, bare_cons, bare_toDigits, and_true]
  refine ⟨⟨hfirst, ?_⟩, by decide, ?_⟩
  · cases hdrop : t.drop 1 with
    | nil => exact bare_nil
    | cons c rest =>
      rw [hdrop] at hrest
      exact bare_cons.mpr ⟨by decide, hrest⟩
  · split
    · simp
    · exact hplus

/-- A double is written as a word or a number. -/
theorem bare_write (x : Float) : Bare (Decimal.Notation.data.write x).toList := by
  have hword : Bare "null".toList := by decide
  have hmagnitude : Bare (Decimal.Notation.data.magnitude x) := by
    unfold Decimal.Notation.magnitude
    dsimp only
    split
    · exact bare_positional (bare_toDigits _) _
    · exact bare_scientific (by decide) (bare_toDigits _) _
  unfold Decimal.Notation.write
  split
  · exact hword
  · split
    · split <;> exact hword
    · simp only [String.toList_ofList, bare_append]
      constructor
      · split <;> simp
      · split
        · simp
        · exact hmagnitude

/-! ### Values on one line -/

section

variable {close : Char} {texts : List (List Char)}

theorem unbroken_closing (hclose : 0x20 ≤ close.toNat) (h : ∀ text ∈ texts, Unbroken text) :
    Unbroken (closing close texts) := by
  induction texts with
  | nil => simp [closing, hclose]
  | cons text rest ih =>
    obtain ⟨htext, hrest⟩ := List.forall_mem_cons.mp h
    simp [closing, htext, ih hrest]

theorem unbroken_enclosed (hclose : 0x20 ≤ close.toNat) (h : ∀ text ∈ texts, Unbroken text) :
    Unbroken (enclosed close texts) := by
  cases texts with
  | nil => simp [enclosed, hclose]
  | cons text rest =>
    obtain ⟨htext, hrest⟩ := List.forall_mem_cons.mp h
    exact unbroken_append.mpr ⟨htext, unbroken_closing hclose hrest⟩

end

mutual

/-- **One line.** The compact text of a value holds no control character. -/
theorem unbroken_printChars : ∀ j : Json, Unbroken (printChars j)
  | .null => by simp [printChars]
  | .bool b => by cases b <;> simp [printChars]
  | .int n => (bare_printInt n).unbroken
  | .float x => (bare_write x).unbroken
  | .str s => unbroken_quote s.toList
  | .arr items => by
    rw [printChars, printItems_eq, unbroken_cons]
    refine ⟨by decide, unbroken_enclosed (by decide) ?_⟩
    exact List.forall_mem_map.mpr (unbroken_items items)
  | .obj fields => by
    rw [printChars, printFields_eq, unbroken_cons]
    refine ⟨by decide, unbroken_enclosed (by decide) ?_⟩
    exact List.forall_mem_map.mpr (unbroken_fields fields)

theorem unbroken_items : ∀ items : List Json, ∀ item ∈ items, Unbroken (printChars item)
  | [] => List.forall_mem_nil _
  | item :: rest => List.forall_mem_cons.mpr ⟨unbroken_printChars item, unbroken_items rest⟩

theorem unbroken_fields : ∀ fields : Fields, ∀ field ∈ fields, Unbroken (fieldText field)
  | [] => List.forall_mem_nil _
  | (key, value) :: rest =>
    have hfield : Unbroken (fieldText (key, value)) := by
      simp [fieldText, unbroken_quote, unbroken_printChars value]
    List.forall_mem_cons.mpr ⟨hfield, unbroken_fields rest⟩

end

/-! ### Space between the parts of a text -/

/-- A text without the space between its parts; what stands in quotes is left as it is. -/
def withoutSpace (quoted escaped : Bool) : List Char → List Char
  | [] => []
  | c :: cs =>
    if escaped then c :: withoutSpace quoted false cs
    else if c = '\\' ∧ quoted then c :: withoutSpace quoted true cs
    else if c = '"' then c :: withoutSpace (!quoted) false cs
    else if isSpace c ∧ !quoted then withoutSpace quoted false cs
    else c :: withoutSpace quoted false cs

/-- Whether a part of a text is another one without space, and leaves no quotes open. -/
def Compacts (t u : List Char) : Prop :=
  ∀ rest, withoutSpace false false (t ++ rest) = u ++ withoutSpace false false rest

theorem compacts_nil : Compacts [] [] := fun _ => rfl

theorem Compacts.append (h : Compacts t u) (h' : Compacts t' u') :
    Compacts (t ++ t') (u ++ u') := by
  intro rest
  rw [List.append_assoc, h, h', List.append_assoc]

theorem Compacts.cons (hc : 0x20 < c.toNat ∧ c ≠ '"') (h : Compacts t u) :
    Compacts (c :: t) (c :: u) := by
  obtain ⟨hspace, hquote⟩ := hc
  have hnone : ¬ isSpace c := by
    intro hspaced
    simp only [isSpace, Bool.or_eq_true, beq_iff_eq] at hspaced
    rcases hspaced with ((rfl | rfl) | rfl) | rfl <;> exact absurd hspace (by decide)
  intro rest
  rw [List.cons_append, withoutSpace]
  simp [hquote, hnone, h rest]

/-- Space is dropped. -/
theorem Compacts.space (hc : isSpace c) (h : Compacts t u) : Compacts (c :: t) u := by
  have hquote : c ≠ '"' := by
    rintro rfl
    cases hc
  intro rest
  rw [List.cons_append, withoutSpace]
  simp [hquote, hc, h rest]

/-- Words and numbers are left as they are. -/
theorem Bare.compacts (h : Bare t) : Compacts t t := by
  induction t with
  | nil => exact compacts_nil
  | cons c t ih =>
    obtain ⟨hc, ht⟩ := bare_cons.mp h
    exact (ih ht).cons hc

theorem compacts_newline (level : Nat) : Compacts (newline level) [] := by
  have hindent (n : Nat) : Compacts (List.replicate n ' ') [] := by
    induction n with
    | zero => exact compacts_nil
    | succ n ih => exact ih.space rfl
  exact (hindent (2 * level)).space rfl

/-- The line that closes an array or an object. -/
theorem compacts_last (level : Nat) (hc : 0x20 < c.toNat ∧ c ≠ '"') :
    Compacts (newline level ++ [c]) [c] :=
  (compacts_newline level).append (compacts_nil.cons hc)

/-- A comma, with what stands on the lines below. -/
theorem compacts_further (level : Nat) (h : Compacts t u) :
    Compacts (',' :: newline (level + 1) ++ t) (',' :: u) :=
  ((compacts_newline (level + 1)).append h).cons (by decide)

/-- What stands in quotes is left as it is, up to and with the closing quote. -/
theorem withoutSpace_quoted (ht : Quoted t) (rest : List Char) :
    withoutSpace true false (t ++ rest) = t ++ withoutSpace false false rest := by
  induction ht with
  | close => simp [withoutSpace]
  | plain hquote hslash _ ih => simp [withoutSpace, hquote, hslash, ih]
  | escaped _ ih => simp [withoutSpace, ih]

/-- A character is escaped by what may stand in quotes. -/
theorem inQuotes_escapeChar (c : Char) : InQuotes (escapeChar c) := by
  rcases escapeChar_cases c with ⟨tail, hc, hread⟩ | ⟨hc, hquote, hslash, -⟩
  · obtain ⟨h, hread⟩ := hread []
    obtain ⟨t, htail, ht⟩ := inQuotes_readEscape hread
    have heq : '\\' :: tail = t := by simpa using htail
    rw [hc, heq]
    exact ht
  · rw [hc]
    exact fun u hu => .plain hquote hslash hu

theorem quoted_escaped (cs : List Char) : Quoted (cs.flatMap escapeChar ++ ['"']) := by
  induction cs with
  | nil => exact .close
  | cons c cs ih =>
    rw [List.flatMap_cons, List.append_assoc]
    exact inQuotes_escapeChar c _ ih

theorem compacts_quote (cs : List Char) : Compacts (quote cs) (quote cs) := by
  intro rest
  have hinner := withoutSpace_quoted (quoted_escaped cs) rest
  simpa [quote, withoutSpace] using hinner

/-- A key and the value behind it. -/
theorem compacts_field (key : String) (h : Compacts t u) :
    Compacts (quote key.toList ++ ':' :: ' ' :: t) (quote key.toList ++ ':' :: u) :=
  (compacts_quote key.toList).append ((h.space rfl).cons (by decide))

theorem compacts_word (word : String) (h : Bare word.toList) :
    Compacts word.toList word.toList := h.compacts

mutual

/-- **Several lines.** The indented text of a value is its compact text, but for space. -/
theorem compacts_prettyChars (level : Nat) :
    ∀ j : Json, Compacts (prettyChars level j) (printChars j)
  | .null => compacts_word "null" (by decide)
  | .bool true => compacts_word "true" (by decide)
  | .bool false => compacts_word "false" (by decide)
  | .int n => (bare_printInt n).compacts
  | .float x => (bare_write x).compacts
  | .str s => compacts_quote s.toList
  | .arr [] => (compacts_nil.cons (c := ']') (by decide)).cons (by decide)
  | .obj [] => (compacts_nil.cons (c := '}') (by decide)).cons (by decide)
  | .arr (item :: rest) =>
    ((compacts_newline (level + 1)).append (compacts_prettyItems level (item :: rest))).cons
      (by decide)
  | .obj (field :: rest) =>
    ((compacts_newline (level + 1)).append (compacts_prettyFields level (field :: rest))).cons
      (by decide)

theorem compacts_prettyItems (level : Nat) :
    ∀ items : List Json, Compacts (prettyItems level items) (printItems items)
  | [] => compacts_last level (by decide)
  | [item] => by
    have hlast := compacts_last (c := ']') level (by decide)
    have hitem := (compacts_prettyChars (level + 1) item).append hlast
    simpa [prettyItems, printItems] using hitem
  | item :: next :: rest => by
    have hrest := compacts_further level (compacts_prettyItems level (next :: rest))
    have hitems := (compacts_prettyChars (level + 1) item).append hrest
    simpa [prettyItems, printItems] using hitems

theorem compacts_prettyFields (level : Nat) :
    ∀ fields : Fields, Compacts (prettyFields level fields) (printFields fields)
  | [] => compacts_last level (by decide)
  | [(key, value)] => by
    have hfield := compacts_field key (compacts_prettyChars (level + 1) value)
    have hlast := compacts_last (c := '}') level (by decide)
    simpa [prettyFields, printFields] using hfield.append hlast
  | (key, value) :: next :: rest => by
    have hrest := compacts_further level (compacts_prettyFields level (next :: rest))
    have hfield := compacts_field key (compacts_prettyChars (level + 1) value)
    simpa [prettyFields, printFields] using hfield.append hrest

end

/-- **Layout.** A value printed on several lines is the value printed on one, but for the space
    between its parts, whatever stands behind it. -/
theorem withoutSpace_printPretty (j : Json) (rest : String) :
    withoutSpace false false (j.printPretty ++ rest).toList =
      j.print.toList ++ withoutSpace false false rest.toList := by
  rw [printPretty, print, String.toList_append, String.toList_ofList, String.toList_ofList,
    compacts_prettyChars 0 j]

end MathAgents.Json
