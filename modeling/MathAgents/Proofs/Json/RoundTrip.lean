import MathAgents.Proofs.Json.Bounds
import MathAgents.Proofs.Json.Unambiguous

namespace MathAgents.Json

/-!
# Written values are read back

A value in canonical form whose numbers are integers is read back from its compact text, if it is
within the bounds of the reader: the text of a value is followed from part to part.

* `Finds`, `Within.finds` — what is written is found again, whatever stands behind it.
* `parse_print` — values are read back.
-/

variable {levels : Nat} {j : Json} {i : Int} {c : Char} {cs rest : List Char}
  {items : List Json} {fields : Fields}

theorem skipSpace_cons (hc : ¬ isSpace c) (cs : List Char) : skipSpace (c :: cs) = c :: cs :=
  List.dropWhile_cons_of_neg hc

theorem readWord_append (word rest : List Char) : readWord word (word ++ rest) = .ok rest := by
  induction word with
  | nil => cases rest <;> rfl
  | cons w word ih => rw [List.cons_append, readWord, if_pos rfl, ih]

/-! ### What is written is found again -/

/-- Whether a reader finds the text of a value as that value, whatever stands behind it. -/
def Finds (value : Reader Json) (j : Json) : Prop :=
  ∀ rest, EndsWhole rest → Yields (value (printChars j ++ rest)) j rest

/-- There is no space in front of a value. -/
theorem skipSpace_printChars (hj : FloatFree j) (rest : List Char) :
    skipSpace (printChars j ++ rest) = printChars j ++ rest := by
  have hkind := kindOf?_printChars (r := rest) hj
  cases hchars : printChars j ++ rest with
  | nil => rfl
  | cons c t =>
    rw [hchars, List.head?_cons, Option.bind_some] at hkind
    -- a space starts no kind of value
    refine skipSpace_cons (fun hspace => ?_) t
    simp only [isSpace, Bool.or_eq_true, beq_iff_eq] at hspace
    rcases hspace with ((rfl | rfl) | rfl) | rfl <;> cases hkind

/-- A value does not start with a closing bracket. -/
theorem exists_skipSpace_eq (hj : FloatFree j) (rest : List Char) :
    ∃ c t, skipSpace (printChars j ++ rest) = c :: t ∧ c ≠ ']' := by
  have hkind := kindOf?_printChars (r := rest) hj
  rw [skipSpace_printChars hj]
  cases hchars : printChars j ++ rest with
  | nil =>
    rw [hchars] at hkind
    cases hkind
  | cons c t =>
    refine ⟨c, t, rfl, ?_⟩
    rintro rfl
    rw [hchars] at hkind
    cases hkind

/-- A comma or a closing character ends a number. -/
theorem endsWhole_closing (hc : EndsWhole [c]) (texts : List (List Char)) (rest : List Char) :
    EndsWhole (closing c texts ++ rest) := by
  intro d hd
  rcases eq_or_eq_of_mem_head? hd with rfl | rfl
  · exact hc d rfl
  · decide

section

variable {value : Reader Json}

/-- Items with commas between them are found again, up to the closing bracket. -/
theorem finds_items {item : Json} (hfree : ∀ x ∈ item :: items, FloatFree x)
    (hback : ∀ x ∈ item :: items, Finds value x) (rest : List Char) :
    ItemsRead value (printChars item ++ (closing ']' (items.map printChars) ++ rest))
      (item :: items) rest := by
  have hbracket : EndsWhole [']'] := by
    rintro d ⟨⟩
    decide
  -- by induction on the items behind the first one: a comma or the bracket ends each of them
  induction items generalizing item with
  | nil =>
    have hitem := hback item List.mem_cons_self _ (endsWhole_closing hbracket [] rest)
    exact .last hitem (skipSpace_cons (by decide) rest)
  | cons next items ih =>
    have hitem := hback item List.mem_cons_self _
      (endsWhole_closing hbracket ((next :: items).map printChars) rest)
    obtain ⟨-, hfree⟩ := List.forall_mem_cons.mp hfree
    obtain ⟨-, hback⟩ := List.forall_mem_cons.mp hback
    have hcomma : skipSpace (closing ']' ((next :: items).map printChars) ++ rest) =
        ',' :: (printChars next ++ (closing ']' (items.map printChars) ++ rest)) := by
      rw [List.map_cons, closing, List.cons_append, List.cons_append, List.append_assoc]
      exact skipSpace_cons (by decide) _
    obtain ⟨c, t, hnext, hc⟩ := exists_skipSpace_eq (hfree next List.mem_cons_self)
      (closing ']' (items.map printChars) ++ rest)
    exact .next hitem hcomma hnext hc (ih hfree hback)

/-- A key is found again, behind its first quote. -/
theorem yields_quoted (text : String) (rest : List Char) :
    Yields (readString [] (text.toList.flatMap escapeChar ++ '"' :: rest)) text rest := by
  obtain ⟨h, hread⟩ := readString_escaped text.toList rest []
  rw [List.reverse_nil, List.nil_append, String.ofList_toList] at hread
  exact ⟨_, hread, rfl, rfl⟩

/-- A field as it is written behind its first quote. -/
def fieldTail (field : String × Json) : List Char :=
  field.1.toList.flatMap escapeChar ++ '"' :: ':' :: printChars field.2

theorem fieldText_eq (field : String × Json) : fieldText field = '"' :: fieldTail field := by
  simp [fieldText, fieldTail, quote]

theorem finds_field {field : String × Json} (hback : Finds value field.2)
    (hrest : EndsWhole rest) : Yields (readField value (fieldTail field ++ rest)) field rest := by
  have hkey := yields_quoted field.1 (':' :: (printChars field.2 ++ rest))
  have htail : fieldTail field ++ rest = field.1.toList.flatMap escapeChar ++
      '"' :: ':' :: (printChars field.2 ++ rest) := by simp [fieldTail]
  rw [htail]
  exact yields_readField_iff.mpr ⟨_, _, hkey, skipSpace_cons (by decide) _, hback rest hrest⟩

/-- Fields with commas between them are found again, up to the closing brace. -/
theorem finds_fields {field : String × Json}
    (hback : ∀ f ∈ field :: fields, Finds value f.2) (rest : List Char) :
    FieldsRead value (fieldTail field ++ (closing '}' (fields.map fieldText) ++ rest))
      (field :: fields) rest := by
  have hbrace : EndsWhole ['}'] := by
    rintro d ⟨⟩
    decide
  induction fields generalizing field with
  | nil =>
    have hfield := finds_field (hback field List.mem_cons_self)
      (endsWhole_closing hbrace [] rest)
    exact .last hfield (skipSpace_cons (by decide) rest)
  | cons next fields ih =>
    have hfield := finds_field (hback field List.mem_cons_self)
      (endsWhole_closing hbrace ((next :: fields).map fieldText) rest)
    obtain ⟨-, hback⟩ := List.forall_mem_cons.mp hback
    have hcomma : skipSpace (closing '}' ((next :: fields).map fieldText) ++ rest) =
        ',' :: '"' :: (fieldTail next ++ (closing '}' (fields.map fieldText) ++ rest)) := by
      rw [List.map_cons, closing, fieldText_eq, List.cons_append, List.cons_append,
        List.cons_append, List.cons_append, List.append_assoc]
      exact skipSpace_cons (by decide) _
    exact .next hfield hcomma (skipSpace_cons (by decide) _) (ih hback)

theorem finds_arr (hfree : ∀ item ∈ items, FloatFree item)
    (hback : ∀ item ∈ items, Finds value item) (rest : List Char) :
    ArrayRead value (printItems items ++ rest) (.arr items) rest := by
  rw [printItems_eq]
  cases items with
  | nil => exact .empty (skipSpace_cons (by decide) rest)
  | cons item items =>
    have hitems := finds_items hfree hback rest
    obtain ⟨c, t, hitem, hc⟩ := exists_skipSpace_eq (hfree item List.mem_cons_self)
      (closing ']' (items.map printChars) ++ rest)
    rw [List.map_cons, enclosed, List.append_assoc]
    exact .items hitem hc hitems

theorem finds_obj (hback : ∀ field ∈ fields, Finds value field.2) (rest : List Char) :
    ObjectRead value (printFields fields ++ rest) (.obj fields) rest := by
  rw [printFields_eq]
  cases fields with
  | nil => exact .empty (skipSpace_cons (by decide) rest)
  | cons field fields =>
    have hfields := finds_fields hback rest
    rw [List.map_cons, enclosed, fieldText_eq, List.append_assoc, List.cons_append]
    exact .fields (skipSpace_cons (by decide) _) hfields

end

/-- An integer that fits is read as it was written. -/
theorem startRead_int {nested : Option (Reader Json)} (hi : Fits i) (hrest : EndsWhole rest) :
    StartRead nested (printInt i ++ rest) (.int i) rest := by
  have hread := readNumber_toDigits hi hrest
  unfold printInt
  by_cases hneg : i < 0
  · rw [decide_eq_true hneg] at hread
    rw [if_pos hneg]
    exact .negative hread
  · rw [decide_eq_false hneg] at hread
    rw [if_neg hneg]
    obtain ⟨d, ds, hdigits⟩ := List.exists_cons_of_ne_nil (@Nat.toDigits_ne_nil i.natAbs 10)
    have hd : d.isDigit := (whole_toDigits i.natAbs).digits d (hdigits ▸ List.mem_cons_self)
    -- a number without a sign starts with a digit
    rw [hdigits, List.cons_append] at hread ⊢
    exact .number hd hread

/-- **Reading back.** A value without doubles is found again, if it is within the bounds. -/
theorem Within.finds (h : Within levels j) (hfree : FloatFree j) :
    Finds (readValue levels) j := by
  -- by induction on the value: its parts are read with one level less
  intro rest hrest
  rw [yields_readValue_iff, skipSpace_printChars hfree]
  induction h generalizing rest with
  | null => exact .nullWord (readWord_append _ rest)
  | bool b =>
    cases b with
    | false => exact .falseWord (readWord_append _ rest)
    | true => exact .trueWord (readWord_append _ rest)
  | int hi => exact startRead_int hi hrest
  | float x => cases hfree
  | @str levels s =>
    have htext : printChars (.str s) ++ rest =
        '"' :: (s.toList.flatMap escapeChar ++ '"' :: rest) := by simp [printChars, quote]
    rw [htext]
    exact .string (yields_quoted s rest)
  | @arr levels items _ ih =>
    have hitems := floatFree_arr.mp hfree
    refine .array rfl (finds_arr hitems (fun item hitem rest hrest => ?_) rest)
    rw [yields_readValue_iff, skipSpace_printChars (hitems item hitem)]
    exact ih item hitem (hitems item hitem) rest hrest
  | @obj levels fields _ ih =>
    have hfields := floatFree_obj.mp hfree
    refine .object rfl (finds_obj (fun field hfield rest hrest => ?_) rest)
    rw [yields_readValue_iff, skipSpace_printChars (hfields field hfield)]
    exact ih field hfield (hfields field hfield) rest hrest

/-- **Round trip.** A value in canonical form is read back from its compact text, if there are no
    doubles in it and it is within the bounds. -/
theorem parse_print (hwithin : Within maxNesting j) (hcanonical : Canonical j)
    (hfree : FloatFree j) : parse j.print = .ok j := by
  have hend : EndsWhole [] := by rintro c ⟨⟩
  have hback : Yields (readValue maxNesting (printChars j ++ [])) j [] :=
    hwithin.finds hfree [] hend
  rw [List.append_nil] at hback
  have htext : j.print.toList = printChars j := String.toList_ofList
  rw [parse, htext, read_eq_ok_iff.mpr ⟨[], hback, rfl⟩]
  exact congrArg Except.ok hcanonical.eq

end MathAgents.Json
