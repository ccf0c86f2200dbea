import MathAgents.Json.Printer
import MathAgents.Json.Reader

namespace MathAgents.Json

/-!
# Written values are unambiguous

No two values without doubles in them have the same text.  More than that, what has been written can
be told from what stands behind it: a written string ends at the first quote that is not escaped,
a written number where the digits end, and every other value is told by its first character and ends
where its last part does.

* `readString_escaped`, `quote_append_inj` — strings.
* `printInt_append_inj` — numbers.
* `FloatFree.toldApart` — values, by induction on how they are made.
* `print_inj` — different values have different texts.
-/

variable {r s : List Char}

/-! ### Strings -/

/-- A character is written as itself, or behind a backslash as what stands for it there. -/
theorem escapeChar_cases (c : Char) :
    (∃ tail, escapeChar c = '\\' :: tail ∧
      ∀ rest, ∃ h, readEscape (tail ++ rest) = .ok ⟨c, rest, h⟩) ∨
    (escapeChar c = [c] ∧ c ≠ '"' ∧ c ≠ '\\' ∧ ¬ c.toNat < 0x20) := by
  have hdigits : ∀ n < 0x20, byteCount ['0', '0', hexDigit (n / 16), hexDigit (n % 16)] = 4 ∧
      Text.hexNat? ['0', '0', hexDigit (n / 16), hexDigit (n % 16)] = some n := by decide
  by_cases hshort : c ∈ ['"', '\\', '\x08', '\x0c', '\n', '\x0d', '\t']
  · left
    simp only [List.mem_cons, List.not_mem_nil, or_false] at hshort
    rcases hshort with rfl | rfl | rfl | rfl | rfl | rfl | rfl <;>
      exact ⟨_, rfl, fun rest => ⟨Nat.lt_succ_self _, rfl⟩⟩
  · simp only [List.mem_cons, List.not_mem_nil, or_false, not_or] at hshort
    obtain ⟨hquote, hslash, hback, hfeed, hline, hreturn, htab⟩ := hshort
    by_cases hcontrol : c.toNat < 0x20
    · left
      obtain ⟨hcount, hvalue⟩ := hdigits _ hcontrol
      have htrailing : isTrailing c.toNat = false := by simp [isTrailing]; omega
      have hleading : isLeading c.toNat = false := by simp [isLeading]; omega
      refine ⟨['u', '0', '0', hexDigit (c.toNat / 16), hexDigit (c.toNat % 16)], ?_, fun rest => ?_⟩
      · simp [escapeChar, *]
      · refine ⟨by simp only [List.cons_append, List.nil_append, List.length_cons]; omega, ?_⟩
        simp [readEscape, readHex, hcount, hvalue, Bind.bind, Except.bind, Pure.pure, Except.pure,
          Text.Found.behind, Text.Found.head, Text.Found.within, Text.Found.map, htrailing,
          hleading]
    · right
      exact ⟨by simp [escapeChar, *], hquote, hslash, hcontrol⟩

/-- A string is read as it was written. -/
theorem readString_escaped (cs rest acc : List Char) :
    ∃ h, readString acc (cs.flatMap escapeChar ++ '"' :: rest) =
      .ok ⟨String.ofList (acc.reverse ++ cs), rest, h⟩ := by
  -- by induction on what is still to be read; `acc` is what was read before
  induction cs generalizing acc with
  | nil =>
    rw [List.flatMap_nil, List.nil_append, readString, if_pos rfl, List.append_nil]
    exact ⟨_, rfl⟩
  | cons c cs ih =>
    obtain ⟨h, ih⟩ := ih (c :: acc)
    have hacc : (c :: acc).reverse ++ cs = acc.reverse ++ c :: cs := by simp
    rw [hacc] at ih
    rw [List.flatMap_cons, List.append_assoc]
    rcases escapeChar_cases c with ⟨tail, hc, htail⟩ | ⟨hc, hquote, hslash, hcontrol⟩
    · obtain ⟨h', htail⟩ := htail (cs.flatMap escapeChar ++ '"' :: rest)
      rw [hc, List.cons_append, readString, if_neg (by decide), if_pos rfl, htail]
      simp only [ih]
      exact ⟨Nat.lt_succ_of_lt (Nat.lt_trans h h'), rfl⟩
    · rw [hc, List.singleton_append, readString, if_neg hquote, if_neg hslash, if_neg hcontrol, ih]
      exact ⟨_, rfl⟩

theorem quote_append_inj {xs ys : List Char} (h : quote xs ++ r = quote ys ++ s) :
    xs = ys ∧ r = s := by
  have htail : xs.flatMap escapeChar ++ '"' :: r = ys.flatMap escapeChar ++ '"' :: s := by
    simpa [quote] using h
  have hread (cs rest : List Char) :
      (readString [] (cs.flatMap escapeChar ++ '"' :: rest)).map (fun f => (f.value, f.rest)) =
        .ok (String.ofList cs, rest) := by
    obtain ⟨h, hcs⟩ := readString_escaped cs rest []
    rw [hcs]
    rfl
  have heq : (Except.ok (String.ofList xs, r) : Except Fault _) = .ok (String.ofList ys, s) := by
    rw [← hread, htail, hread]
  obtain ⟨hxs, hr⟩ := Prod.mk.inj (Except.ok.inj heq)
  exact ⟨String.ofList_injective hxs, hr⟩

/-! ### Numbers -/

/-- Whether a text starts with what cannot belong to a number. -/
def EndsNumber (cs : List Char) : Prop := ∀ c ∈ cs.head?, ¬ c.isDigit

theorem takeWhile_toDigits (hr : EndsNumber r) (n : Nat) :
    (Nat.toDigits 10 n ++ r).takeWhile Char.isDigit = Nat.toDigits 10 n := by
  have hdigits : ∀ c ∈ Nat.toDigits 10 n, c.isDigit := fun c hc =>
    Nat.isDigit_of_mem_toDigits (by decide) (by decide) hc
  have hrest : r.takeWhile Char.isDigit = [] := by
    cases r with
    | nil => rfl
    | cons c r => exact List.takeWhile_cons_of_neg (hr c rfl)
  rw [List.takeWhile_append_of_pos hdigits, hrest, List.append_nil]

theorem toDigits_append_inj {m n : Nat} (hr : EndsNumber r) (hs : EndsNumber s)
    (h : Nat.toDigits 10 m ++ r = Nat.toDigits 10 n ++ s) : m = n ∧ r = s := by
  have hdigits : Nat.toDigits 10 m = Nat.toDigits 10 n := by
    rw [← takeWhile_toDigits hr, h, takeWhile_toDigits hs]
  have hmn : m = n := by
    rw [← Nat.ofDigitChars_ten_toDigits (n := m), hdigits, Nat.ofDigitChars_ten_toDigits]
  rw [hdigits] at h
  exact ⟨hmn, List.append_cancel_left h⟩

/-- The digits of a number do not start with a sign. -/
theorem toDigits_append_ne (n : Nat) : Nat.toDigits 10 n ++ r ≠ '-' :: s := by
  intro h
  cases hdigits : Nat.toDigits 10 n with
  | nil => exact Nat.toDigits_ne_nil hdigits
  | cons c cs =>
    have hc : c.isDigit := Nat.isDigit_of_mem_toDigits (b := 10) (n := n) (by decide) (by decide)
      (hdigits ▸ List.mem_cons_self)
    rw [hdigits] at h
    obtain ⟨rfl, -⟩ := List.cons.inj h
    exact absurd hc (by decide)

theorem printInt_append_inj {m n : Int} (hr : EndsNumber r) (hs : EndsNumber s)
    (h : printInt m ++ r = printInt n ++ s) : m = n ∧ r = s := by
  unfold printInt at h
  split at h <;> split at h
  · obtain ⟨habs, hrest⟩ := toDigits_append_inj hr hs (List.cons.inj h).2
    exact ⟨by omega, hrest⟩
  · exact absurd h.symm (toDigits_append_ne _)
  · exact absurd h (toDigits_append_ne _)
  · obtain ⟨habs, hrest⟩ := toDigits_append_inj hr hs h
    exact ⟨by omega, hrest⟩

/-! ### Values -/

/-- Whether there are no doubles in a value. -/
inductive FloatFree : Json → Prop
  | null : FloatFree .null
  | bool (b : Bool) : FloatFree (.bool b)
  | int (n : Int) : FloatFree (.int n)
  | str (s : String) : FloatFree (.str s)
  | arr {items : List Json} (h : ∀ item ∈ items, FloatFree item) : FloatFree (.arr items)
  | obj {fields : Fields} (h : ∀ field ∈ fields, FloatFree field.2) : FloatFree (.obj fields)

attribute [simp] FloatFree.null FloatFree.bool FloatFree.int FloatFree.str

@[simp] theorem floatFree_arr {items : List Json} :
    FloatFree (.arr items) ↔ ∀ item ∈ items, FloatFree item :=
  ⟨fun h => by cases h; assumption, .arr⟩

@[simp] theorem floatFree_obj {fields : Fields} :
    FloatFree (.obj fields) ↔ ∀ field ∈ fields, FloatFree field.2 :=
  ⟨fun h => by cases h; assumption, .obj⟩

mutual

/-- Whether no doubles are found in a value. -/
def floatFree : Json → Bool
  | .null => true
  | .bool _ => true
  | .int _ => true
  | .float _ => false
  | .str _ => true
  | .arr items => floatFreeItems items
  | .obj fields => floatFreeFields fields

/-- Whether none are found in some items. -/
def floatFreeItems : List Json → Bool
  | [] => true
  | item :: rest => floatFree item && floatFreeItems rest

/-- Whether none are found in some fields. -/
def floatFreeFields : List (String × Json) → Bool
  | [] => true
  | (_, value) :: rest => floatFree value && floatFreeFields rest

end

mutual

theorem floatFree_iff : ∀ j : Json, floatFree j ↔ FloatFree j
  | .null => by simp [floatFree]
  | .bool b => by simp [floatFree]
  | .int n => by simp [floatFree]
  | .float x => iff_of_false Bool.false_ne_true nofun
  | .str s => by simp [floatFree]
  | .arr items => by rw [floatFree, floatFree_arr, floatFreeItems_iff]
  | .obj fields => by rw [floatFree, floatFree_obj, floatFreeFields_iff]

theorem floatFreeItems_iff : ∀ items : List Json,
    floatFreeItems items ↔ ∀ item ∈ items, FloatFree item
  | [] => by simp [floatFreeItems]
  | item :: rest => by
    simp [floatFreeItems, floatFree_iff item, floatFreeItems_iff rest]

theorem floatFreeFields_iff : ∀ fields : Fields,
    floatFreeFields fields ↔ ∀ field ∈ fields, FloatFree field.2
  | [] => by simp [floatFreeFields]
  | (key, value) :: rest => by
    rw [floatFreeFields, Bool.and_eq_true, floatFree_iff value, floatFreeFields_iff rest,
      List.forall_mem_cons]

end

instance (j : Json) : Decidable (FloatFree j) := decidable_of_iff _ (floatFree_iff j)

/-- What a value is, as far as its first character tells. -/
inductive Kind where
  | null
  | bool (b : Bool)
  | number
  | text
  | list
  | record
  deriving DecidableEq

/-- What a value is. -/
def kind : Json → Kind
  | .null => .null
  | .bool b => .bool b
  | .int _ | .float _ => .number
  | .str _ => .text
  | .arr _ => .list
  | .obj _ => .record

/-- What the value is whose text starts with a character. -/
def kindOf? (c : Char) : Option Kind :=
  if c = 'n' then some .null
  else if c = 't' then some (.bool true)
  else if c = 'f' then some (.bool false)
  else if c = '"' then some .text
  else if c = '[' then some .list
  else if c = '{' then some .record
  else if c = '-' ∨ c.isDigit then some .number
  else none

theorem kindOf?_of_isDigit {c : Char} (h : c.isDigit) : kindOf? c = some .number := by
  have hne : ∀ d : Char, ¬ d.isDigit → c ≠ d := fun d hd heq => hd (heq ▸ h)
  simp [kindOf?, h, hne]

/-- The first character of a text tells what the value is. -/
theorem kindOf?_printChars {j : Json} (hj : FloatFree j) :
    (printChars j ++ r).head?.bind kindOf? = some j.kind := by
  cases hj with
  | null => rfl
  | bool b => cases b <;> rfl
  | int n =>
    simp only [printChars, printInt]
    split
    · rfl
    · cases hdigits : Nat.toDigits 10 n.natAbs with
      | nil => exact absurd hdigits Nat.toDigits_ne_nil
      | cons c cs =>
        have hc : c.isDigit := Nat.isDigit_of_mem_toDigits (b := 10) (n := n.natAbs) (by decide)
          (by decide) (hdigits ▸ List.mem_cons_self)
        exact kindOf?_of_isDigit hc
  | str s => rfl
  | arr h => rfl
  | obj h => rfl

/-! ### Arrays and objects -/

/-- What stands behind one of several texts: a comma in front of each further text, and a closing
    character. -/
def closing (close : Char) : List (List Char) → List Char
  | [] => [close]
  | text :: rest => ',' :: text ++ closing close rest

/-- Texts with commas between them and a closing character behind them. -/
def enclosed (close : Char) : List (List Char) → List Char
  | [] => [close]
  | text :: rest => text ++ closing close rest

theorem printItems_cons (item : Json) (rest : List Json) :
    printItems (item :: rest) = printChars item ++ closing ']' (rest.map printChars) := by
  induction rest generalizing item with
  | nil => rfl
  | cons next rest ih =>
    rw [printItems, ih]
    · rfl
    · exact List.cons_ne_nil next rest

theorem printItems_eq (items : List Json) :
    printItems items = enclosed ']' (items.map printChars) := by
  cases items with
  | nil => rfl
  | cons item rest => exact printItems_cons item rest

/-- A field as it is written. -/
def fieldText (field : String × Json) : List Char :=
  quote field.1.toList ++ ':' :: printChars field.2

theorem printFields_cons (field : String × Json) (rest : Fields) :
    printFields (field :: rest) = fieldText field ++ closing '}' (rest.map fieldText) := by
  induction rest generalizing field with
  | nil => rfl
  | cons next rest ih =>
    rw [printFields, ih]
    · simp [fieldText, closing]
    · exact List.cons_ne_nil next rest

theorem printFields_eq (fields : Fields) :
    printFields fields = enclosed '}' (fields.map fieldText) := by
  cases fields with
  | nil => rfl
  | cons field rest => exact printFields_cons field rest

section Enclosed

variable {α : Type} {text : α → List Char} {close : Char} {xs ys : List α}

/-- Whether the texts of two items differ if the items do, whatever stands behind them. -/
def ToldApart (text : α → List Char) (x y : α) : Prop :=
  ∀ {r s}, EndsNumber r → EndsNumber s → text x ++ r = text y ++ s → x = y ∧ r = s

/-- Behind one of several texts there is a comma or the closing character. -/
theorem eq_or_eq_of_mem_head? {c : Char} {texts : List (List Char)}
    (hc : c ∈ (closing close texts ++ r).head?) : c = close ∨ c = ',' := by
  cases texts with
  | nil => exact .inl (Option.some.inj hc).symm
  | cons text rest => exact .inr (Option.some.inj hc).symm

theorem endsNumber_closing (hdigit : ¬ close.isDigit) (texts : List (List Char)) :
    EndsNumber (closing close texts ++ r) := by
  intro c hc
  rcases eq_or_eq_of_mem_head? hc with rfl | rfl
  · exact hdigit
  · decide

theorem closing_append_inj (hdigit : ¬ close.isDigit) (hcomma : close ≠ ',')
    (htext : ∀ x ∈ xs, ∀ y ∈ ys, ToldApart text x y)
    (h : closing close (xs.map text) ++ r = closing close (ys.map text) ++ s) :
    xs = ys ∧ r = s := by
  induction xs generalizing ys with
  | nil =>
    cases ys with
    | nil => exact ⟨rfl, List.append_cancel_left h⟩
    | cons y ys => exact absurd (List.cons.inj h).1 hcomma
  | cons x xs ih =>
    cases ys with
    | nil => exact absurd (List.cons.inj h).1.symm hcomma
    | cons y ys =>
      simp only [List.map_cons, closing, List.cons_append, List.append_assoc, List.cons.injEq,
        true_and] at h
      obtain ⟨rfl, hrest⟩ := htext x List.mem_cons_self y List.mem_cons_self
        (endsNumber_closing hdigit _) (endsNumber_closing hdigit _) h
      obtain ⟨rfl, hr⟩ := ih
        (fun x hx y hy => htext x (List.mem_cons_of_mem _ hx) y (List.mem_cons_of_mem _ hy)) hrest
      exact ⟨rfl, hr⟩

/-- Enclosed texts are told apart, if each of them is and none starts with the closing character. -/
theorem enclosed_append_inj (hdigit : ¬ close.isDigit) (hcomma : close ≠ ',')
    (htext : ∀ x ∈ xs, ∀ y ∈ ys, ToldApart text x y)
    (hclosed : ∀ x ∈ xs ++ ys, ∀ r s, text x ++ r ≠ close :: s)
    (h : enclosed close (xs.map text) ++ r = enclosed close (ys.map text) ++ s) :
    xs = ys ∧ r = s := by
  cases xs with
  | nil =>
    cases ys with
    | nil => exact ⟨rfl, List.append_cancel_left h⟩
    | cons y ys =>
      rw [List.map_cons, enclosed, List.append_assoc] at h
      exact absurd h.symm (hclosed y List.mem_cons_self _ _)
  | cons x xs =>
    cases ys with
    | nil =>
      rw [List.map_cons, enclosed, List.append_assoc] at h
      exact absurd h (hclosed x List.mem_cons_self _ _)
    | cons y ys =>
      have hcommas : closing close ((x :: xs).map text) ++ r =
          closing close ((y :: ys).map text) ++ s := congrArg (',' :: ·) h
      exact closing_append_inj hdigit hcomma htext hcommas

end Enclosed

/-! ### All values -/

/-- Values of one kind. -/
inductive SameKind : Json → Json → Prop
  | null : SameKind .null .null
  | bool (b : Bool) : SameKind (.bool b) (.bool b)
  | number (m n : Int) : SameKind (.int m) (.int n)
  | text (s t : String) : SameKind (.str s) (.str t)
  | list (xs ys : List Json) : SameKind (.arr xs) (.arr ys)
  | record (f g : Fields) : SameKind (.obj f) (.obj g)

theorem sameKind_of_append {j k : Json} (hj : FloatFree j) (hk : FloatFree k)
    (h : printChars j ++ r = printChars k ++ s) : SameKind j k := by
  have hkind : j.kind = k.kind := by
    rw [← Option.some_inj, ← kindOf?_printChars hj, h, kindOf?_printChars hk]
  cases hj <;> cases hk <;> cases hkind <;> constructor

/-- No value starts with a character that starts none. -/
theorem printChars_append_ne {j : Json} (hj : FloatFree j) {c : Char} (hc : kindOf? c = none) :
    printChars j ++ r ≠ c :: s := by
  intro h
  have hhead := kindOf?_printChars (r := r) hj
  rw [h, List.head?_cons, Option.bind_some, hc] at hhead
  cases hhead

theorem toldApart_fieldText {f g : String × Json} (h : ToldApart printChars f.2 g.2) :
    ToldApart fieldText f g := by
  intro r s hr hs heq
  obtain ⟨key, j⟩ := f
  obtain ⟨key', k⟩ := g
  simp only [fieldText, List.append_assoc, List.cons_append] at heq
  obtain ⟨hkey, hvalue⟩ := quote_append_inj heq
  obtain ⟨hjk, hrest⟩ := h hr hs (List.cons.inj hvalue).2
  exact ⟨Prod.ext (String.toList_injective hkey) hjk, hrest⟩

/-- A value without doubles is told apart from every other one. -/
theorem FloatFree.toldApart {j k : Json} (hj : FloatFree j) (hk : FloatFree k) :
    ToldApart printChars j k := by
  -- the first character leaves values of one kind; where they have parts, induction tells these
  induction hj generalizing k with
  | null =>
    intro r s hr hs h
    cases sameKind_of_append .null hk h
    exact ⟨rfl, List.append_cancel_left h⟩
  | bool b =>
    intro r s hr hs h
    cases sameKind_of_append (.bool b) hk h
    exact ⟨rfl, List.append_cancel_left h⟩
  | int m =>
    intro r s hr hs h
    cases sameKind_of_append (.int m) hk h with
    | number _ n =>
      obtain ⟨hmn, hrest⟩ := printInt_append_inj hr hs h
      exact ⟨congrArg Json.int hmn, hrest⟩
  | str t =>
    intro r s hr hs h
    cases sameKind_of_append (.str t) hk h with
    | text _ u =>
      obtain ⟨htu, hrest⟩ := quote_append_inj h
      exact ⟨congrArg Json.str (String.toList_injective htu), hrest⟩
  | @arr xs hxs ih =>
    intro r s hr hs h
    cases sameKind_of_append (.arr hxs) hk h with
    | list _ ys =>
      have hys := floatFree_arr.mp hk
      have hboth := List.forall_mem_append.mpr ⟨hxs, hys⟩
      simp only [printChars, printItems_eq, List.cons_append, List.cons.injEq, true_and] at h
      obtain ⟨hxy, hrest⟩ := enclosed_append_inj (by decide) (by decide)
        (fun x hx y hy => ih x hx (hys y hy))
        (fun x hx r s => printChars_append_ne (hboth x hx) (by decide)) h
      exact ⟨congrArg Json.arr hxy, hrest⟩
  | @obj fields hfields ih =>
    intro r s hr hs h
    cases sameKind_of_append (.obj hfields) hk h with
    | record _ others =>
      have hothers := floatFree_obj.mp hk
      simp only [printChars, printFields_eq, List.cons_append, List.cons.injEq, true_and] at h
      obtain ⟨heq, hrest⟩ := enclosed_append_inj (by decide) (by decide)
        (fun f hf g hg => toldApart_fieldText (ih f hf (hothers g hg)))
        (fun f _ r s hclosed => absurd (List.cons.inj hclosed).1 (by decide)) h
      exact ⟨congrArg Json.obj heq, hrest⟩

/-- Values without doubles that have the same text are the same. -/
theorem print_inj {j k : Json} (hj : FloatFree j) (hk : FloatFree k) (h : j.print = k.print) :
    j = k := by
  have hchars : printChars j ++ [] = printChars k ++ [] := by
    rw [String.ofList_injective h]
  have hends : EndsNumber [] := by rintro c ⟨⟩
  exact (hj.toldApart hk hends hends hchars).1

end MathAgents.Json
