import MathAgents.Proofs.Json.Canonical
import MathAgents.Proofs.Json.Integers
import MathAgents.Proofs.Json.Steps

namespace MathAgents.Json

/-!
# Bounds of what is read

A reader allows arrays and objects to be nested to a limit, and an integer that does not fit in 64
bits is read as a double.  So every value that was read is within these bounds, and it still is when
it has been brought into canonical form.

* `Within` — the bounds; `Within.canonical` — they are kept by the canonical form.
* `ReadsOnly` — readers that read nothing but values with a property.
* `within_readValue`, `of_parse` — what is read is within the bounds.
-/

variable {levels : Nat} {j : Json} {cs : List Char}

/-! ### Values within bounds -/

/-- Whether arrays and objects are nested at most so deeply in a value, with integers that fit. -/
inductive Within : Nat → Json → Prop
  | null {levels : Nat} : Within levels .null
  | bool {levels : Nat} (b : Bool) : Within levels (.bool b)
  | int {levels : Nat} {i : Int} (h : Fits i) : Within levels (.int i)
  | float {levels : Nat} (x : Float) : Within levels (.float x)
  | str {levels : Nat} (s : String) : Within levels (.str s)
  | arr {levels : Nat} {items : List Json} (h : ∀ item ∈ items, Within levels item) :
      Within (levels + 1) (.arr items)
  | obj {levels : Nat} {fields : Fields} (h : ∀ field ∈ fields, Within levels field.2) :
      Within (levels + 1) (.obj fields)

/-- A value in canonical form is nested as deeply as it was. -/
theorem Within.canonical (h : Within levels j) : Within levels j.canonical := by
  induction h with
  | null => exact .null
  | bool b => exact .bool b
  | int h => exact .int h
  | float x => exact .float x
  | str s => exact .str s
  | arr _ ih =>
    rw [Json.canonical, canonicalItems_eq]
    exact .arr (List.forall_mem_map.mpr ih)
  | obj _ ih =>
    rw [Json.canonical]
    refine .obj fun field hfield => ?_
    obtain ⟨original, hmem, rfl⟩ := exists_of_mem_canonicalFields hfield
    exact ih original hmem

/-! ### What is read is within bounds -/

section

variable {value : Reader Json} {p : Json → Prop} {rest : List Char}

/-- Whether a reader reads nothing but values with a property. -/
def ReadsOnly (value : Reader Json) (p : Json → Prop) : Prop :=
  ∀ ⦃cs j rest⦄, Yields (value cs) j rest → p j

theorem ItemsRead.forall_mem {items : List Json} (h : ItemsRead value cs items rest)
    (hvalue : ReadsOnly value p) : ∀ item ∈ items, p item := by
  induction h with
  | last hv => exact List.forall_mem_singleton.mpr (hvalue hv)
  | next hv _ _ _ _ ih => exact List.forall_mem_cons.mpr ⟨hvalue hv, ih⟩

theorem FieldsRead.forall_mem {fields : Fields} (h : FieldsRead value cs fields rest)
    (hvalue : ReadsOnly value p) : ∀ field ∈ fields, p field.2 := by
  have hfield {cs r : List Char} {field : String × Json}
      (h : Yields (readField value cs) field r) : p field.2 := by
    obtain ⟨_, _, -, -, hv⟩ := yields_readField_iff.mp h
    exact hvalue hv
  induction h with
  | last h => exact List.forall_mem_singleton.mpr (hfield h)
  | next h _ _ _ ih => exact List.forall_mem_cons.mpr ⟨hfield h, ih⟩

theorem ArrayRead.within (h : ArrayRead value cs j rest)
    (hvalue : ReadsOnly value (Within levels)) : Within (levels + 1) j := by
  cases h with
  | empty => exact .arr (List.forall_mem_nil _)
  | items _ _ h => exact .arr (h.forall_mem hvalue)

theorem ObjectRead.within (h : ObjectRead value cs j rest)
    (hvalue : ReadsOnly value (Within levels)) : Within (levels + 1) j := by
  cases h with
  | empty => exact .obj (List.forall_mem_nil _)
  | fields _ h => exact .obj (h.forall_mem hvalue)

theorem within_of_readNumber {negative : Bool} (h : readNumber negative cs = .ok (j, rest)) :
    Within levels j := by
  rcases fits_or_float_of_readNumber h with ⟨i, hi, rfl⟩ | ⟨x, rfl⟩
  · exact .int hi
  · exact .float x

theorem StartRead.within {nested : Option (Reader Json)} (h : StartRead nested cs j rest)
    (hnested : ∀ value, nested = some value →
      ∃ inner, levels = inner + 1 ∧ ReadsOnly value (Within inner)) : Within levels j := by
  cases h with
  | string => exact .str _
  | array hvalue h =>
    obtain ⟨inner, rfl, hinner⟩ := hnested _ hvalue
    exact h.within hinner
  | object hvalue h =>
    obtain ⟨inner, rfl, hinner⟩ := hnested _ hvalue
    exact h.within hinner
  | negative h => exact within_of_readNumber h
  | number _ h => exact within_of_readNumber h
  | trueWord => exact .bool true
  | falseWord => exact .bool false
  | nullWord => exact .null

end

/-- **Bounds.** What is read is nested as deeply as the reader allows, with integers that fit. -/
theorem within_readValue (levels : Nat) : ReadsOnly (readValue levels) (Within levels) := by
  -- by induction on the levels: what is nested is read with one level less
  induction levels with
  | zero =>
    intro cs j rest h
    exact (yields_readValue_iff.mp h).within (by simp [nestedReader])
  | succ levels ih =>
    intro cs j rest h
    refine (yields_readValue_iff.mp h).within ?_
    rintro value hvalue
    obtain rfl := Option.some.inj hvalue
    exact ⟨levels, rfl, ih⟩

/-- A text is read as a value in canonical form that is within the bounds. -/
theorem of_parse {text : String} (h : parse text = .ok j) : Within maxNesting j ∧ Canonical j := by
  obtain ⟨raw, hread, rfl⟩ := map_eq_ok_iff.mp h
  obtain ⟨_, hraw, -⟩ := read_eq_ok_iff.mp hread
  exact ⟨(within_readValue maxNesting hraw).canonical, canonical_canonical raw⟩

end MathAgents.Json
