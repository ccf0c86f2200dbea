import Mathlib.Data.String.Basic
import MathAgents.Json.Basic

namespace MathAgents

/-!
# Canonical values

The same object may be written with its fields in any order, and with some of them more than once.
A value in canonical form has the fields of every object ordered by key, and of equal keys only the
last one is left; so nothing is left to do for a value that is in this form already.

* `Fields.last?` — the value of the last field with a key; `Json.get?_canonical` — it is the one
  that is kept.
* `Fields.Ordered.insert`, `Fields.ordered_canonicalFields` — fields in order.
* `Json.Canonical` — values in canonical form; `Json.canonical_canonical` — every value has one, and
  `Json.Canonical.eq` — it is its own.
-/

namespace Fields

variable {fields : Fields} {field : String × Json} {key k : String} {value : Json}

/-! ### Looking fields up -/

/-- The value of the last field with a key. -/
def last? (key : String) (fields : Fields) : Option Json := get? key fields.reverse

theorem get?_append (key : String) (front back : Fields) :
    get? key (front ++ back) = (get? key front).or (get? key back) := by
  induction front with
  | nil => rfl
  | cons field front ih =>
    obtain ⟨k, v⟩ := field
    by_cases hk : k = key <;> simp [get?, hk, ih]

/-- A field is left as it is if one of the same key is to be inserted. -/
theorem get?_insertNew (key k : String) (value : Json) (fields : Fields) :
    get? k (insertNew key value fields) =
      (get? k fields).or (if key = k then some value else none) := by
  unfold insertNew
  split
  · next hfound =>
    by_cases hk : key = k
    · subst hk
      obtain ⟨v, hv⟩ := Option.isSome_iff_exists.mp hfound
      simp [hv]
    · simp [hk]
  · next hnone =>
    rw [get?_insert]
    by_cases hk : key = k
    · subst hk
      simp [Option.not_isSome_iff_eq_none.mp hnone]
    · simp [hk]

/-- Of equal keys the last one is kept. -/
theorem get?_canonicalFields (key : String) (fields : Fields) :
    get? key (Json.canonicalFields fields) = (last? key fields).map Json.canonical := by
  -- the first field is inserted last, and only if its key is new
  induction fields with
  | nil => rfl
  | cons field rest ih =>
    obtain ⟨k, v⟩ := field
    rw [Json.canonicalFields, get?_insertNew, ih, last?, last?, List.reverse_cons, get?_append]
    by_cases hk : k = key <;> cases get? key rest.reverse <;> simp [get?, hk]

/-! ### Fields in order -/

theorem ordered_cons :
    Ordered ((key, value) :: fields) ↔ (∀ field ∈ fields, key < field.1) ∧ Ordered fields := by
  simp [Ordered]

theorem eq_or_mem_of_mem_insert (h : field ∈ insert key value fields) :
    field = (key, value) ∨ field ∈ fields := by
  induction fields with
  | nil => exact .inl (List.mem_singleton.mp h)
  | cons first rest ih =>
    obtain ⟨k, v⟩ := first
    simp only [insert] at h
    split at h
    · rcases List.mem_cons.mp h with rfl | hrest
      · exact .inl rfl
      · exact .inr (List.mem_cons_of_mem _ hrest)
    · split at h
      · exact List.mem_cons.mp h
      · rcases List.mem_cons.mp h with rfl | hrest
        · exact .inr List.mem_cons_self
        · exact (ih hrest).imp_right (List.mem_cons_of_mem _)

theorem eq_or_mem_of_mem_insertNew (h : field ∈ insertNew key value fields) :
    field = (key, value) ∨ field ∈ fields := by
  unfold insertNew at h
  split at h
  · exact .inr h
  · exact eq_or_mem_of_mem_insert h

/-- A field is inserted in its place. -/
theorem Ordered.insert (h : Ordered fields) (key : String) (value : Json) :
    Ordered (fields.insert key value) := by
  induction fields with
  | nil => simp [Fields.insert, Ordered]
  | cons first rest ih =>
    obtain ⟨k, v⟩ := first
    obtain ⟨hfirst, hrest⟩ := ordered_cons.mp h
    simp only [Fields.insert]
    split
    · next heq =>
      subst heq
      exact ordered_cons.mpr ⟨hfirst, hrest⟩
    · next hne =>
      split
      · next hlt =>
        refine ordered_cons.mpr ⟨List.forall_mem_cons.mpr ⟨hlt, fun field hfield => ?_⟩, h⟩
        exact String.lt_trans hlt (hfirst field hfield)
      · next hnot =>
        have hlt : k < key := lt_of_le_of_ne (not_lt.mp hnot) (Ne.symm hne)
        refine ordered_cons.mpr ⟨fun field hfield => ?_, ih hrest⟩
        rcases eq_or_mem_of_mem_insert hfield with rfl | hmem
        · exact hlt
        · exact hfirst field hmem

theorem ordered_canonicalFields (fields : Fields) : Ordered (Json.canonicalFields fields) := by
  induction fields with
  | nil => exact List.Pairwise.nil
  | cons field rest ih =>
    obtain ⟨k, v⟩ := field
    rw [Json.canonicalFields, insertNew]
    split
    · exact ih
    · exact ih.insert k v.canonical

/-- A field whose key is less than all others comes first. -/
theorem insertNew_of_lt (h : ∀ field ∈ fields, key < field.1) :
    insertNew key value fields = (key, value) :: fields := by
  -- no field has this key, so it is inserted, and it is inserted in front
  have hnone : get? key fields = none := by
    induction fields with
    | nil => rfl
    | cons first rest ih =>
      obtain ⟨k, v⟩ := first
      obtain ⟨hfirst, hrest⟩ := List.forall_mem_cons.mp h
      rw [get?, if_neg (ne_of_gt hfirst), ih hrest]
  rw [insertNew, hnone, if_neg (by simp)]
  cases fields with
  | nil => rfl
  | cons first rest =>
    obtain ⟨k, v⟩ := first
    have hlt : key < k := h _ List.mem_cons_self
    rw [insert, if_neg (ne_of_lt hlt), if_pos hlt]

end Fields

namespace Json

variable {j : Json} {field : String × Json} {fields : Fields}

/-! ### Values in canonical form -/

/-- The field of an object in canonical form is the last one with its key. -/
theorem get?_canonical (key : String) (fields : Fields) :
    (canonical (.obj fields)).get? key = (fields.last? key).map canonical := by
  rw [canonical]
  exact Fields.get?_canonicalFields key fields

/-- The text of a field is that of the last field with its key. -/
theorem getString?_canonical {key text : String} :
    (canonical (.obj fields)).getString? key = some text ↔
      fields.last? key = some (.str text) := by
  have hstring (j : Json) : j.canonical.asString? = some text ↔ j = .str text := by
    cases j <;> simp [canonical, asString?]
  rw [getString?, get?_canonical]
  cases fields.last? key with
  | none => simp
  | some value => simp [hstring]

theorem canonicalItems_eq (items : List Json) : canonicalItems items = items.map canonical := by
  induction items with
  | nil => rfl
  | cons item rest ih => rw [canonicalItems, ih, List.map_cons]

/-- The fields in canonical form are among those that there were. -/
theorem exists_of_mem_canonicalFields (h : field ∈ canonicalFields fields) :
    ∃ original ∈ fields, field = (original.1, original.2.canonical) := by
  induction fields with
  | nil => cases h
  | cons first rest ih =>
    obtain ⟨k, v⟩ := first
    rw [canonicalFields] at h
    rcases Fields.eq_or_mem_of_mem_insertNew h with rfl | hmem
    · exact ⟨(k, v), List.mem_cons_self, rfl⟩
    · obtain ⟨original, horiginal, hfield⟩ := ih hmem
      exact ⟨original, List.mem_cons_of_mem _ horiginal, hfield⟩

/-- Whether the fields of every object in a value are in order. -/
inductive Canonical : Json → Prop
  | null : Canonical .null
  | bool (b : Bool) : Canonical (.bool b)
  | int (n : Int) : Canonical (.int n)
  | float (x : Float) : Canonical (.float x)
  | str (s : String) : Canonical (.str s)
  | arr {items : List Json} (h : ∀ item ∈ items, Canonical item) : Canonical (.arr items)
  | obj {fields : Fields} (hordered : fields.Ordered) (h : ∀ field ∈ fields, Canonical field.2) :
      Canonical (.obj fields)

mutual

theorem canonical_canonical : ∀ j : Json, Canonical j.canonical
  | .null => .null
  | .bool b => .bool b
  | .int n => .int n
  | .float x => .float x
  | .str s => .str s
  | .arr items => by
    rw [canonical, canonicalItems_eq]
    exact .arr (List.forall_mem_map.mpr (canonical_items items))
  | .obj fields => by
    rw [canonical]
    refine .obj (Fields.ordered_canonicalFields fields) fun field hfield => ?_
    obtain ⟨original, hmem, rfl⟩ := exists_of_mem_canonicalFields hfield
    exact canonical_fields fields original hmem

theorem canonical_items : ∀ items : List Json, ∀ item ∈ items, Canonical item.canonical
  | [] => List.forall_mem_nil _
  | item :: rest => List.forall_mem_cons.mpr ⟨canonical_canonical item, canonical_items rest⟩

theorem canonical_fields : ∀ fields : Fields, ∀ field ∈ fields, Canonical field.2.canonical
  | [] => List.forall_mem_nil _
  | (_, value) :: rest =>
    List.forall_mem_cons.mpr ⟨canonical_canonical value, canonical_fields rest⟩

end

/-- Fields in order, with values in canonical form, are left as they are. -/
theorem canonicalFields_eq (hordered : fields.Ordered)
    (h : ∀ field ∈ fields, field.2.canonical = field.2) : canonicalFields fields = fields := by
  induction fields with
  | nil => rfl
  | cons first rest ih =>
    obtain ⟨k, v⟩ := first
    obtain ⟨hfirst, hrest⟩ := Fields.ordered_cons.mp hordered
    obtain ⟨hv, hvalues⟩ := List.forall_mem_cons.mp h
    rw [canonicalFields, ih hrest hvalues, Fields.insertNew_of_lt hfirst, hv]

/-- A value in canonical form is left as it is. -/
theorem Canonical.eq (h : Canonical j) : j.canonical = j := by
  induction h with
  | null | bool | int | float | str => rfl
  | @arr items _ ih =>
    rw [canonical, canonicalItems_eq, List.map_congr_left ih, List.map_id']
  | @obj fields hordered _ ih => rw [canonical, canonicalFields_eq hordered ih]

end Json

end MathAgents
