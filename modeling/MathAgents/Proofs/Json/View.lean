import Mathlib.Data.List.Forall2
import MathAgents.Json.Basic

namespace MathAgents.Json

/-!
# What a reader looks at

A reader of a record looks up some names in an object and nothing else, so fields under other names
make no difference to it.  A `View` says what a reader looks at, and `View.Agree` that two values
look the same in it: an object that has got fields under unknown names, here or in any of the
records inside it, agrees with the object that it was.

* `View.agree_refl` — every value agrees with itself.
* `View.Grown`, `View.agree_of_grown` — fields under unknown names are not seen.
* `View.Agree.lookup`, `View.Agree.get?_eq`, `View.Agree.list_eq` — what a reader gets from values
  that agree.
-/

/-- What a reader looks at in a value. -/
inductive View where
  /-- All of it. -/
  | whole
  /-- The items of an array, all in the same way. -/
  | each (view : View)
  /-- The first item of an array. -/
  | first (view : View)
  /-- What stands under some names in an object. -/
  | fields (views : List (String × View))
  /-- The text under a name in an object, and what this text tells to look at. -/
  | tagged (name : String) (views : Option String → View)

namespace View

mutual

/-- Whether two values look the same. -/
def Agree : View → Json → Json → Prop
  | whole, j, k => j = k
  | each view, j, k => Option.Rel (List.Forall₂ view.Agree) j.asArray? k.asArray?
  | first view, j, k =>
    Option.Rel view.Agree (j.asArray?.bind List.head?) (k.asArray?.bind List.head?)
  | fields views, j, k => AgreeFields views j k
  | tagged name views, j, k =>
    j.getString? name = k.getString? name ∧ (views (j.getString? name)).Agree j k

/-- Whether two values look the same under some names. -/
def AgreeFields : List (String × View) → Json → Json → Prop
  | [], _, _ => True
  | (name, view) :: views, j, k =>
    Option.Rel view.Agree (j.get? name) (k.get? name) ∧ AgreeFields views j k

end

variable {α : Type} {views : List (String × View)} {view : View} {name : String} {j k : Json}

theorem agree_fields_iff :
    (fields views).Agree j k ↔
      ∀ field ∈ views, Option.Rel field.2.Agree (j.get? field.1) (k.get? field.1) := by
  rw [Agree]
  induction views with
  | nil => simp [AgreeFields]
  | cons field views ih => simp [AgreeFields, ih]

theorem rel_refl {r : α → α → Prop} (h : ∀ a, r a a) (found : Option α) :
    Option.Rel r found found := by
  cases found with
  | none => exact .none
  | some a => exact .some (h a)

theorem of_rel {r : α → α → Prop} {found found' : Option α} (h : Option.Rel r found found') :
    (found = none ∧ found' = none) ∨ ∃ a b, found = some a ∧ found' = some b ∧ r a b := by
  cases h with
  | none => exact .inl ⟨rfl, rfl⟩
  | some hab => exact .inr ⟨_, _, rfl, rfl, hab⟩

mutual

/-- Every value looks the same as itself. -/
theorem agree_refl : ∀ (view : View) (j : Json), view.Agree j j
  | whole, _ => by rw [Agree]
  | each view, _ => by
    rw [Agree]
    exact rel_refl (fun js => List.forall₂_same.mpr fun item _ => agree_refl view item) _
  | first view, _ => by
    rw [Agree]
    exact rel_refl (agree_refl view) _
  | fields views, j => by
    rw [Agree]
    exact agreeFields_refl views j
  | tagged _ views, j => by
    rw [Agree]
    exact ⟨rfl, agree_refl (views _) j⟩

theorem agreeFields_refl : ∀ (views : List (String × View)) (j : Json), AgreeFields views j j
  | [], _ => trivial
  | (_, view) :: views, j => ⟨rel_refl (agree_refl view) _, agreeFields_refl views j⟩

end

/-! ### Fields under unknown names -/

/-- Fields that have grown: more stand among them under unknown names, and a value that is looked at
    has become one that looks the same. -/
inductive Grown (views : List (String × View)) : Fields → Fields → Prop
  | nil : Grown views [] []
  | kept {name : String} {v v' : Json} {before after : Fields}
      (h : ∀ view, (name, view) ∈ views → view.Agree v v') (rest : Grown views before after) :
      Grown views ((name, v) :: before) ((name, v') :: after)
  | added {name : String} {v : Json} {before after : Fields} (h : name ∉ views.map Prod.fst)
      (rest : Grown views before after) :
      Grown views before ((name, v) :: after)

theorem Grown.same {before after : Fields} (field : String × Json)
    (rest : Grown views before after) : Grown views (field :: before) (field :: after) :=
  .kept (fun view _ => agree_refl view field.2) rest

theorem Grown.inside {name : String} {v v' : Json} {before after : Fields} (inner : View)
    (hview : ∀ view, (name, view) ∈ views → view = inner) (h : inner.Agree v v')
    (rest : Grown views before after) : Grown views ((name, v) :: before) ((name, v') :: after) :=
  .kept (fun view hmem => hview view hmem ▸ h) rest

theorem Grown.refl (views : List (String × View)) : ∀ own : Fields, Grown views own own
  | [] => .nil
  | field :: own => .same field (refl views own)

/-- An object whose fields have grown looks the same as it did. -/
theorem agree_of_grown {before after : Fields} (h : Grown views before after) :
    (fields views).Agree (.obj before) (.obj after) := by
  rw [agree_fields_iff]
  rintro ⟨name, view⟩ hmem
  change Option.Rel view.Agree (Fields.get? name before) (Fields.get? name after)
  induction h with
  | nil => exact .none
  | @kept key v v' before after hkept _ ih =>
    by_cases heq : key = name
    · subst heq
      simpa [Fields.get?] using Option.Rel.some (hkept view hmem)
    · simpa [Fields.get?, heq] using ih
  | @added key v before after hadded _ ih =>
    have hne : key ≠ name := fun heq => hadded (heq ▸ List.mem_map_of_mem hmem)
    simpa [Fields.get?, hne] using ih

/-! ### Readers of values that agree -/

/-- Under a known name both values have nothing, or values that agree. -/
theorem Agree.lookup (h : (fields views).Agree j k) (hname : (name, view) ∈ views) :
    (j.get? name = none ∧ k.get? name = none) ∨
      ∃ a b, j.get? name = some a ∧ k.get? name = some b ∧ view.Agree a b :=
  of_rel (agree_fields_iff.mp h _ hname)

/-- Under a name that is looked at as a whole both have the same. -/
theorem Agree.get?_eq (h : (fields views).Agree j k) (hname : (name, whole) ∈ views) :
    j.get? name = k.get? name := by
  rcases h.lookup hname with ⟨hj, hk⟩ | ⟨a, b, hj, hk, hab⟩
  · rw [hj, hk]
  · rw [Agree] at hab
    rw [hj, hk, hab]

theorem Agree.getString?_eq (h : (fields views).Agree j k) (hname : (name, whole) ∈ views) :
    j.getString? name = k.getString? name := by
  rw [getString?, h.get?_eq hname, getString?]

/-- A reader that gets the same from items that agree gets the same from arrays of them. -/
theorem Agree.mapM_eq {read : Json → Option α} (h : (each view).Agree j k)
    (hread : ∀ {a b}, view.Agree a b → read a = read b) :
    j.asArray?.bind (List.mapM read) = k.asArray?.bind (List.mapM read) := by
  rw [Agree] at h
  rcases of_rel h with ⟨hj, hk⟩ | ⟨items, items', hj, hk, hitems⟩
  · rw [hj, hk]
  · rw [hj, hk, Option.bind_some, Option.bind_some]
    clear hj hk
    induction hitems with
    | nil => rfl
    | cons hitem _ ih => simp only [List.mapM_cons, hread hitem, ih]

/-- It gets the same from arrays that stand under a name, whatever is read where there is none. -/
theorem Agree.optional_eq {read : Json → Option α} (h : (fields views).Agree j k) (name : String)
    (hname : (name, each view) ∈ views) (hread : ∀ {a b}, view.Agree a b → read a = read b)
    (absent : Option (List α)) :
    ((j.get? name).elim absent fun v => v.asArray?.bind (List.mapM read)) =
      (k.get? name).elim absent fun v => v.asArray?.bind (List.mapM read) := by
  rcases h.lookup hname with ⟨hj, hk⟩ | ⟨a, b, hj, hk, hab⟩
  · rw [hj, hk]
  · rw [hj, hk]
    exact hab.mapM_eq hread

theorem Agree.list_eq {read : Json → Option α} (h : (fields views).Agree j k) (name : String)
    (hname : (name, each view) ∈ views) (hread : ∀ {a b}, view.Agree a b → read a = read b) :
    ((j.get? name).bind asArray?).bind (List.mapM read) =
      ((k.get? name).bind asArray?).bind (List.mapM read) := by
  rw [Option.bind_assoc, Option.bind_assoc]
  have heq := h.optional_eq name hname hread none
  cases hj : j.get? name <;> cases hk : k.get? name <;> rw [hj, hk] at heq <;> exact heq

end View

end MathAgents.Json
