namespace MathAgents

/-!
# JSON values

The free-form values that tools exchange.  A number is an integer or a double; the two are told
apart because they are written differently.  An object is a list of fields in the order in which
they are written; `Json.canonical` orders the fields by key and keeps the last of equal keys,
which is the form of every value that was read.
-/

/-- A JSON value. -/
inductive Json where
  | null
  | bool (b : Bool)
  | int (n : Int)
  | float (x : Float)
  | str (s : String)
  | arr (items : List Json)
  | obj (fields : List (String × Json))
  deriving Inhabited

/-- The fields of a JSON object. -/
abbrev Fields := List (String × Json)

namespace Fields

/-- The value of the first field with a key. -/
def get? (key : String) : Fields → Option Json
  | [] => none
  | (k, v) :: rest => if k = key then some v else get? key rest

/-- Fields ordered by key with one more, which replaces a field of the same key. -/
def insert (key : String) (value : Json) : Fields → Fields
  | [] => [(key, value)]
  | (k, v) :: rest =>
    if key = k then (key, value) :: rest
    else if key < k then (key, value) :: (k, v) :: rest
    else (k, v) :: insert key value rest

/-- Fields ordered by key with one more, unless there is one of the same key. -/
def insertNew (key : String) (value : Json) (fields : Fields) : Fields :=
  if (fields.get? key).isSome then fields else fields.insert key value

/-- Whether the keys stand in strictly ascending order. -/
def Ordered (fields : Fields) : Prop := (fields.map Prod.fst).Pairwise (· < ·)

/-- What was inserted is found, and nothing else changes. -/
theorem get?_insert (key k : String) (value : Json) (fields : Fields) :
    get? k (insert key value fields) = if key = k then some value else get? k fields := by
  induction fields with
  | nil => simp [insert, get?]
  | cons field rest ih =>
    obtain ⟨k', v⟩ := field
    simp only [insert]
    split
    · subst_vars; simp only [get?]; split <;> simp_all
    · split
      · simp only [get?]
      · simp only [get?, ih]; split <;> simp_all

end Fields

namespace Json

/-- A double as a JSON value: null when it is not finite. -/
def ofFloat (x : Float) : Json := if x.isFinite then .float x else .null

/-- A natural number as a JSON value. -/
def ofNat (n : Nat) : Json := .int n

/-- The field of an object with a key; other values have no fields. -/
def get? (key : String) : Json → Option Json
  | .obj fields => Fields.get? key fields
  | _ => none

/-- The text of a string value. -/
def asString? : Json → Option String
  | .str s => some s
  | _ => none

/-- The name that stands for a value without parts: a text, or an object in which nothing stands
    under that name alone. -/
def asName? : Json → Option String
  | .str s => some s
  | .obj [(name, .null)] => some name
  | _ => none

/-- The items of an array. -/
def asArray? : Json → Option (List Json)
  | .arr items => some items
  | _ => none

/-- The fields of an object. -/
def asObject? : Json → Option Fields
  | .obj fields => some fields
  | _ => none

/-- The text of the field of an object with a key. -/
def getString? (key : String) (j : Json) : Option String := (j.get? key).bind asString?

mutual

/-- The value with the fields of every object in it ordered by key, the last of equal keys kept. -/
def canonical : Json → Json
  | .arr items => .arr (canonicalItems items)
  | .obj fields => .obj (canonicalFields fields)
  | .null => .null
  | .bool b => .bool b
  | .int n => .int n
  | .float x => .float x
  | .str s => .str s

/-- The items of an array in canonical form. -/
def canonicalItems : List Json → List Json
  | [] => []
  | item :: rest => canonical item :: canonicalItems rest

/-- The fields of an object in canonical form. -/
def canonicalFields : List (String × Json) → List (String × Json)
  | [] => []
  | (key, value) :: rest => Fields.insertNew key (canonical value) (canonicalFields rest)

end

/-- An object in canonical form, from fields in the order of their declaration. -/
def object (fields : Fields) : Json := (Json.obj fields).canonical

end Json

end MathAgents
