namespace MathAgents.Toml

/-!
# TOML values

The values that a configuration text assigns to keys, and the finished tables that hold them.
-/

/-- A TOML value. -/
inductive Value where
  | string (s : String)
  | integer (n : Int)
  | float (x : Float)
  | boolean (b : Bool)
  /-- A date, a time of day or both, as it is written. -/
  | moment (text : String)
  | array (items : List Value)
  | table (fields : List (String × Value))
  deriving Inhabited

/-- A finished table: its keys with their values. -/
abbrev Table := List (String × Value)

end MathAgents.Toml
