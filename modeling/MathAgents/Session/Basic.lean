import MathAgents.Turn.Basic

namespace MathAgents

/-!
# Sessions

A conversation that lasts: who leads it, and its turns in order.
-/

/-- A session. -/
structure Session where
  id : String
  userId : String
  turns : List Turn := []
  deriving DecidableEq

namespace Session

/-- The session as a JSON value. -/
def toJson (s : Session) : Json :=
  .obj
    [("id", .str s.id), ("user_id", .str s.userId), ("turns", .arr (s.turns.map Turn.toJson))]

/-- The session that a JSON value encodes. -/
def ofJson? (j : Json) : Option Session := do
  let id ← j.getString? "id"
  let userId ← j.getString? "user_id"
  let turns ← (← (← j.get? "turns").asArray?).mapM Turn.ofJson?
  return ⟨id, userId, turns⟩

end Session

end MathAgents
