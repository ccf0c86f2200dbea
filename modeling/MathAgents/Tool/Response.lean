import MathAgents.Json.Basic

namespace MathAgents

/-!
# Tool responses

What a tool gives back: its name with a JSON value.  A failure is a value of one field, `error`,
which holds a kind, perhaps a reason, and a message.
-/

/-- A failure as tools report it. -/
structure Failure where
  kind : String
  reason : Option String := none
  message : String
  deriving DecidableEq, Repr

/-- The failure as a JSON value, its fields in the order of their declaration. -/
def Failure.toJson (f : Failure) : Json :=
  let reason := match f.reason with
    | none => []
    | some r => [("reason", Json.str r)]
  .obj [("error", .obj (("kind", .str f.kind) :: reason ++ [("message", .str f.message)]))]

/-- The failure as a JSON value in canonical form. -/
def Failure.value (f : Failure) : Json := f.toJson.canonical

/-- The response of a tool. -/
structure ToolResponse where
  name : String
  response : Json

namespace ToolResponse

/-- A response that is a text. -/
def ofText (name text : String) : ToolResponse := ⟨name, .obj [("result", .str text)]⟩

/-- A response that is a failure. -/
def ofFailure (name : String) (f : Failure) : ToolResponse := ⟨name, f.value⟩

/-- Whether the response is a failure. -/
def isError (r : ToolResponse) : Bool := (r.response.get? "error").isSome

/-- The response as a JSON value. -/
def toJson (r : ToolResponse) : Json := .obj [("name", .str r.name), ("response", r.response)]

/-- The response that a JSON value encodes. -/
def ofJson? (j : Json) : Option ToolResponse := do
  return ⟨← j.getString? "name", ← j.get? "response"⟩

end ToolResponse

end MathAgents
