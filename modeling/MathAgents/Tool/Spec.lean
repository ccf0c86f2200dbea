import MathAgents.Json.Basic

namespace MathAgents

/-!
# Tool descriptions

How a tool is offered to a model: its name, what it does, and a JSON schema of its arguments.
-/

/-- The description of a tool. -/
structure ToolSpec where
  name : String
  description : String
  parameters : Json

namespace ToolSpec

/-- The schema of an object with one text property, which has to be given. -/
def textParameter (name : String) (description : Option String) : Json :=
  let described := match description with
    | none => []
    | some d => [("description", Json.str d)]
  .object
    [("type", .str "object"),
     ("properties", .obj [(name, .obj (("type", .str "string") :: described))]),
     ("required", .arr [.str name])]

/-- The description as a JSON value. -/
def toJson (t : ToolSpec) : Json :=
  .obj [("name", .str t.name), ("description", .str t.description), ("parameters", t.parameters)]

/-- The description that a JSON value encodes. -/
def ofJson? (j : Json) : Option ToolSpec := do
  return ⟨← j.getString? "name", ← j.getString? "description", ← j.get? "parameters"⟩

end ToolSpec

end MathAgents
