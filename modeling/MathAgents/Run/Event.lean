import MathAgents.Json.Printer
import MathAgents.Text.Blank

namespace MathAgents

/-!
# Events

What the user is shown of a run, one event a line.
-/

/-- One item of what the user is shown. -/
inductive Event where
  | message (author text : String)
  | toolCall (name : String) (arguments : Json)
  | toolResponse (name : String) (response : Json)

namespace Event

/-- The line that shows an event. -/
def render : Event → String
  | message author text => s!"{author} {Text.trim text}"
  | toolCall name arguments => s!"[tool-call] {name}({arguments.print})"
  | toolResponse name response => s!"[tool-response] {name}: {response.print}"

/-- The event as a JSON value. -/
def toJson : Event → Json
  | message author text =>
    .obj [("type", .str "message"), ("author", .str author), ("text", .str text)]
  | toolCall name arguments =>
    .obj [("type", .str "tool_call"), ("name", .str name), ("args", arguments)]
  | toolResponse name response =>
    .obj [("type", .str "tool_response"), ("name", .str name), ("response", response)]

end Event

end MathAgents
