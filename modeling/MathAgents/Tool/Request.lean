import MathAgents.Json.Printer
import MathAgents.Json.Reader
import MathAgents.Text.Blank

namespace MathAgents

/-!
# Tool requests

A tool is called by name with a JSON object of arguments.  A model writes the object as a text;
`ToolRequest.ofText` reads it, a blank text standing for no arguments.
-/

/-- Why a tool cannot be called as requested. -/
inductive ToolError where
  | missingArgument (name : String)
  | invalidArguments (detail : String)
  | unknownTool (name : String)
  deriving DecidableEq, Repr

/-- The message of an error. -/
def ToolError.message : ToolError → String
  | .missingArgument name => s!"Missing argument: {name}"
  | .invalidArguments detail => s!"Invalid arguments: {detail}"
  | .unknownTool name => s!"Unknown tool: {name}"

/-- A request to call a tool. -/
structure ToolRequest where
  name : String
  /-- The arguments, ordered by name. -/
  arguments : Fields := []

namespace ToolRequest

/-- The request with one more argument, which replaces one of the same name. -/
def withArgument (r : ToolRequest) (key : String) (value : Json) : ToolRequest :=
  { r with arguments := r.arguments.insert key value }

/-- The request that a model made, with its arguments as a text. -/
def ofText (name text : String) : Except ToolError ToolRequest :=
  if Text.isBlank text then .ok { name }
  else match Json.parse text with
    | .error fault => .error (.invalidArguments (fault.message text.toList))
    | .ok (.obj arguments) => .ok { name, arguments }
    | .ok j => .error (.invalidArguments s!"expected a JSON object, got {j.print}")

/-- The text of an argument, if it is given and is a string. -/
def argument? (r : ToolRequest) (key : String) : Option String :=
  (r.arguments.get? key).bind Json.asString?

/-- The text of an argument that has to be given as a string. -/
def argument (r : ToolRequest) (key : String) : Except ToolError String :=
  match r.argument? key with
  | some text => .ok text
  | none => .error (.missingArgument key)

/-- The request as a JSON value. -/
def toJson (r : ToolRequest) : Json :=
  .obj [("name", .str r.name), ("arguments", .obj r.arguments)]

/-- The request that a JSON value encodes; the arguments may be left out. -/
def ofJson? (j : Json) : Option ToolRequest := do
  let name ← j.getString? "name"
  match j.get? "arguments" with
  | none => return { name }
  | some a => return { name, arguments := ← a.asObject? }

end ToolRequest

end MathAgents
