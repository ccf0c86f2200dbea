import MathAgents.Chat.Embedded
import MathAgents.Chat.Provider

namespace MathAgents.Endpoint

/-!
# Chat completions on the wire

How a query is written for an endpoint, and how the reply is read from the body of its response.
The reader takes the first choice and the first tool call in it, and looks at nothing else.
-/

open Chat (ToolCall Message Query Reply Speaker)

/-! ### Queries -/

/-- A tool call as it is written. -/
def callToWire (c : ToolCall) : Json :=
  .obj
    [("function", .obj [("arguments", .str c.arguments), ("name", .str c.name)]),
     ("id", .str c.id), ("type", .str "function")]

/-- The media type that an attachment is declared with. -/
def declaredType (a : Attachment) : String := a.mediaType.getD "image/png"

/-- An attachment as an address that holds its bytes. -/
def dataUrl (a : Attachment) : String :=
  s!"data:{declaredType a};base64," ++ String.ofList (Base64.encode a.payload)

/-- An attachment as it is written. -/
def attachmentToWire (a : Attachment) : Json :=
  .obj [("image_url", .obj [("url", .str (dataUrl a))]), ("type", .str "image_url")]

/-- A text beside attachments as it is written. -/
def textToWire (text : String) : Json := .obj [("text", .str text), ("type", .str "text")]

/-- A message as it is written. -/
def messageToWire (m : Message) : Json :=
  if m.speaker = .tool then
    .obj
      [("content", .str m.content), ("role", .str m.speaker.name),
       ("tool_call_id", (m.answers.map Json.str).getD .null)]
  else if m.speaker = .assistant ∧ !m.calls.isEmpty then
    .obj
      [("content", .null), ("role", .str m.speaker.name),
       ("tool_calls", .arr (m.calls.map callToWire))]
  else if m.attachments.isEmpty then
    .obj [("content", .str m.content), ("role", .str m.speaker.name)]
  else
    .obj
      [("content", .arr (textToWire m.content :: m.attachments.map attachmentToWire)),
       ("role", .str m.speaker.name)]

/-- The description of a tool as it is written. -/
def toolToWire (t : ToolSpec) : Json :=
  .obj
    [("function", .obj
       [("description", .str t.description), ("name", .str t.name),
        ("parameters", t.parameters)]),
     ("type", .str "function")]

/-- A query to a model as it is written. -/
def queryToWire (model : String) (q : Query) : Json :=
  let tools :=
    if q.tools.isEmpty then [] else [("tools", Json.arr (q.tools.map toolToWire))]
  .obj
    ([("messages", .arr (q.messages.map messageToWire)), ("model", .str model),
      ("temperature", .ofFloat q.temperature)] ++ tools)

/-! ### Replies -/

/-- Why no reply can be read from a body. -/
inductive BodyFault where
  | notJson
  | noMessage
  | noFunction
  | noName
  | noContent
  deriving DecidableEq, Repr

/-- The message of a fault. -/
def BodyFault.message : BodyFault → String
  | .notJson => "error decoding response body"
  | .noMessage => "No message in response"
  | .noFunction => "Tool call without function"
  | .noName => "Tool call without name"
  | .noContent => "Empty content"

/-- The first item of the array in a field. -/
def firstOf? (key : String) (j : Json) : Option Json := do
  (← (← j.get? key).asArray?).head?

/-- The tool call that was written; its id and its arguments may be left out. -/
def callOfWire (j : Json) : Except BodyFault ToolCall := do
  let id := (j.getString? "id").getD ""
  let some function := j.get? "function" | throw .noFunction
  let some name := function.getString? "name" | throw .noName
  return ⟨id, name, (function.getString? "arguments").getD "{}"⟩

/-- The reply in a message; a text that spells out a tool call is that call, under a new id. -/
def replyOfMessage (freshId : String) (message : Json) : Except BodyFault Reply :=
  match firstOf? "tool_calls" message with
  | some call => (callOfWire call).map .toolCall
  | none =>
    match message.getString? "content" with
    | none => .error .noContent
    | some content =>
      match ToolCall.inText? freshId content with
      | some call => .ok (.toolCall call)
      | none => .ok (.answer content)

/-- The reply in the body of a response. -/
def replyOfBody (freshId : String) (body : Json) : Except BodyFault Reply :=
  match (firstOf? "choices" body).bind (·.get? "message") with
  | none => .error .noMessage
  | some message => replyOfMessage freshId message

end MathAgents.Endpoint
