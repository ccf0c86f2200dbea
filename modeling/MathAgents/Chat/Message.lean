import MathAgents.Turn.Attachment

namespace MathAgents.Chat

/-!
# Messages

A conversation with a model is a list of messages.  An assistant message may ask for tool calls,
and a tool message answers one of them by its id.
-/

/-- Who speaks. -/
inductive Speaker where
  | user
  | assistant
  | system
  | tool
  deriving DecidableEq, Repr

namespace Speaker

/-- Every speaker. -/
def all : List Speaker := [user, assistant, system, tool]

/-- The name of a speaker. -/
def name : Speaker → String
  | user => "user"
  | assistant => "assistant"
  | system => "system"
  | tool => "tool"

/-- The speaker with a name. -/
def ofName? (s : String) : Option Speaker := all.find? (·.name == s)

/-- The speaker that a JSON value encodes. -/
def ofJson? (j : Json) : Option Speaker := j.asName?.bind ofName?

end Speaker

/-- A call of a tool as a model asks for it; the arguments are a text that ought to be JSON. -/
structure ToolCall where
  id : String
  name : String
  arguments : String
  deriving DecidableEq, Repr

namespace ToolCall

/-- The fields of a call. -/
def fields (c : ToolCall) : Fields :=
  [("id", .str c.id), ("name", .str c.name), ("arguments", .str c.arguments)]

/-- The call as a JSON value. -/
def toJson (c : ToolCall) : Json := .obj c.fields

/-- The call that a JSON value encodes. -/
def ofJson? (j : Json) : Option ToolCall := do
  return ⟨← j.getString? "id", ← j.getString? "name", ← j.getString? "arguments"⟩

end ToolCall

/-- A message. -/
structure Message where
  speaker : Speaker
  content : String
  /-- The id of the call that a tool message answers. -/
  answers : Option String := none
  /-- The calls that an assistant message asks for. -/
  calls : List ToolCall := []
  attachments : List Attachment := []
  deriving DecidableEq

namespace Message

/-- What the user says. -/
def user (content : String) : Message := ⟨.user, content, none, [], []⟩

/-- What the user says, with attachments. -/
def userWith (content : String) (attachments : List Attachment) : Message :=
  ⟨.user, content, none, [], attachments⟩

/-- What the model says. -/
def assistant (content : String) : Message := ⟨.assistant, content, none, [], []⟩

/-- A tool call that the model asks for. -/
def assistantCall (call : ToolCall) : Message := ⟨.assistant, "", none, [call], []⟩

/-- Instructions. -/
def system (content : String) : Message := ⟨.system, content, none, [], []⟩

/-- What a tool answered to the call with an id. -/
def toolResult (content id : String) : Message := ⟨.tool, content, some id, [], []⟩

/-- The message as a JSON value; empty parts are left out. -/
def toJson (m : Message) : Json :=
  let answers := match m.answers with
    | none => []
    | some id => [("tool_call_id", Json.str id)]
  let calls :=
    if m.calls.isEmpty then [] else [("tool_calls", Json.arr (m.calls.map ToolCall.toJson))]
  let attachments :=
    if m.attachments.isEmpty then [] else [("attachments", Attachment.listToJson m.attachments)]
  .obj
    (("role", .str m.speaker.name) :: ("content", .str m.content) ::
      answers ++ calls ++ attachments)

/-- The message that a JSON value encodes.  A null id is none; lists may be left out. -/
def ofJson? (j : Json) : Option Message := do
  let speaker ← (j.get? "role").bind Speaker.ofJson?
  let content ← j.getString? "content"
  let answers ← match j.get? "tool_call_id" with
    | none | some .null => some none
    | some (.str id) => some (some id)
    | some _ => none
  let calls ← match j.get? "tool_calls" with
    | none => some []
    | some v => do (← v.asArray?).mapM ToolCall.ofJson?
  let attachments ← match j.get? "attachments" with
    | none => some []
    | some v => Attachment.listOfJson? v
  return { speaker, content, answers, calls, attachments }

end Message

/-- What a model answers: a tool call, or a text that ends the exchange. -/
inductive Reply where
  | toolCall (call : ToolCall)
  | answer (content : String)
  deriving DecidableEq, Repr

namespace Reply

/-- The text of a reply where no tools were offered. -/
def text : Reply → String
  | toolCall call => s!"{call.name}({call.arguments})"
  | answer content => content

/-- The reply as a JSON value. -/
def toJson : Reply → Json
  | toolCall call => .obj (("type", .str "tool_call") :: call.fields)
  | answer content => .obj [("type", .str "final_answer"), ("content", .str content)]

/-- The reply that a JSON value encodes. -/
def ofJson? (j : Json) : Option Reply :=
  match j.getString? "type" with
  | some "tool_call" => (ToolCall.ofJson? j).map toolCall
  | some "final_answer" => (j.getString? "content").map answer
  | _ => none

end Reply

end MathAgents.Chat
