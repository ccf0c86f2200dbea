import MathAgents.Chat.Message
import MathAgents.Digest.Blake3
import MathAgents.Json.Printer
import MathAgents.Text.Utf8
import MathAgents.Tool.Request
import MathAgents.Tool.Response

namespace MathAgents

/-!
# The context of a turn

Everything an agent may read while it works on a turn: who asks what, what earlier agents said,
the attachments, and the tool calls of the controller so far.  `Context.snapshot` is the digest
of the written form, by which the audit trail refers to a context.
-/

/-- What an agent said earlier in the turn. -/
structure Entry where
  author : String
  text : String
  deriving DecidableEq, Repr

/-- A tool call of the controller with the response it was given. -/
structure Exchange where
  callId : String
  request : ToolRequest
  response : ToolResponse

/-- The context of a turn. -/
structure Context where
  sessionId : String
  userId : String
  /-- What this invocation is about. -/
  request : String
  /-- What earlier agents said, the first one first. -/
  entries : List Entry := []
  attachments : List Attachment := []
  /-- The controller's tool calls, the first one first. -/
  exchanges : List Exchange := []

/-- The entry as a JSON value. -/
def Entry.toJson (e : Entry) : Json := .obj [("author", .str e.author), ("text", .str e.text)]

/-- The message that shows an entry to a model. -/
def Entry.message (e : Entry) : Chat.Message :=
  .user s!"For context: [{e.author}] said: {e.text}"

/-- The exchange as a JSON value. -/
def Exchange.toJson (e : Exchange) : Json :=
  .obj
    [("call_id", .str e.callId), ("request", e.request.toJson), ("response", e.response.toJson)]

namespace Context

/-- The context with one more entry. -/
def push (c : Context) (author text : String) : Context :=
  { c with entries := c.entries ++ [⟨author, text⟩] }

/-- The context of an agent that the controller calls: another request over the same entries. -/
def forTool (c : Context) (request : String) : Context :=
  { c with request, attachments := [], exchanges := [] }

/-- The attachments that are images. -/
def images (c : Context) : List Attachment := c.attachments.filter (·.isImage)

/-- The context as a JSON value; attachments and exchanges are left out if there are none. -/
def toJson (c : Context) : Json :=
  let attachments :=
    if c.attachments.isEmpty then [] else [("attachments", Attachment.listToJson c.attachments)]
  let exchanges :=
    if c.exchanges.isEmpty then []
    else [("exchanges", Json.arr (c.exchanges.map Exchange.toJson))]
  .obj
    ([("session_id", .str c.sessionId), ("user_id", .str c.userId), ("request", .str c.request),
      ("entries", .arr (c.entries.map Entry.toJson))] ++ attachments ++ exchanges)

/-- The written form of a context. -/
def serialize (c : Context) : String := c.toJson.print

/-- The digest of the written form of a context. -/
def snapshot (c : Context) : String :=
  Digest.hex (Digest.blake3 (Text.encode c.serialize))

/-- The conversation that shows a context to a model: instructions, the request, the entries. -/
def messages (c : Context) (instructions : String) : List Chat.Message :=
  .system instructions :: .user c.request :: c.entries.map Entry.message

end Context

end MathAgents
