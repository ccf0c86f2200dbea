import MathAgents.Turn.Attachment

namespace MathAgents

/-!
# Turns

One contribution to a conversation: an author with texts and attachments in order.
-/

/-- A part of a turn. -/
inductive Part where
  | text (text : String)
  | attachment (a : Attachment)
  deriving DecidableEq

/-- A turn. -/
structure Turn where
  author : String
  parts : List Part
  deriving DecidableEq

namespace Part

/-- The part as a JSON value. -/
def toJson : Part → Json
  | text t => .obj [("type", .str "text"), ("text", .str t)]
  | attachment a => .obj (("type", .str "attachment") :: a.fields)

/-- The part that a JSON value encodes. -/
def ofJson? (j : Json) : Option Part :=
  match j.getString? "type" with
  | some "text" => (j.getString? "text").map text
  | some "attachment" => (Attachment.ofJson? j).map attachment
  | _ => none

end Part

namespace Turn

/-- A turn of the user with one text. -/
def user (text : String) : Turn := ⟨"user", [.text text]⟩

/-- The turn with one more attachment. -/
def attach (t : Turn) (a : Attachment) : Turn := { t with parts := t.parts ++ [.attachment a] }

/-- The texts of a turn, a line each. -/
def text (t : Turn) : String :=
  "\n".intercalate <| t.parts.filterMap fun
    | .text s => some s
    | .attachment _ => none

/-- The attachments of a turn. -/
def attachments (t : Turn) : List Attachment :=
  t.parts.filterMap fun
    | .text _ => none
    | .attachment a => some a

/-- The attachments of a turn that are images. -/
def images (t : Turn) : List Attachment := t.attachments.filter (·.isImage)

/-- The turn as a JSON value. -/
def toJson (t : Turn) : Json :=
  .obj [("author", .str t.author), ("parts", .arr (t.parts.map Part.toJson))]

/-- The turn that a JSON value encodes. -/
def ofJson? (j : Json) : Option Turn := do
  let author ← j.getString? "author"
  let parts ← (← (← j.get? "parts").asArray?).mapM Part.ofJson?
  return ⟨author, parts⟩

end Turn

end MathAgents
