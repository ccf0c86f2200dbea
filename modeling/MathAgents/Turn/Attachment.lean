import MathAgents.Bytes.Base64
import MathAgents.Json.Basic

namespace MathAgents

/-!
# Attachments

Bytes that come with a turn, perhaps with a media type.  The media type alone decides whether an
attachment is an image; one without a type, or with an empty one, counts as an image.
-/

/-- A binary attachment. -/
structure Attachment where
  mediaType : Option String := none
  payload : List UInt8
  deriving DecidableEq

namespace Attachment

/-- Whether an attachment is an image. -/
def isImage (a : Attachment) : Bool :=
  match a.mediaType with
  | none => true
  | some m => m.isEmpty || "image".toList.isPrefixOf m.toList

/-- The fields of an attachment. -/
def fields (a : Attachment) : Fields :=
  let mediaType := match a.mediaType with
    | none => []
    | some m => [("mime_type", Json.str m)]
  mediaType ++ [("payload", .str (String.ofList (Base64.encode a.payload)))]

/-- The attachment as a JSON value. -/
def toJson (a : Attachment) : Json := .obj a.fields

/-- The attachment that a JSON value encodes; a null media type is none. -/
def ofJson? (j : Json) : Option Attachment := do
  let text ← j.getString? "payload"
  let payload ← Base64.decode? text.toList
  match j.get? "mime_type" with
  | none | some .null => return { payload }
  | some (.str m) => return { mediaType := some m, payload }
  | some _ => none

/-- Several attachments as a JSON value. -/
def listToJson (as : List Attachment) : Json := .arr (as.map toJson)

/-- The attachments that a JSON value encodes. -/
def listOfJson? (j : Json) : Option (List Attachment) := do
  (← j.asArray?).mapM ofJson?

end Attachment

end MathAgents
