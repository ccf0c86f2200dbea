import MathAgents.Session.StateStore
import MathAgents.Turn.Attachment

namespace MathAgents.ImageCache

/-!
# The images seen last in a session

A turn with images puts them into the session's slot; a turn without images finds those of the
latest turn that had some, and leaves the slot as it is.
-/

/-- The key of the slot. -/
def stateKey : String := "ocr_latest_image_parts"

/-- Where the images for a turn come from. -/
inductive Source where
  | currentTurn (images : List Attachment)
  | carriedOver (images : List Attachment)
  | missing
  deriving DecidableEq

/-- Puts attachments into the slot of a session. -/
def refresh (s : StateStore) (session : String) (attachments : List Attachment) : StateStore :=
  s.set session stateKey (Attachment.listToJson attachments).canonical

/-- The attachments in the slot of a session, if there are any. -/
def load (s : StateStore) (session : String) : Option (List Attachment) :=
  match (s.get? session stateKey).bind Attachment.listOfJson? with
  | some (a :: as) => some (a :: as)
  | _ => none

/-- Decides which attachments a turn uses, given those it carries. -/
def resolve (s : StateStore) (session : String) (current : List Attachment) :
    Source × StateStore :=
  if current.isEmpty then
    match load s session with
    | some cached => (.carriedOver cached, s)
    | none => (.missing, s)
  else (.currentTurn current, refresh s session current)

end MathAgents.ImageCache
