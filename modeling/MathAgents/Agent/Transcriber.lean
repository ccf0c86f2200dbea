import MathAgents.Agent.Basic
import MathAgents.Session.ImageCache

namespace MathAgents.Agent

/-!
# The transcriber

Transcribes the latest image of a session.  A turn without images uses those seen last; without
any it asks for an upload, and its model is not consulted.
-/

/-- What the transcriber tells its model. -/
def transcriberInstructions : String :=
    "You are an OCR specialist. Use the most recent image in the conversation. Transcribe " ++
    "every legible word, preserving line breaks where it helps readability. Answer in this " ++
    "structure:\nDetected Text:\n<verbatim transcription>\n\nNotes:\n<brief remarks about " ++
    "legibility, uncertainties or missing regions>\nNever invent text you cannot clearly see; " ++
    "if a region is unreadable, say so."

/-- What is said beside images of an earlier turn. -/
def carriedOverNote : String := "Image previously uploaded for OCR transcription."

/-- The reply when the session has no image. -/
def uploadRequest : String :=
  "I could not find an image in this conversation. " ++
  "Please upload the image you want transcribed."

/-- The conversation about the images from a source; none if there are no images. -/
def transcriberMessages (request : String) : ImageCache.Source → Option (List Chat.Message)
  | .currentTurn images =>
    some [.system transcriberInstructions, .userWith request images]
  | .carriedOver images =>
    some [.system transcriberInstructions, .user request, .userWith carriedOverNote images]
  | .missing => none

/-- The transcriber.  It acts on the state of its provider and on the state kept for sessions. -/
def transcriber {σ : Type} (provider : Chat.Provider σ) (temperature : Float) :
    Agent (σ × StateStore) where
  role := .transcriber
  invoke c := fun (s, store) =>
    let (source, store) := ImageCache.resolve store c.sessionId c.images
    match transcriberMessages c.request source with
    | none => (.ok (.reply uploadRequest), s, store)
    | some messages =>
      let (outcome, s) := consult provider messages temperature s
      (outcome, s, store)

end MathAgents.Agent
