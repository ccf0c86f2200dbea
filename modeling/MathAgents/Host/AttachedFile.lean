import MathAgents.Host.Basic
import MathAgents.Turn.Attachment

namespace MathAgents

/-!
# Attached files

A file that is attached to a turn.  The ending of its name tells its media type; with an ending
that is not known it has none.
-/

/-- The media types by the endings of file names. -/
def mediaTypes : List (String × String) :=
  [("png", "image/png"), ("jpg", "image/jpeg"), ("jpeg", "image/jpeg"), ("gif", "image/gif"),
   ("webp", "image/webp"), ("pdf", "application/pdf"), ("txt", "text/plain")]

/-- The last name in a path. -/
def fileName (path : String) : List Char := (path.toList.reverse.takeWhile (· != '/')).reverse

/-- The ending of a file name, behind its last point; a point that starts the name does not
    count. -/
def ending? (name : List Char) : Option String :=
  let ending := name.reverse.takeWhile (· != '.')
  if ending.length + 1 < name.length then some (String.ofList ending.reverse) else none

/-- The media type of the file at a path; the case of ASCII letters is not significant. -/
def mediaTypeOf (path : String) : Option String := do
  let ending ← ending? (fileName path)
  mediaTypes.lookup (String.ofList (ending.toList.map Char.toLower))

/-- The file at a path as an attachment. -/
def Host.attachment (host : Host) (path : String) : Except FileFault Attachment := do
  return { mediaType := mediaTypeOf path, payload := ← host.read path }

/-- The files at some paths as attachments, or the first path that cannot be read. -/
def Host.attachments (host : Host) : List String → Except (String × FileFault) (List Attachment)
  | [] => .ok []
  | path :: paths => do
    let a ← (host.attachment path).mapError (path, ·)
    return a :: (← host.attachments paths)

example : (mediaTypeOf "scan.PNG", mediaTypeOf ".png", mediaTypeOf "dir.png/file") =
    (some "image/png", none, none) := by decide

end MathAgents
