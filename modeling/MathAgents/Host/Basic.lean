import MathAgents.Text.Utf8

namespace MathAgents

/-!
# The host

What the program finds on the machine that it runs on: files, variables of its environment, the
user's home directory, and a keychain.  A host is a value, so that what a command does is a
function of it.
-/

/-- Why a file cannot be read. -/
inductive FileFault where
  | missing
  | isDirectory
  | notDirectory
  | notText
  | other (detail : String)
  deriving DecidableEq, Repr

/-- The message of a fault, with the number that the system gives it. -/
def FileFault.message : FileFault → String
  | .missing => "No such file or directory (os error 2)"
  | .isDirectory => "Is a directory (os error 21)"
  | .notDirectory => "Not a directory (os error 20)"
  | .notText => "stream did not contain valid UTF-8"
  | .other detail => detail

/-- The machine that the program runs on. -/
structure Host where
  /-- The bytes of the file at a path. -/
  read : String → Except FileFault (List UInt8)
  /-- The value of a variable of the environment. -/
  environment : String → Option String
  /-- The user's home directory. -/
  home? : Option String
  /-- What the keychain holds for a service under a key. -/
  keychain? : (service key : String) → Option String := fun _ _ => none

namespace Host

/-- The text of the file at a path. -/
def readText (host : Host) (path : String) : Except FileFault String := do
  let bytes ← host.read path
  match Text.decode? bytes with
  | some text => return text
  | none => throw .notText

/-- Whether there is something at a path. -/
def holds (host : Host) (path : String) : Bool :=
  match host.read path with
  | .error .missing | .error .notDirectory => false
  | _ => true

end Host

end MathAgents
