import MathAgents.Text.Blank

namespace MathAgents

/-!
# Secrets

A credential is kept apart from other texts, so that it is shown only where `Secret.reveal` is
asked for by name.
-/

/-- A text that must not be shown. -/
structure Secret where
  /-- The text itself. -/
  reveal : String
  deriving DecidableEq

namespace Secret

/-- What is shown in place of a secret. -/
def mask : String := "[REDACTED]"

/-- A secret as the user sees it. -/
def shown (_ : Secret) : String := mask

/-- A secret as a developer sees it. -/
def described (_ : Secret) : String := s!"SecretString({mask})"

/-- Whether there is nothing to keep. -/
def isBlank (s : Secret) : Bool := Text.isBlank s.reveal

end Secret

end MathAgents
