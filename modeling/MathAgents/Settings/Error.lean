import MathAgents.Host.Basic
import MathAgents.Text.Escaped
import MathAgents.Turn.Error

namespace MathAgents

/-!
# Why there are no settings

What can be wrong with the sources of the settings, with the settings themselves, and with the
credential.
-/

/-- The levels of logging. -/
def logLevels : List String := ["error", "warn", "info", "debug", "trace"]

/-- The variable that holds the credential. -/
def keyVariable : String := "OPENAI_API_KEY"

/-- The variable that holds the temperature. -/
def temperatureVariable : String := "OPENAI_TEMPERATURE"

/-- Why there are no settings. -/
inductive SettingsError where
  | unreadable (path : String) (fault : FileFault)
  | malformed
  | notNumeric (raw : String)
  | unknownLevel (level : String)
  | temperatureOutOfRange
  | blankModel
  | noCalls
  | missingKey
  | emptySecret (key : String)
  deriving DecidableEq, Repr

namespace SettingsError

/-- The message of an error. -/
def message : SettingsError → String
  | unreadable path fault =>
    s!"Failed to read config file {Text.escaped path}: {fault.message}"
  | malformed => "Failed to parse config"
  | notNumeric raw => s!"{temperatureVariable} must be numeric, got '{raw}'."
  | unknownLevel level =>
    let levels := ", ".intercalate logLevels
    s!"Invalid log level '{level}'. Must be one of: {levels}"
  | temperatureOutOfRange => "temperature must be between 0.0 and 2.0"
  | blankModel => "model must not be empty"
  | noCalls => "max_controller_rounds and max_tool_iterations must be at least 1"
  | missingKey =>
    s!"{keyVariable} not found in the environment or keychain. Set it before running."
  | emptySecret key => s!"Refusing to store empty secret '{key}'"

/-- The error of the turn that cannot start. -/
def toTurnError (e : SettingsError) : TurnError := .configuration e.message

end SettingsError

end MathAgents
