import MathAgents.Run.Crew
import MathAgents.Settings.Error
import MathAgents.Settings.Secret

namespace MathAgents

/-!
# Settings

What the user can set, with the values that hold where nothing is set.  `Settings.validate`
accepts the settings that a run may start with; the credential is asked for only when a provider
is needed, by `Settings.credential`.
-/

/-- What concerns the program as a whole. -/
structure GeneralSettings where
  logLevel : String := "info"

/-- What concerns the model. -/
structure ModelSettings where
  /-- Where the provider is found. -/
  baseUrl : String := "https://api.openai.com/v1"
  model : String := "gpt-4o-mini"
  temperature : Float := 0.2
  /-- The credential; it is never read from a file and never written. -/
  key : Option Secret := none

/-- What concerns a run. -/
structure RunSettings where
  kind : PipelineKind := .sequential
  maxRounds : Nat := 16
  maxIterations : Nat := 8

/-- The settings. -/
structure Settings where
  general : GeneralSettings := {}
  model : ModelSettings := {}
  run : RunSettings := {}

namespace Settings

/-- The settings as a JSON value, without the credential. -/
def toJson (s : Settings) : Json :=
  .obj
    [("core", .obj [("log_level", .str s.general.logLevel)]),
     ("llm", .obj
       [("base_url", .str s.model.baseUrl), ("model", .str s.model.model),
        ("temperature", .ofFloat s.model.temperature)]),
     ("pipeline", .obj
       [("default", .str s.run.kind.name), ("max_controller_rounds", .ofNat s.run.maxRounds),
        ("max_tool_iterations", .ofNat s.run.maxIterations)])]

/-- What a crew is put together with under these settings. -/
def crew (s : Settings) : CrewSettings :=
  { temperature := s.model.temperature
    maxRounds := s.run.maxRounds
    maxIterations := s.run.maxIterations }

/-- The credential, which has to be there before a provider is used. -/
def credential (s : Settings) : Except SettingsError Secret :=
  match s.model.key with
  | some key => .ok key
  | none => .error .missingKey

/-- The level of logging: debugging asks for more than the settings may say. -/
def effectiveLevel (level : String) (debug : Bool) : String := if debug then "debug" else level

/-! ### What a run may start with -/

/-- The least temperature of a model. -/
def leastTemperature : Float := 0

/-- The greatest temperature of a model. -/
def greatestTemperature : Float := 2

/-- Accepts settings that a run may start with: a level of logging that there is, a temperature
    within bounds, a model, and at least one call wherever calls are counted. -/
def validate (s : Settings) : Except SettingsError Unit :=
  if !logLevels.contains s.general.logLevel then .error (.unknownLevel s.general.logLevel)
  else if !(leastTemperature ≤ s.model.temperature && s.model.temperature ≤ greatestTemperature)
  then .error .temperatureOutOfRange
  else if Text.isBlank s.model.model then .error .blankModel
  else if s.run.maxRounds = 0 ∨ s.run.maxIterations = 0 then .error .noCalls
  else .ok ()

end Settings

end MathAgents
