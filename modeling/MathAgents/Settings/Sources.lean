import MathAgents.Decimal.Numeral
import MathAgents.Settings.Written

namespace MathAgents.Settings

/-!
# Where settings come from

Settings are the defaults, overridden by a file, overridden by variables of the environment.  The
credential comes from the environment, or else from the keychain.  A variable that is blank counts
as not set, except for the temperature, which has to be a number.
-/

/-- The variable that names the model. -/
def modelVariable : String := "OPENAI_MODEL"

/-- The variable that says where the provider is found. -/
def baseUrlVariable : String := "OPENAI_BASE_URL"

/-- The service under which the keychain keeps secrets. -/
def keychainService : String := "mathcrew"

/-- The key under which the keychain keeps the credential. -/
def keychainKey : String := "openai_api_key"

/-- The value of a variable, unless it is blank. -/
def given? (environment : String → Option String) (name : String) : Option String :=
  (environment name).filter (!Text.isBlank ·)

/-- The settings with every override that is a text. -/
def overrideTexts (environment : String → Option String) (s : Settings) : Settings :=
  { s with
    model :=
      { s.model with
        key := ((given? environment keyVariable).map Secret.mk).or s.model.key
        model := (given? environment modelVariable).getD s.model.model
        baseUrl := (given? environment baseUrlVariable).getD s.model.baseUrl } }

/-- The settings with the overrides of an environment, and the error if the temperature is no
    number; the other overrides hold in any case. -/
def override (environment : String → Option String) (s : Settings) :
    Except SettingsError Unit × Settings :=
  let s := overrideTexts environment s
  match environment temperatureVariable with
  | none => (.ok (), s)
  | some raw =>
    match Decimal.read? (Text.trim raw) with
    | some temperature => (.ok (), { s with model := { s.model with temperature } })
    | none => (.error (.notNumeric raw), s)

/-- The settings in a file. -/
def ofFile (host : Host) (path : String) : Except SettingsError Settings :=
  match host.readText path with
  | .error fault => .error (.unreadable path fault)
  | .ok text => ofText text

/-- Where the settings file of a user is. -/
def homePath (home : String) : String := s!"{home}/.mathcrew/config.toml"

/-- The settings in the file at a given path, or else in the user's file if there is one. -/
def filed (host : Host) (path : Option String) : Except SettingsError Settings :=
  match path with
  | some path => ofFile host path
  | none =>
    match host.home?.map homePath with
    | none => .ok {}
    | some path => if host.holds path then ofFile host path else .ok {}

/-- The settings with the credential from the keychain, unless they have one. -/
def withKeychain (host : Host) (s : Settings) : Settings :=
  let stored := (host.keychain? keychainService keychainKey).filter (!Text.isBlank ·)
  { s with model := { s.model with key := s.model.key.or (stored.map Secret.mk) } }

/-- The settings that hold on a host. -/
def load (host : Host) (path : Option String) : Except SettingsError Settings := do
  let (outcome, s) := override host.environment (← filed host path)
  outcome
  let s := withKeychain host s
  s.validate
  return s

/-- The secret to store under a key; nothing is stored that is blank. -/
def storable (key value : String) : Except SettingsError Secret :=
  let secret : Secret := ⟨value⟩
  if secret.isBlank then .error (.emptySecret key) else .ok secret

end MathAgents.Settings
