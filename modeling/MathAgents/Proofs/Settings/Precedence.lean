import MathAgents.Proofs.Outcome
import MathAgents.Settings.Sources

namespace MathAgents

/-!
# Which source counts

Settings are loaded from an environment, a file and the defaults, and the credential from the
environment or the keychain.  For every setting there is one source that counts: where a variable
and the file both have a value, it is the variable, and where neither has one, it is the default.
Nothing is loaded unless every value is one that a run may start with.

* `Settings.Valid` — what a run may start with; `Settings.validate_eq_ok_iff`.
* `Settings.inFile` — the value of a setting in a file, or else its default.
* `Settings.Resolved` — settings in which every value comes from the source that counts.
* `Settings.load_eq_ok_iff` — what is loaded: the settings that are resolved, if they are valid.
* `Settings.load_eq_map` — the credential comes to the settings last, and changes nothing else.
-/

/-- The credential of a host: that of its environment, or else that of its keychain, unless it is
    blank there. -/
def Host.credential? (host : Host) : Option Secret :=
  (((host.environment keyVariable).filter (!Text.isBlank ·)).or
    ((host.keychain? Settings.keychainService Settings.keychainKey).filter
      (!Text.isBlank ·))).map Secret.mk

/-- The host with everything left out that a credential may come from. -/
def Host.withoutCredential (host : Host) : Host :=
  { host with
    environment := fun name => if name = keyVariable then none else host.environment name
    keychain? := fun _ _ => none }

namespace Settings

open Toml (Value Table)

variable {host : Host} {path : Option String} {table : Table} {s s' : Settings}

/-- A variable that is given has a value that is not blank. -/
theorem given?_eq_some_iff {environment : String → Option String} {name value : String} :
    given? environment name = some value ↔
      environment name = some value ∧ ¬ Text.isBlank value := by
  simp [given?, Option.filter_eq_some_iff]

/-- The credential is the key that is given, or else that of the keychain. -/
theorem credential?_eq (host : Host) :
    host.credential? = ((given? host.environment keyVariable).or
      ((host.keychain? keychainService keychainKey).filter (!Text.isBlank ·))).map Secret.mk := rfl

/-- A credential is never blank. -/
theorem not_isBlank_of_credential? {key : Secret} (h : host.credential? = some key) :
    ¬ Text.isBlank key.reveal := by
  obtain ⟨value, hvalue, rfl⟩ := Option.map_eq_some_iff.mp h
  rcases Option.or_eq_some_iff.mp hvalue with hgiven | ⟨-, hstored⟩
  · exact (given?_eq_some_iff.mp hgiven).2
  · simpa using (Option.filter_eq_some_iff.mp hstored).2

/-- With nothing in the keychain the credential is that of the environment. -/
theorem credential?_eq_some_iff (h : host.keychain? keychainService keychainKey = none)
    {key : Secret} : host.credential? = some key ↔
      host.environment keyVariable = some key.reveal ∧ ¬ Text.isBlank key.reveal := by
  rw [credential?_eq, h, Option.filter_none, Option.or_none, ← given?_eq_some_iff,
    Option.map_eq_some_iff]
  constructor
  · rintro ⟨value, hvalue, rfl⟩
    exact hvalue
  · intro hvalue
    exact ⟨key.reveal, hvalue, rfl⟩

/-! ### Valid settings -/

/-- Settings that a run may start with. -/
structure Valid (s : Settings) : Prop where
  logLevel : s.general.logLevel ∈ logLevels
  temperature_least : 0 ≤ s.model.temperature
  temperature_greatest : s.model.temperature ≤ 2
  model : ¬ Text.isBlank s.model.model
  maxRounds : 0 < s.run.maxRounds
  maxIterations : 0 < s.run.maxIterations

theorem validate_eq_ok_iff (s : Settings) : s.validate = .ok () ↔ s.Valid := by
  unfold validate
  constructor
  · intro h
    split at h
    · cases h
    split at h
    · cases h
    split at h
    · cases h
    split at h
    · cases h
    next hlevel htemperature hmodel hcalls =>
      simp only [Bool.not_eq_true', Bool.not_eq_false, List.contains_eq_mem, decide_eq_true_eq,
        Bool.and_eq_true] at hlevel htemperature
      rw [not_or] at hcalls
      exact ⟨hlevel, htemperature.1, htemperature.2, hmodel, Nat.pos_of_ne_zero hcalls.1,
        Nat.pos_of_ne_zero hcalls.2⟩
  · intro h
    have hleast : decide (leastTemperature ≤ s.model.temperature) = true :=
      decide_eq_true h.temperature_least
    have hgreatest : decide (s.model.temperature ≤ greatestTemperature) = true :=
      decide_eq_true h.temperature_greatest
    have hrounds := Nat.ne_of_gt h.maxRounds
    have hiterations := Nat.ne_of_gt h.maxIterations
    simp [h.logLevel, hleast, hgreatest, h.model, hrounds, hiterations]

/-! ### Files -/

/-- The value of a setting in a file, by its group, its name and its place there, or else its
    default. -/
def inFile {α : Type} (table : Table) (group name : String) (place : Nat) (read : Value → Option α)
    (default : α) : α :=
  ((((group? (table.lookup group)).bind fun values => values name place).bind read)).getD default

/-- The path of the settings file, if there is one: the given path, or that of the user's file. -/
def filePath? (host : Host) (path : Option String) : Option String :=
  path.or ((host.home?.map homePath).filter (host.holds ·))

/-- The table in the settings file, and an empty one if there is no file. -/
def table? (host : Host) (path : Option String) : Option Table :=
  match filePath? host path with
  | none => some []
  | some path => (host.readText path).toOption.bind Toml.parse

theorem ofFile_eq_ok_iff {path : String} :
    ofFile host path = .ok s ↔
      ∃ table, (host.readText path).toOption.bind Toml.parse = some table ∧
        ofTable? table = some s := by
  unfold ofFile ofText
  cases host.readText path with
  | error fault => simp [Except.toOption]
  | ok text =>
    show _ ↔ ∃ table, Toml.parse text = some table ∧ ofTable? table = some s
    rw [← Option.bind_eq_some_iff]
    dsimp only
    cases (Toml.parse text).bind ofTable? <;> simp

/-- What the file settles is what its table settles. -/
theorem filed_eq_ok_iff :
    filed host path = .ok s ↔ ∃ table, table? host path = some table ∧ ofTable? table = some s := by
  have hempty : Except.ok (ε := SettingsError) ({} : Settings) = .ok s ↔
      ∃ table : Table, some [] = some table ∧ ofTable? table = some s := by
    constructor
    · intro h
      obtain rfl := Except.ok.inj h
      exact ⟨[], rfl, rfl⟩
    · rintro ⟨table, htable, hs⟩
      obtain rfl := Option.some.inj htable
      obtain rfl := Option.some.inj hs
      rfl
  unfold filed table? filePath?
  cases path with
  | some path => exact ofFile_eq_ok_iff
  | none =>
    cases host.home?.map homePath with
    | none => exact hempty
    | some home =>
      cases hholds : host.holds home with
      | true => simpa [Option.filter, hholds] using ofFile_eq_ok_iff
      | false => simpa [Option.filter, hholds] using hempty

/-- A setting that may be left out. -/
theorem setting?_eq_some {α : Type} {default x : α} {read : Value → Option α} {v : Option Value}
    (h : setting? default read v = some x) : x = (v.bind read).getD default := by
  cases v with
  | none => exact (Option.some.inj h).symm
  | some v =>
    have hread : read v = some x := h
    rw [Option.bind_some, hread, Option.getD_some]

/-- Settings whose values are those of a file, with no credential. -/
structure Written (table : Table) (s : Settings) : Prop where
  logLevel : s.general.logLevel = inFile table "core" "log_level" 0 text? "info"
  baseUrl : s.model.baseUrl =
    inFile table "llm" "base_url" 0 text? "https://api.openai.com/v1"
  model : s.model.model = inFile table "llm" "model" 1 text? "gpt-4o-mini"
  temperature : s.model.temperature = inFile table "llm" "temperature" 2 number? 0.2
  key : s.model.key = none
  kind : s.run.kind = inFile table "pipeline" "default" 0 kind? .sequential
  maxRounds : s.run.maxRounds = inFile table "pipeline" "max_controller_rounds" 1 count? 16
  maxIterations : s.run.maxIterations = inFile table "pipeline" "max_tool_iterations" 2 count? 8

theorem written_of_ofTable? (h : ofTable? table = some s) : s.Written table := by
  unfold ofTable? at h
  simp only [Option.bind_eq_bind, Option.bind_eq_some_iff] at h
  obtain ⟨core, hcore, logLevel, hlogLevel, llm, hllm, baseUrl, hbaseUrl, model, hmodel,
    temperature, htemperature, pipeline, hpipeline, kind, hkind, maxRounds, hmaxRounds,
    maxIterations, hmaxIterations, hs⟩ := h
  obtain rfl := Option.some.inj hs
  exact
    { logLevel := by rw [inFile, hcore]; exact setting?_eq_some hlogLevel
      baseUrl := by rw [inFile, hllm]; exact setting?_eq_some hbaseUrl
      model := by rw [inFile, hllm]; exact setting?_eq_some hmodel
      temperature := by rw [inFile, hllm]; exact setting?_eq_some htemperature
      key := rfl
      kind := by rw [inFile, hpipeline]; exact setting?_eq_some hkind
      maxRounds := by rw [inFile, hpipeline]; exact setting?_eq_some hmaxRounds
      maxIterations := by rw [inFile, hpipeline]; exact setting?_eq_some hmaxIterations }

/-! ### What is loaded -/

/-- Whether a text is chosen from the source that counts: a variable, unless it is not set or blank,
    and then what the file settles. -/
structure Chosen (stated? : Option String) (filed chosen : String) : Prop where
  given : ∀ text, stated? = some text → ¬ Text.isBlank text → chosen = text
  filed : (∀ text, stated? = some text → Text.isBlank text) → chosen = filed

section

variable {stated? : Option String} {filed chosen chosen' : String}

/-- What is chosen is the variable with a blank one left out, or else what is filed. -/
theorem chosen_iff : Chosen stated? filed chosen ↔
    chosen = (stated?.filter (!Text.isBlank ·)).getD filed := by
  cases stated? with
  | none => exact ⟨fun h => h.filed nofun, fun h => ⟨nofun, fun _ => h⟩⟩
  | some text =>
    by_cases hblank : Text.isBlank text
    · rw [Option.filter_some_neg (by simpa using hblank), Option.getD_none]
      refine ⟨fun h => h.filed fun _ htext => Option.some.inj htext ▸ hblank, fun h => ?_⟩
      exact ⟨fun _ htext hnot => absurd (Option.some.inj htext ▸ hblank) hnot, fun _ => h⟩
    · rw [Option.filter_some_pos (by simpa using hblank), Option.getD_some]
      refine ⟨fun h => h.given text rfl hblank, fun h => ?_⟩
      exact ⟨fun _ htext _ => h.trans (Option.some.inj htext),
        fun hall => absurd (hall text rfl) hblank⟩

theorem Chosen.unique (h : Chosen stated? filed chosen) (h' : Chosen stated? filed chosen') :
    chosen = chosen' := (chosen_iff.mp h).trans (chosen_iff.mp h').symm

end

/-- Settings in which every value comes from the source that counts: a variable that is set, and not
    blank if it is a text, or else the file, or else the default.  The credential is never in the
    file. -/
structure Resolved (host : Host) (table : Table) (s : Settings) : Prop where
  logLevel : s.general.logLevel = inFile table "core" "log_level" 0 text? "info"
  baseUrl : Chosen (host.environment "OPENAI_BASE_URL")
    (inFile table "llm" "base_url" 0 text? "https://api.openai.com/v1") s.model.baseUrl
  model : Chosen (host.environment "OPENAI_MODEL")
    (inFile table "llm" "model" 1 text? "gpt-4o-mini") s.model.model
  temperature_given : ∀ raw, host.environment "OPENAI_TEMPERATURE" = some raw →
    Decimal.read? (Text.trim raw) = some s.model.temperature
  temperature_filed : host.environment "OPENAI_TEMPERATURE" = none →
    s.model.temperature = inFile table "llm" "temperature" 2 number? 0.2
  key : s.model.key = host.credential?
  kind : s.run.kind = inFile table "pipeline" "default" 0 kind? .sequential
  maxRounds : s.run.maxRounds = inFile table "pipeline" "max_controller_rounds" 1 count? 16
  maxIterations : s.run.maxIterations = inFile table "pipeline" "max_tool_iterations" 2 count? 8

/-- The sources settle every value. -/
theorem Resolved.unique (h : s.Resolved host table) (h' : s'.Resolved host table) : s = s' := by
  have htemperature : s.model.temperature = s'.model.temperature := by
    cases henv : host.environment temperatureVariable with
    | none => rw [h.temperature_filed henv, h'.temperature_filed henv]
    | some raw =>
      have hread := h.temperature_given raw henv
      rw [h'.temperature_given raw henv] at hread
      exact (Option.some.inj hread).symm
  obtain ⟨⟨logLevel⟩, ⟨baseUrl, model, temperature, key⟩, ⟨kind, maxRounds, maxIterations⟩⟩ := s
  obtain ⟨⟨logLevel'⟩, ⟨baseUrl', model', temperature', key'⟩,
    ⟨kind', maxRounds', maxIterations'⟩⟩ := s'
  simp only [Settings.mk.injEq, GeneralSettings.mk.injEq, ModelSettings.mk.injEq,
    RunSettings.mk.injEq]
  exact ⟨h.logLevel.trans h'.logLevel.symm, ⟨h.baseUrl.unique h'.baseUrl,
    h.model.unique h'.model, htemperature, h.key.trans h'.key.symm⟩,
    h.kind.trans h'.kind.symm, h.maxRounds.trans h'.maxRounds.symm,
    h.maxIterations.trans h'.maxIterations.symm⟩

/-- What is loaded, step by step: the file is read, the variables override it, the keychain is asked
    for the credential, and everything is checked. -/
theorem load_eq_ok_iff_steps :
    load host path = .ok s ↔
      ∃ written, filed host path = .ok written ∧ (override host.environment written).1 = .ok () ∧
        s = withKeychain host (override host.environment written).2 ∧ s.Valid := by
  unfold load
  simp only [bind_eq_ok_iff]
  constructor
  · rintro ⟨written, hwritten, _, hoverride, _, hvalid, hs⟩
    obtain rfl := Except.ok.inj hs
    exact ⟨written, hwritten, hoverride, rfl, (validate_eq_ok_iff _).mp hvalid⟩
  · rintro ⟨written, hwritten, hoverride, rfl, hvalid⟩
    exact ⟨written, hwritten, (), hoverride, (), (validate_eq_ok_iff _).mpr hvalid, rfl⟩

/-- Of the variables, only a temperature can be wrong. -/
theorem override_fst (environment : String → Option String) (s : Settings) :
    (override environment s).1 =
      match environment temperatureVariable with
      | none => .ok ()
      | some raw =>
        if (Decimal.read? (Text.trim raw)).isSome then .ok () else .error (.notNumeric raw) := by
  unfold override
  cases environment temperatureVariable with
  | none => rfl
  | some raw => cases h : Decimal.read? (Text.trim raw) <;> simp [h]

theorem override_eq_ok_iff {environment : String → Option String} :
    (override environment s).1 = .ok () ↔ ∀ raw, environment temperatureVariable = some raw →
      (Decimal.read? (Text.trim raw)).isSome := by
  rw [override_fst]
  cases environment temperatureVariable <;> simp [Option.isSome_iff_ne_none]

/-- The settings with every override that can be read. -/
theorem override_snd (environment : String → Option String) (s : Settings) :
    (override environment s).2 =
      { overrideTexts environment s with
        model :=
          { (overrideTexts environment s).model with
            temperature := ((environment temperatureVariable).bind fun raw =>
              Decimal.read? (Text.trim raw)).getD s.model.temperature } } := by
  unfold override
  cases environment temperatureVariable with
  | none => rfl
  | some raw => cases h : Decimal.read? (Text.trim raw) <;> simp [h, overrideTexts]

/-- What is set beside a file takes the place of what the file settles. -/
theorem Written.resolved (h : s.Written table)
    (hoverride : (override host.environment s).1 = .ok ()) :
    (withKeychain host (override host.environment s).2).Resolved host table := by
  rw [override_snd]
  exact
    { logLevel := h.logLevel
      baseUrl := chosen_iff.mpr (congrArg (given? host.environment baseUrlVariable).getD h.baseUrl)
      model := chosen_iff.mpr (congrArg (given? host.environment modelVariable).getD h.model)
      temperature_given := by
        intro raw (hraw : host.environment temperatureVariable = some raw)
        obtain ⟨x, hx⟩ := Option.isSome_iff_exists.mp (override_eq_ok_iff.mp hoverride raw hraw)
        simp only [withKeychain, hraw, Option.bind_some, hx, Option.getD_some]
      temperature_filed := by
        intro (hnone : host.environment temperatureVariable = none)
        simp only [withKeychain, hnone, Option.bind_none, Option.getD_none]
        exact h.temperature
      key := by
        simp only [withKeychain, overrideTexts, h.key, Option.or_none, credential?_eq,
          Option.map_or]
      kind := h.kind
      maxRounds := h.maxRounds
      maxIterations := h.maxIterations }

/-- **Precedence.** Settings are loaded exactly if the file can be read, every value comes from the
    source that counts, and all values are valid. -/
theorem load_eq_ok_iff :
    load host path = .ok s ↔ ∃ table, table? host path = some table ∧ (ofTable? table).isSome ∧
      s.Resolved host table ∧ s.Valid := by
  rw [load_eq_ok_iff_steps]
  constructor
  · rintro ⟨written, hwritten, hoverride, rfl, hvalid⟩
    obtain ⟨table, htable, hread⟩ := filed_eq_ok_iff.mp hwritten
    have hsome : (ofTable? table).isSome := by rw [hread, Option.isSome_some]
    exact ⟨table, htable, hsome, (written_of_ofTable? hread).resolved hoverride, hvalid⟩
  · rintro ⟨table, htable, hsome, hresolved, hvalid⟩
    obtain ⟨written, hread⟩ := Option.isSome_iff_exists.mp hsome
    -- the sources settle every value, so what is loaded step by step is what is resolved
    have hoverride : (override host.environment written).1 = .ok () := by
      rw [override_eq_ok_iff]
      intro raw hraw
      rw [hresolved.temperature_given raw hraw, Option.isSome_some]
    exact ⟨written, filed_eq_ok_iff.mpr ⟨table, htable, hread⟩, hoverride,
      hresolved.unique ((written_of_ofTable? hread).resolved hoverride), hvalid⟩

/-! ### The credential -/

/-- Settings with a credential in place of their own. -/
def withKey (s : Settings) (key : Option Secret) : Settings :=
  { s with model := { s.model with key } }

theorem validate_withKey (s : Settings) (key : Option Secret) :
    (s.withKey key).validate = s.validate := rfl

theorem environment_withoutCredential {name : String} (h : name ≠ keyVariable) :
    host.withoutCredential.environment name = host.environment name := if_neg h

theorem given?_withoutCredential {name : String} (h : name ≠ keyVariable) :
    given? host.withoutCredential.environment name = given? host.environment name := by
  rw [given?, given?, environment_withoutCredential h]

/-- What is set beside a file is the same without a credential, but for the credential. -/
theorem Written.override_withoutCredential (h : s.Written table) :
    (override host.withoutCredential.environment s).1 = (override host.environment s).1 ∧
      (withKeychain host.withoutCredential
        (override host.withoutCredential.environment s).2).withKey host.credential? =
          withKeychain host (override host.environment s).2 := by
  have htemperature := @environment_withoutCredential host temperatureVariable (by decide)
  have hmodel := @given?_withoutCredential host modelVariable (by decide)
  have hbaseUrl := @given?_withoutCredential host baseUrlVariable (by decide)
  constructor
  · rw [override_fst, override_fst, htemperature]
  · rw [override_snd, override_snd, htemperature]
    simp only [withKeychain, withKey, overrideTexts, hmodel, hbaseUrl, h.key, Option.or_none,
      credential?_eq, Option.map_or]

/-- **The credential.** What is loaded is what is loaded without a credential, and the credential of
    the host. -/
theorem load_eq_map (host : Host) (path : Option String) :
    load host path = (load host.withoutCredential path).map (·.withKey host.credential?) := by
  have hfiled : filed host.withoutCredential path = filed host path := rfl
  unfold load
  rw [hfiled]
  cases hwritten : filed host path with
  | error e => rfl
  | ok written =>
    obtain ⟨table, -, hread⟩ := filed_eq_ok_iff.mp hwritten
    -- a file has no credential, so there is none where neither a variable nor the keychain has one
    obtain ⟨houtcome, hsettings⟩ := (written_of_ofTable? hread).override_withoutCredential
    simp only [bind, Except.bind, pure, Except.pure]
    rw [← houtcome, ← hsettings]
    cases (override host.withoutCredential.environment written).1 with
    | error e => rfl
    | ok _ =>
      dsimp only
      rw [validate_withKey]
      cases validate _ <;> rfl

end Settings

end MathAgents
