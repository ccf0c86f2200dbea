import MathAgents.Proofs.CommandLine.Likeness
import MathAgents.Proofs.Decimal.Finite
import MathAgents.Proofs.Settings.Precedence

namespace MathAgents

/-!
# What is sent under which settings

Settings are checked when they are loaded, and everything that a request is made of comes from them.
So what holds of the settings holds of every request that is sent, in whatever state of a run; and
where there are no settings, or no credential, nothing is sent at all.

* `Endpoint.exists_trimSlashes`, `Endpoint.request?_eq_some` — where requests go, and what is in
  them.
* `Endpoint.HttpRequest.Validated`, `Endpoint.HttpRequest.SentUnder` — what holds of a request for
  an agent.
* `Endpoint.validated_of_asks` — the requests for what agents ask are such.
* `Settings.Unready` — what keeps a run from starting; `CommandLine.carryOut_of_unready`.
* `CommandLine.requests_validated` — the settings, the requests, and the failures of commands.
-/

namespace Endpoint

/-! ### Requests -/

/-- An address ends in the slashes that are left out, and they are all that there are. -/
theorem exists_trimSlashes (text : String) :
    ∃ n, text.toList = (trimSlashes text).toList ++ List.replicate n '/' ∧
      (trimSlashes text).toList.getLast? ≠ some '/' := by
  let slashes := text.toList.reverse.takeWhile (· == '/')
  have hslashes : slashes = List.replicate slashes.length '/' := by
    apply List.eq_replicate_of_mem
    intro c hc
    have hall := List.all_eq_true.mp (List.all_takeWhile (p := (· == '/'))) c hc
    exact beq_iff_eq.mp hall
  have hstem : (trimSlashes text).toList =
      (text.toList.reverse.dropWhile (· == '/')).reverse := String.toList_ofList
  refine ⟨slashes.length, ?_, ?_⟩
  · have hcut : slashes ++ text.toList.reverse.dropWhile (· == '/') = text.toList.reverse :=
      List.takeWhile_append_dropWhile
    rw [hstem, ← List.reverse_replicate, ← hslashes, ← List.reverse_append, hcut,
      List.reverse_reverse]
  · rw [hstem, List.getLast?_reverse]
    intro h
    have hfirst := List.head?_dropWhile_not (· == '/') text.toList.reverse
    rw [h] at hfirst
    cases hfirst

/-- A request goes to the address of the endpoint, in its name, and holds the query. -/
theorem request?_eq_some {e : Endpoint} {query : Chat.Query} {r : HttpRequest}
    (h : e.request? query = some r) :
    Url.parse? e.address = some r.url ∧ r.authorization = e.authorization r.url ∧
      r.body = queryToWire e.model query := by
  unfold request? at h
  simp only [Option.bind_eq_bind, Option.bind_eq_some_iff] at h
  obtain ⟨url, hurl, h⟩ := h
  split at h
  · obtain rfl := Option.some.inj h
    exact ⟨hurl, rfl, rfl⟩
  · cases h

/-- What holds of a request for the agent with a role: it is sent with a credential that is not
    blank, to the address that the settings name, and asks for a model that is not blank, to work at
    a finite temperature within bounds.  That is the temperature of the settings, or a higher one
    for the poet.  Whose request it is can be told from the instructions in front. -/
structure HttpRequest.Validated (s : Settings) (key : Secret) (role : Role) (temperature : Float)
    (r : HttpRequest) : Prop where
  key_not_blank : ¬ Text.isBlank key.reveal
  authorization : ∃ front, r.authorization = front ++ ["Bearer " ++ key.reveal]
  url : ∃ stem n, s.model.baseUrl.toList = stem.toList ++ List.replicate n '/' ∧
    stem.toList.getLast? ≠ some '/' ∧ Url.parse? (stem ++ "/chat/completions") = some r.url
  model_not_blank : ¬ Text.isBlank s.model.model
  body_model : r.body.get? "model" = some (.str s.model.model)
  body_messages : ∃ rest,
    r.body.get? "messages" = some (.arr (textMessage "system" role.instructions :: rest))
  body_temperature : r.body.get? "temperature" = some (.float temperature)
  finite : temperature.isFinite
  least : 0 ≤ temperature
  greatest : temperature ≤ 2
  poet : role = .poet → 0.6 ≤ temperature
  others : role ≠ .poet → temperature = s.model.temperature

/-- Whether a request is one for some agent, in the name of the credential of the settings. -/
def HttpRequest.SentUnder (s : Settings) (r : HttpRequest) : Prop :=
  ∃ key role temperature, s.model.key = some key ∧ r.Validated s key role temperature

/-! ### Temperatures -/

theorem least_poetTemperature (x : Float) : 0.6 ≤ poetTemperature x := by
  unfold poetTemperature
  split
  · assumption
  · decide

/-- No agent works at a temperature out of bounds. -/
theorem temperature_within {s : Settings} (h : s.Valid) (role : Role) :
    0 ≤ role.temperature s.crew ∧ role.temperature s.crew ≤ 2 := by
  have hsame : 0 ≤ s.model.temperature ∧ s.model.temperature ≤ 2 :=
    ⟨h.temperature_least, h.temperature_greatest⟩
  cases role with
  | poet =>
    show 0 ≤ poetTemperature s.model.temperature ∧ poetTemperature s.model.temperature ≤ 2
    unfold poetTemperature
    split
    · exact hsame
    · exact ⟨by decide, by decide⟩
  | math | narrator | transcriber | controller => exact hsame

/-- Under valid settings, the request for what an agent asks is as it should be. -/
theorem validated_of_asks {s : Settings} {key : Secret} {role : Role} {query : Chat.Query}
    {r : HttpRequest} (hvalid : s.Valid) (hkey : ¬ Text.isBlank key.reveal)
    (hasks : role.Asks s.crew query) (h : (Endpoint.ofSettings s key).request? query = some r) :
    r.Validated s key role (role.temperature s.crew) := by
  obtain ⟨hurl, hauthorization, hbody⟩ := request?_eq_some h
  obtain ⟨n, htext, hlast⟩ := exists_trimSlashes s.model.baseUrl
  obtain ⟨hleast, hgreatest⟩ := temperature_within hvalid role
  have hfinite : (role.temperature s.crew).isFinite :=
    Decimal.isFinite_of_le_of_le (by decide) (by decide) hleast hgreatest
  obtain ⟨rest, hmessages⟩ := hasks.instructed
  exact
    { key_not_blank := hkey
      authorization := ⟨_, hauthorization⟩
      url := ⟨_, n, htext, hlast, hurl⟩
      model_not_blank := hvalid.model
      body_model := by
        rw [hbody]
        rfl
      body_messages := by
        rw [hbody]
        refine ⟨rest.map messageToWire, ?_⟩
        have hwire : (queryToWire s.model.model query).get? "messages" =
          some (.arr (query.messages.map messageToWire)) := rfl
        rw [hmessages] at hwire
        exact hwire
      body_temperature := by
        have hwire : (queryToWire s.model.model query).get? "temperature" =
          some (.ofFloat query.temperature) := rfl
        rw [hasks.temperature, Json.ofFloat, if_pos hfinite] at hwire
        rw [hbody]
        exact hwire
      finite := hfinite
      least := hleast
      greatest := hgreatest
      poet := by
        rintro rfl
        exact least_poetTemperature s.model.temperature
      others := by
        intro hrole
        cases role with
        | poet => exact absurd rfl hrole
        | math | narrator | transcriber | controller => rfl }

end Endpoint

/-! ### Where nothing is sent -/

namespace Settings

variable {host : Host} {path : Option String} {s : Settings}

/-- What keeps a run from starting: a temperature in the environment that is no number, a value that
    is not valid, from whatever source it comes, or no credential. -/
inductive Unready (host : Host) (path : Option String) : Prop
  | temperature {raw : String} (hgiven : host.environment temperatureVariable = some raw)
      (hraw : Decimal.read? (Text.trim raw) = none)
  | invalid {table : Toml.Table} {s : Settings} (htable : table? host path = some table)
      (hresolved : s.Resolved host table) (hvalid : ¬ s.Valid)
  | credential (hnone : host.credential? = none)

/-- Either nothing is loaded, or there is no credential. -/
theorem Unready.key_eq_none (h : Unready host path) (hload : load host path = .ok s) :
    s.model.key = none := by
  obtain ⟨table, htable, -, hresolved, hvalid⟩ := load_eq_ok_iff.mp hload
  cases h with
  | temperature hgiven hraw =>
    rw [hresolved.temperature_given _ hgiven] at hraw
    cases hraw
  | invalid htable' hresolved' hvalid' =>
    obtain rfl := Option.some.inj (htable.symm.trans htable')
    rw [hresolved.unique hresolved'] at hvalid
    exact absurd hvalid hvalid'
  | credential hnone => rw [hresolved.key, hnone]

end Settings

open Endpoint (HttpRequest Transport)

namespace CommandLine

variable {σ : Type} {t : Transport σ} {host : Host} {i : Invocation} {s : Settings}

/-- Why a command fails that sends nothing: the settings are not as they have to be.  If they are
    loaded, an image to transcribe that cannot be read is found out before a missing credential. -/
inductive FailsEarly (host : Host) (i : Invocation) : CommandError → Prop
  | configuration (detail : String) : FailsEarly host i (.turn (.configuration detail))
  | attachment {s : Settings} {prompt session user path : String} {images : List String}
      {fault : FileFault} (hload : Settings.load host i.config = .ok s)
      (hcommand : i.command = .transcribe prompt session user images)
      (hattachments : host.attachments images = .error (path, fault)) :
      FailsEarly host i (.attachment path fault)

/-- A command fails early if no settings are loaded. -/
theorem carryOut_of_load_error (hi : ∀ expression, i.command ≠ .eval expression)
    {e : SettingsError} (h : Settings.load host i.config = .error e) :
    i.carryOut t host = pure (.failure (.turn e.toTurnError)) := by
  have hsettings : settings host i.config = .error (.turn e.toTurnError) := by
    rw [settings, h]
    rfl
  unfold Invocation.carryOut
  cases hcommand : i.command with
  | eval expression => exact absurd hcommand (hi expression)
  | run prompt session user kind | transcribe prompt session user images => rw [hsettings]

/-- A command fails early if there is no credential among the settings. -/
theorem carryOut_of_key_eq_none (hi : ∀ expression, i.command ≠ .eval expression)
    (hload : Settings.load host i.config = .ok s) (hkey : s.model.key = none) :
    ∃ e, i.carryOut t host = pure (.failure e) ∧ FailsEarly host i e := by
  have hsettings := settings_of_load hload
  have hendpoint : endpoint s = .error (.turn SettingsError.missingKey.toTurnError) := by
    rw [endpoint_eq, hkey]
  unfold Invocation.carryOut
  cases hcommand : i.command with
  | eval expression => exact absurd hcommand (hi expression)
  | run prompt session user kind =>
    refine ⟨_, ?_, .configuration SettingsError.missingKey.message⟩
    dsimp only
    rw [hsettings]
    unfold runPrompt
    dsimp only
    rw [hendpoint]
    rfl
  | transcribe prompt session user images =>
    dsimp only
    rw [hsettings]
    unfold transcribe
    cases hattachments : host.attachments images with
    | error missing => exact ⟨_, rfl, .attachment hload hcommand hattachments⟩
    | ok attachments =>
      refine ⟨_, ?_, .configuration SettingsError.missingKey.message⟩
      dsimp only
      rw [hendpoint]
      rfl

/-- Where a run cannot start, every command fails early. -/
theorem carryOut_of_unready (hi : ∀ expression, i.command ≠ .eval expression)
    (h : Settings.Unready host i.config) :
    ∃ e, i.carryOut t host = pure (.failure e) ∧ FailsEarly host i e := by
  cases hload : Settings.load host i.config with
  | error e => exact ⟨_, carryOut_of_load_error hi hload, .configuration e.message⟩
  | ok s => exact carryOut_of_key_eq_none hi hload (h.key_eq_none hload)

/-! ### What is sent -/

/-- Under settings that are loaded, all requests are as they should be. -/
theorem sentUnder_of_load (hload : Settings.load host i.config = .ok s) (st : σ) :
    ∀ r ∈ (i.carryOut t.noting host (st, [])).2.2, r.SentUnder s := by
  obtain ⟨table, -, -, hresolved, hvalid⟩ := Settings.load_eq_ok_iff.mp hload
  have hsettings := settings_of_load hload
  -- the command is compared with itself, request by request
  have hself : s.Alike (fun r r' => r = r' ∧ r.SentUnder s) s :=
    { run := rfl
      temperature := rfl
      credential := Iff.rfl
      requests := by
        intro key hkey key' hkey' role query hasks
        obtain rfl := Option.some.inj (hkey.symm.trans hkey')
        have hblank : ¬ Text.isBlank key.reveal :=
          Settings.not_isBlank_of_credential? (hresolved.key.symm.trans hkey)
        cases hrequest : (Endpoint.ofSettings s key).request? query with
        | none => exact .none
        | some r =>
          have hr := Endpoint.validated_of_asks hvalid hblank hasks hrequest
          exact .some ⟨rfl, key, role, _, hkey, hr⟩ }
  have ht := (t.alike_refl (fun r r' => r = r' ∧ r.SentUnder s) fun _ _ hr => hr.1).noting
  have hcommand := alike_carryOut i rfl ht (.inr ⟨s, s, hsettings, hsettings, hself⟩)
  obtain ⟨-, -, hsent⟩ := hcommand (st, []) (st, []) ⟨rfl, .nil⟩
  intro r hr
  exact (List.forall₂_same.mp hsent r hr).2

/-- **Requests.** For every host, transport and state, and every command that lets agents work:
    settings are loaded exactly if the file can be read, every value comes from the source that
    counts, and all values are valid; with nothing in the keychain, the credential is that of the
    environment.  Every request that is sent is as the settings want it.  And if there is a
    temperature that is no number, a value that is not valid, or no credential, then nothing is sent
    and nothing printed, and the command fails. -/
theorem requests_validated (t : Transport σ) (host : Host) (i : Invocation) (st : σ)
    (hi : ∀ expression, i.command ≠ .eval expression) :
    let done := i.carryOut t.noting host (st, [])
    (∀ s, Settings.load host i.config = .ok s ↔ ∃ table,
      Settings.table? host i.config = some table ∧ (Settings.ofTable? table).isSome ∧
        s.Resolved host table ∧ s.Valid) ∧
    (host.keychain? Settings.keychainService Settings.keychainKey = none → ∀ key,
      host.credential? = some key ↔
        host.environment keyVariable = some key.reveal ∧ ¬ Text.isBlank key.reveal) ∧
    (∀ r ∈ done.2.2, ∃ s, Settings.load host i.config = .ok s ∧ r.SentUnder s) ∧
    (Settings.Unready host i.config → done.2 = (st, []) ∧ done.1.output = "" ∧
      ∃ e, done.1.error = some e ∧ FailsEarly host i e) := by
  intro done
  refine ⟨fun s => Settings.load_eq_ok_iff,
    fun hnone key => Settings.credential?_eq_some_iff hnone, ?_, ?_⟩
  · intro r hr
    cases hload : Settings.load host i.config with
    | error e =>
      have hdone : done = (.failure (.turn e.toTurnError), st, []) :=
        congrFun (carryOut_of_load_error hi hload) (st, [])
      rw [hdone] at hr
      cases hr
    | ok s => exact ⟨s, rfl, sentUnder_of_load hload st r hr⟩
  · intro hunready
    obtain ⟨e, hcarried, hearly⟩ := carryOut_of_unready hi hunready
    have hdone : done = (.failure e, st, []) := congrFun hcarried (st, [])
    rw [hdone]
    exact ⟨rfl, rfl, e, rfl, hearly⟩

/-- **A temperature.** With a temperature in the environment, a run in a fixed order sends three
    requests; if it is no number, it sends none. -/
theorem requests_validated_temperature :
    let host (temperature : String) : Host :=
      { read := fun _ => .error .missing
        environment := fun name =>
          [(keyVariable, "k"), (temperatureVariable, temperature),
            (Settings.baseUrlVariable, "http://localhost/v1//")].lookup name
        home? := none }
    let body := "\x7b\"choices\":[\x7b\"message\":\x7b\"content\":\"8\"\x7d\x7d]\x7d"
    let t : Transport Unit := ⟨fun _ => pure (.ok ⟨200, Text.encode body⟩), pure "id"⟩
    let i : Invocation := ⟨false, none, .run "What is 12 / 3 + 4?" "s" "u" none⟩
    let done := i.carryOut t.noting (host "0.5") ((), [])
    let done' := i.carryOut t.noting (host "warm") ((), [])
    done.2.2.length = 3 ∧
      (∀ r ∈ done.2.2, ∃ s, Settings.load (host "0.5") none = .ok s ∧ r.SentUnder s) ∧
      done'.2.2 = [] ∧ done'.1.output = "" := by
  intro host body t i done done'
  have hi : ∀ expression, i.command ≠ .eval expression := nofun
  obtain ⟨-, -, hvalidated, -⟩ := requests_validated t (host "0.5") i () hi
  obtain ⟨-, -, -, hunready⟩ := requests_validated t (host "warm") i () hi
  have hwarm : Settings.Unready (host "warm") i.config :=
    @Settings.Unready.temperature _ _ "warm" rfl (by decide)
  obtain ⟨hstate, houtput, -⟩ := hunready hwarm
  refine ⟨by decide +kernel, hvalidated, ?_, houtput⟩
  exact congrArg Prod.snd hstate

end CommandLine

end MathAgents
