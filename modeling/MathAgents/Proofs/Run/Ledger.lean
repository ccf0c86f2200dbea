import MathAgents.Proofs.Run.Watching

namespace MathAgents

/-!
# The audit trail loses and invents nothing

Every invocation of an agent in a run, of either kind and on any script, is found in the audit
trail, in the order in which the agents finished, with what came of it and with the digest of what
the agent was given.  What the agents do is read off their own notes (`Agent.watched`), so nothing
depends on who makes the entries.

* `Invocation.entry`, `Invocation.contribution?` — what a trail and a report say of an invocation;
  `AgentError.Aborts` — what is said of the run that it fails.
* `Progress.Accounts` — the progress of a run accounts for the notes of its agents.
* `Progress.Accounts.invoke` — an invocation keeps the account.
* `Ending.Accounts` — how a run that accounts for its agents ends; `DelegatingCrew.Ends.accounts`
  and `SequentialCrew.accounts_runFrom` find it for both kinds of runs.
* `Crew.audit_complete` — the trail, the report and the log of every run.
-/

/-- What an agent with a role contributes to a report: the text that it replies with, if it is not
    the controller. -/
def Role.contribution? : Role → Except AgentError Output → Option StageOutput
  | .controller, _ => none
  | role, .ok (.reply text) => some ⟨role.agentName, text⟩
  | _, _ => none

theorem Role.contribution?_error (role : Role) (e : AgentError) :
    role.contribution? (.error e) = none := by
  cases role <;> rfl

theorem Role.contribution?_reply {role : Role} (hrole : role ≠ .controller) (text : String) :
    role.contribution? (.ok (.reply text)) = some ⟨role.agentName, text⟩ := by
  cases role with
  | controller => exact absurd rfl hrole
  | math | poet | narrator | transcriber => rfl

namespace Invocation

/-- What an invocation produced, as the audit trail records it: an output under its own name, the
    payload of a failed tool as it is, and any other failure by its message. -/
def value (x : Invocation) : Json :=
  let failed (message : String) : Json :=
    .obj [("error", .obj [("kind", .str "CapabilityInvocationError"), ("message", .str message)])]
  match x.outcome with
  | .ok (.reply text) => .obj [("reply", .str text)]
  | .ok (.toolCall r) =>
    .obj [("tool_call",
      .obj [("arguments", (Json.obj r.arguments).canonical), ("name", .str r.name)])]
  | .ok (.delegate note) => .obj [("delegate", .str note)]
  | .error (.toolFailure payload) => payload
  | .error (.invocation cause) => failed cause.message
  | .error (.iterationLimit calls) => failed s!"No final answer after {calls} model calls"

/-- The entry of an audit trail about the invocation behind `i` others: its number, who worked, the
    digest of what it was given, what it produced, and whether it succeeded. -/
def entry (i : Nat) (x : Invocation) : AuditEntry where
  number := i + 1
  agent := x.role.agentName
  snapshot := Digest.hex (Digest.blake3 (Text.encode x.context.serialize))
  output := x.value
  success := x.outcome.isOk

/-- A trail of entries about invocations is as long as they are many. -/
theorem length_of_entries {trail : AuditTrail} {done : List Invocation}
    (h : trail = done.mapIdx entry) : trail.length = done.length := by
  rw [h, List.length_mapIdx]

/-- What a report says of an invocation. -/
def contribution? (x : Invocation) : Option StageOutput := x.role.contribution? x.outcome

/-- The entry of an invocation is the one that is made for it behind the entries of others. -/
theorem entry_eq {σ : Type} {role : Role} (t : AuditTrail) {agent : Agent σ}
    (hname : agent.name = role.agentName) (c : Context) (outcome : Except AgentError Output)
    (talk : Consultations) :
    entry t.length ⟨role, c, outcome, talk⟩ = t.entryOf agent c outcome := by
  -- one case for each form of what was produced, as `value` tells them apart
  cases outcome with
  | ok output => cases output <;> simp only [entry, AuditTrail.entryOf, hname] <;> rfl
  | error e => cases e <;> simp only [entry, AuditTrail.entryOf, hname] <;> rfl

end Invocation

/-- How the failure of an agent ends a run: the error of the turn, and what is said of it. -/
inductive AgentError.Aborts (agent : String) : AgentError → TurnError → String → Prop
  | invocation (cause : Chat.ProviderError) :
      Aborts agent (.invocation cause) (.invocation agent cause.message)
        s!"Capability '{agent}' invocation failed: {cause.message}"
  | toolFailure (payload : Json) :
      Aborts agent (.toolFailure payload) (.stageFailed agent payload.print)
        s!"Stage '{agent}' failed: {payload.print}"
  | iterationLimit (calls : Nat) :
      Aborts agent (.iterationLimit calls)
        (.stageFailed agent s!"No final answer after {calls} model calls")
        (s!"Stage '{agent}' failed: " ++ s!"No final answer after {calls} model calls")

theorem AgentError.aborts_toTurnError (agent : String) (cause : AgentError) :
    cause.Aborts agent (cause.toTurnError agent) (cause.toTurnError agent).message := by
  cases cause with
  | invocation cause => exact .invocation cause
  | toolFailure payload => exact .toolFailure payload
  | iterationLimit calls => exact .iterationLimit calls

/-- The agents of a run on a script, watched. -/
abbrev Script.watched (script : Script) (settings : Role → CrewSettings) (role : Role) :
    Agent (Consultations × List Invocation) :=
  (script.agent (settings role) role).watched

theorem Script.watched_name {role : Role} (hrole : role ≠ .transcriber) (script : Script)
    (settings : Role → CrewSettings) : (script.watched settings role).name = role.agentName :=
  congrArg Role.agentName (Script.agent_role hrole script (settings role))

/-- An invocation is noted behind those before it. -/
theorem Script.watched_notes {role : Role} (hrole : role ≠ .transcriber) (script : Script)
    {settings : Role → CrewSettings} {c : Context} {s s' : Consultations × List Invocation}
    {outcome : Except AgentError Output}
    (hi : (script.watched settings role).invoke c s = (outcome, s')) :
    ∃ talk, s'.2 = s.2 ++ [⟨role, c, outcome, talk⟩] := by
  obtain ⟨talk, outcome, -, hinvoke⟩ :=
    script.watched_invoke (settings role) hrole c s.1 s.2
  obtain ⟨rfl, rfl⟩ := Prod.mk.inj (hinvoke.symm.trans hi)
  exact ⟨talk, rfl⟩

/-- All but the controller reply with a text if they succeed. -/
theorem Script.watched_reply {role : Role} (hrole : role ≠ .transcriber)
    (hcontroller : role ≠ .controller) (script : Script) {settings : Role → CrewSettings}
    {c : Context} {s s' : Consultations × List Invocation} {output : Output}
    (hi : (script.watched settings role).invoke c s = (.ok output, s')) :
    ∃ text, output = .reply text := by
  obtain ⟨talk, outcome, hconverses, hinvoke⟩ :=
    script.watched_invoke (settings role) hrole c s.1 s.2
  obtain ⟨rfl, -⟩ := Prod.mk.inj (hinvoke.symm.trans hi)
  exact hconverses.reply hcontroller

/-! ### Accounts -/

/-- Whether the progress of a run accounts for what has been asked and for the notes of its agents:
    the trail has an entry for each of them, the outputs are what they contribute, and their
    conversations are all that has been asked. -/
structure Progress.Accounts (settings : Role → CrewSettings) (p : Progress)
    (s : Consultations × List Invocation) : Prop where
  audit_eq : p.audit = s.2.mapIdx Invocation.entry
  outputs_eq : p.outputs = s.2.filterMap Invocation.contribution?
  asked_eq : s.1 = s.2.flatMap (·.talk)
  converses : ∀ x ∈ s.2, Agent.Converses (settings x.role) x.role x.context x.talk x.outcome

/-- How a run ends that accounts for its agents.  A report tells what was gathered; a failure is the
    failure of the agent that worked last, or the end of the rounds, and the last that is logged is
    the whole trail. -/
structure Ending.Accounts (settings : Role → CrewSettings) (ending : Ending)
    (s : Consultations × List Invocation) (limit : TurnError → Prop) : Prop where
  progress : ending.progress.Accounts settings s
  reported : ∀ report, ending.outcome = .ok report →
    report.audit = ending.progress.audit ∧ report.outputs = ending.progress.outputs
  logged : ∀ e, ending.outcome = .error e →
    ∃ lines, ending.log = lines ++ ending.progress.audit.abortLines e
  failed : ∀ e, ending.outcome = .error e →
    (∃ front x cause, s.2 = front ++ [x] ∧ x.outcome = .error cause ∧
      e = cause.toTurnError x.role.agentName) ∨ limit e

section

variable {settings : Role → CrewSettings} {script : Script} {role : Role} {p q : Progress}
  {c : Context} {s s' : Consultations × List Invocation} {outcome : Except AgentError Output}
  {limit : TurnError → Prop}

/-- A run starts with nothing to account for. -/
theorem Progress.accounts_start (settings : Role → CrewSettings) (context : Context) :
    Accounts settings { context } ([], []) :=
  ⟨rfl, rfl, rfl, by simp⟩

/-- What adds nothing to the trail and to the outputs keeps the account. -/
theorem Progress.Accounts.keep (h : p.Accounts settings s) (haudit : q.audit = p.audit)
    (houtputs : q.outputs = p.outputs) : q.Accounts settings s :=
  ⟨haudit.trans h.audit_eq, houtputs.trans h.outputs_eq, h.asked_eq, h.converses⟩

/-- **Invocations.** An invocation that is entered into the trail keeps the account, if the outputs
    get what it contributes. -/
theorem Progress.Accounts.invoke (h : p.Accounts settings s) (hrole : role ≠ .transcriber)
    (hi : (script.watched settings role).invoke c s = (outcome, s'))
    (haudit : q.audit = (p.recorded (script.watched settings role) c outcome).audit)
    (houtputs : q.outputs = p.outputs ++ (role.contribution? outcome).toList) :
    q.Accounts settings s' := by
  obtain ⟨log, notes⟩ := s
  obtain ⟨talk, outcome, hconverses, hinvoke⟩ :=
    script.watched_invoke (settings role) hrole c log notes
  obtain ⟨rfl, rfl⟩ := Prod.mk.inj (hinvoke.symm.trans hi)
  refine ⟨?_, ?_, ?_, ?_⟩
  -- there were as many entries as notes, so the next entry has the number of the next note
  · have hlength : p.audit.length = notes.length := Invocation.length_of_entries h.audit_eq
    have hentry := Invocation.entry_eq p.audit (Script.watched_name hrole script settings) c outcome
      talk
    rw [haudit, List.mapIdx_concat, ← hlength, hentry, ← h.audit_eq]
    rfl
  · rw [houtputs, h.outputs_eq, List.filterMap_append]
    cases hcontribution : role.contribution? outcome <;>
      simp [Invocation.contribution?, hcontribution]
  · rw [List.flatMap_append, ← h.asked_eq, List.flatMap_singleton]
  · intro x hx
    rcases List.mem_append.mp hx with hx | hx
    · exact h.converses x hx
    · obtain rfl := List.mem_singleton.mp hx
      exact hconverses

/-- An invocation without a contribution only adds its entry. -/
theorem Progress.Accounts.record (h : p.Accounts settings s) (hrole : role ≠ .transcriber)
    (hi : (script.watched settings role).invoke c s = (outcome, s'))
    (hcontribution : role.contribution? outcome = none) :
    (p.recorded (script.watched settings role) c outcome).Accounts settings s' := by
  refine h.invoke hrole hi rfl ?_
  rw [hcontribution]
  exact (List.append_nil _).symm

/-- An agent that succeeds adds its text as well, unless it is the controller. -/
theorem Progress.Accounts.contribute {output : Output} (h : p.Accounts settings s)
    (hrole : role ≠ .transcriber) (hcontroller : role ≠ .controller)
    (hi : (script.watched settings role).invoke c s = (.ok output, s'))
    (haudit : q.audit = (p.recorded (script.watched settings role) c (.ok output)).audit)
    (houtputs : q.outputs =
      p.outputs ++ [⟨(script.watched settings role).name, output.text⟩]) :
    q.Accounts settings s' := by
  refine h.invoke hrole hi haudit ?_
  obtain ⟨text, rfl⟩ := Script.watched_reply hrole hcontroller script hi
  rw [houtputs, Script.watched_name hrole, Role.contribution?_reply hcontroller]
  rfl

/-- A run that succeeds accounts for its agents if what it has gathered does. -/
theorem Progress.Accounts.succeed (h : p.Accounts settings s) (answer : String) :
    (p.succeed answer).Accounts settings s limit where
  progress := h
  reported := by
    rintro report hreport
    obtain rfl := Except.ok.inj hreport
    exact ⟨rfl, rfl⟩
  logged := by
    rintro e he
    cases he
  failed := by
    rintro e he
    cases he

/-- More may be allowed for as a failure without an agent. -/
theorem Ending.Accounts.weaken {ending : Ending} {other : TurnError → Prop}
    (h : ending.Accounts settings s limit) (hlimit : ∀ e, limit e → other e) :
    ending.Accounts settings s other :=
  ⟨h.progress, h.reported, h.logged, fun e he => (h.failed e he).imp_right (hlimit e)⟩

/-- A run that fails with the agent that works accounts for its agents if it did so before. -/
theorem Progress.Accounts.fail {e : AgentError} (h : p.Accounts settings s)
    (hrole : role ≠ .transcriber)
    (hi : (script.watched settings role).invoke c s = (.error e, s')) (lines : List String) :
    ((p.recorded (script.watched settings role) c (.error e)).fail lines
      (e.toTurnError (script.watched settings role).name)).Accounts settings s' limit := by
  refine ⟨h.record hrole hi (role.contribution?_error e), ?_, ?_, ?_⟩
  · rintro report hreport
    cases hreport
  · rintro cause hcause
    obtain rfl := Except.error.inj hcause
    exact ⟨lines, rfl⟩
  · rintro cause hcause
    obtain rfl := Except.error.inj hcause
    obtain ⟨talk, hnotes⟩ := Script.watched_notes hrole script hi
    refine .inl ⟨s.2, _, e, hnotes, rfl, ?_⟩
    rw [Script.watched_name hrole]

end

/-! ### Runs that the controller leads -/

namespace DelegatingCrew

variable {settings : Role → CrewSettings} {script : Script} {role : Role} {r : ToolRequest}
  {maxRounds n : Nat} {context : Context} {p p' : LedProgress} {q q' : Progress}
  {s s' : Consultations × List Invocation} {response : ToolResponse} {ok : Bool}

/-- The crew of a run on a script, with its agents watched. -/
def watched (maxRounds : Nat) (settings : Role → CrewSettings) (script : Script) :
    DelegatingCrew (Consultations × List Invocation) :=
  ⟨script.watched settings .controller, script.watched settings .math,
    script.watched settings .poet, script.watched settings .narrator, maxRounds⟩

/-- A called agent is accounted for, whether or not it is asked and succeeds. -/
theorem Called.accounts (h : Called (script.watched settings role) r q s response ok q' s')
    (htranscriber : role ≠ .transcriber) (hcontroller : role ≠ .controller)
    (hq : q.Accounts settings s) : q'.Accounts settings s' := by
  cases h with
  | unasked => exact hq
  | failed _ hi => exact hq.record htranscriber hi (role.contribution?_error _)
  | succeeded _ hi => exact hq.contribute htranscriber hcontroller hi rfl rfl

/-- **Tool calls.** Whatever a tool call comes to, it is accounted for. -/
theorem Responds.accounts
    (h : Responds (watched maxRounds settings script) r p s response p' s')
    (hp : p.toProgress.Accounts settings s) : p'.toProgress.Accounts settings s' := by
  cases h with
  | math _ hcall => exact hcall.accounts (by decide) (by decide) hp
  | poet _ _ hcall => exact hcall.accounts (by decide) (by decide) hp
  | early | transfer | misdirected | unknown => exact hp

/-- Carrying out a decision keeps the account. -/
theorem accounts_follow (hp : p.toProgress.Accounts settings s) {output : Output}
    (hf : (watched maxRounds settings script).follow output p s = (p', s')) :
    p'.toProgress.Accounts settings s' := by
  cases output with
  | toolCall r =>
    have hhandled : (watched maxRounds settings script).handleCall r p s = (p', s') := hf
    rw [handleCall_eq] at hhandled
    obtain ⟨rfl, rfl⟩ := Prod.mk.inj hhandled
    have hannounced : (announced p r).toProgress.Accounts settings s := hp.keep rfl rfl
    have hresponds := responds_respond (watched maxRounds settings script) r (announced p r) s
    exact (hresponds.accounts hannounced).keep rfl rfl
  | delegate note | reply note =>
    obtain ⟨rfl, rfl⟩ := Prod.mk.inj hf
    refine hp.keep (handOver_audit _ note p) ?_
    unfold handOver
    split <;> rfl

/-- The decision of the controller is accounted for. -/
theorem accounts_decided {output : Output} (hp : p.toProgress.Accounts settings s)
    (hi : (watched maxRounds settings script).controller.invoke p.context s = (.ok output, s')) :
    ((watched maxRounds settings script).decided p output).toProgress.Accounts settings s' := by
  have hinvoke : (script.watched settings .controller).invoke p.context s = (.ok output, s') := hi
  exact hp.record (by decide) hinvoke rfl

/-- **Rounds.** Every round of a run starts with an account of what went before. -/
theorem Reaches.accounts (h : Reaches (watched maxRounds settings script) context ([], []) n p s) :
    p.toProgress.Accounts settings s := by
  induction h with
  | start => exact Progress.accounts_start settings context
  | round _ _ hi hf _ ih => exact accounts_follow (accounts_decided ih hi) hf

/-- Every run that the controller leads ends with an account; only its rounds can fail it without
    an agent. -/
theorem Ends.accounts {ending : Ending}
    (h : Ends (watched maxRounds settings script) context ([], []) ending s) :
    ending.Accounts settings s (· = .roundsExceeded maxRounds) := by
  cases h with
  | exhausted h =>
    refine ⟨h.accounts, ?_, ?_, ?_⟩
    · rintro report hreport
      cases hreport
    · rintro e he
      obtain rfl := Except.error.inj he
      exact ⟨_, rfl⟩
    · rintro e he
      exact .inr (Except.error.inj he).symm
  | @failed n p s₁ _ e h _ hi =>
    have hinvoke : (script.watched settings .controller).invoke p.context s₁ = (.error e, s) := hi
    exact h.accounts.fail (by decide) hinvoke _
  | @narrated n p p' s₁ s' s'' output h _ hi hf =>
    have hp := accounts_follow (accounts_decided h.accounts hi) hf
    cases hn : (watched maxRounds settings script).narrator.invoke p'.context s'' with
    | mk outcome s₂ =>
      have hinvoke : (script.watched settings .narrator).invoke p'.context s'' = (outcome, s₂) := hn
      cases outcome with
      | error e =>
        rw [narrate_of_error hn]
        exact hp.fail (by decide) hinvoke []
      | ok output =>
        rw [narrate_of_ok hn]
        refine Progress.Accounts.succeed ?_ output.text
        exact hp.contribute (by decide) (by decide) hinvoke rfl rfl

end DelegatingCrew

/-! ### Runs in a fixed order -/

namespace SequentialCrew

variable {settings : Role → CrewSettings} {script : Script}

/-- Every run in a fixed order ends with an account, from every stage on; only an agent can fail
    it. -/
theorem accounts_runFrom (settings : Role → CrewSettings) (script : Script) (stage : Stage)
    (p : Progress) (s : Consultations × List Invocation) (hp : p.Accounts settings s) :
    let run := (ofAgents (script.watched settings)).runFrom stage p s
    run.1.Accounts settings run.2 fun _ => False := by
  induction stage using Stage.backward_induction generalizing p s with
  | done =>
    rw [runFrom_of_none rfl]
    exact hp.succeed _
  | step stage role hrole ih =>
    obtain ⟨hcontroller, htranscriber⟩ := Stage.role?_ne hrole
    have hagent := agent?_ofAgents (script.watched settings) hrole
    cases hi : (script.watched settings role).invoke p.context s with
    | mk outcome s' =>
      cases outcome with
      | error e =>
        rw [runFrom_of_error hagent hi]
        exact hp.fail htranscriber hi _
      | ok output =>
        rw [runFrom_of_ok hagent hi]
        exact ih _ s' (hp.contribute htranscriber hcontroller hi rfl rfl)

end SequentialCrew

/-! ### All runs -/

namespace Crew

open Agent

/-- Every run of watched agents ends with an account; only the rounds of a led run can fail it
    without an agent. -/
theorem accounts_run (kind : PipelineKind) (maxRounds : Nat) (settings : Role → CrewSettings)
    (script : Script) (context : Context) :
    let run := (assemble kind maxRounds (script.watched settings)).run context ([], [])
    run.1.Accounts settings run.2 fun e =>
      kind = .toolDriven ∧ e = .roundsExceeded maxRounds := by
  cases kind with
  | sequential =>
    exact (SequentialCrew.accounts_runFrom settings script .math { context } ([], [])
      (Progress.accounts_start settings context)).weaken (by simp)
  | toolDriven =>
    exact ((DelegatingCrew.watched maxRounds settings script).ends_run context
      ([], [])).accounts.weaken (by simp)

/-- Every run has an account: the run of its agents, watched, is the run itself but for their notes,
    which it accounts for. -/
theorem exists_accounts (kind : PipelineKind) (maxRounds : Nat) (settings : Role → CrewSettings)
    (script : Script) (context : Context) :
    let agent (role : Role) := script.agent (settings role) role
    let ending := ((assemble kind maxRounds agent).run context []).1
    let log := ((assemble kind maxRounds agent).run context []).2
    ∃ done : List Invocation,
      (assemble kind maxRounds fun role => (agent role).watched).run context ([], []) =
        (ending, log, done) ∧
      ending.Accounts settings (log, done) fun e =>
        kind = .toolDriven ∧ e = .roundsExceeded maxRounds := by
  intro agent ending log
  have hmirrors := mirrors_run (fun role => (agent role).mirrors_watched) kind maxRounds context
    ([], [])
  obtain ⟨done, hrun⟩ : ∃ done, (assemble kind maxRounds (script.watched settings)).run context
      ([], []) = (ending, log, done) :=
    ⟨_, Prod.ext (congrArg Prod.fst hmirrors).symm
      (Prod.ext (congrArg Prod.snd hmirrors).symm rfl)⟩
  have haccounts := accounts_run kind maxRounds settings script context
  rw [hrun] at haccounts
  exact ⟨done, hrun, haccounts⟩

/-- **Completeness.** In every run, of either kind and over any providers, there is a list of
    invocations, noted by the agents themselves without an effect on the run, such that the audit
    trail has one entry for each of them, in order, numbered from one, with what came of it and the
    digest of what the agent was given.  Each is a conversation of its agent on that context, and
    these conversations, one behind the other, are all that is asked of providers.  A report tells
    the trail and, in order, the texts of the agents that succeeded, the controller apart.  A run
    that fails logs at its end the number of invocations, the error, and a line for each entry of
    the trail; the error is that of the last invocation, which has failed, or the end of the
    rounds. -/
theorem audit_complete (kind : PipelineKind) (maxRounds : Nat) (settings : Role → CrewSettings)
    (script : Script) (context : Context) :
    let agent (role : Role) := script.agent (settings role) role
    let ending := ((assemble kind maxRounds agent).run context []).1
    let log := ((assemble kind maxRounds agent).run context []).2
    let audit := ending.progress.audit
    let line (x : AuditEntry) : String :=
      s!"#{x.number} {x.agent} success={x.success} snapshot={x.snapshot} output={x.output.print}"
    ∃ done : List Invocation,
      (assemble kind maxRounds fun role => (agent role).watched).run context ([], []) =
        (ending, log, done) ∧
      audit = done.mapIdx Invocation.entry ∧
      log = done.flatMap (·.talk) ∧
      (∀ x ∈ done, Converses (settings x.role) x.role x.context x.talk x.outcome) ∧
      (∀ report, ending.outcome = .ok report →
        report.audit = audit ∧ report.outputs = done.filterMap Invocation.contribution?) ∧
      ∀ e, ending.outcome = .error e → ∃ lines message,
        ending.log = lines ++
          s!"Run aborted after {done.length} invocation(s): {message}" ::
            audit.map (fun x => s!"audit {line x}") ∧
        ((∃ front x cause, done = front ++ [x] ∧ x.outcome = .error cause ∧
            cause.Aborts x.role.agentName e message) ∨
          kind = .toolDriven ∧ e = .roundsExceeded maxRounds ∧
            message = s!"Controller did not delegate within {maxRounds} rounds") := by
  intro agent ending log audit line
  obtain ⟨done, hrun, haccounts⟩ := exists_accounts kind maxRounds settings script context
  have haudit : audit = done.mapIdx Invocation.entry := haccounts.progress.audit_eq
  refine ⟨done, hrun, haudit, haccounts.progress.asked_eq, haccounts.progress.converses,
    fun report hok => ?_, fun e herror => ?_⟩
  · obtain ⟨htrail, houtputs⟩ := haccounts.reported report hok
    exact ⟨htrail, houtputs.trans haccounts.progress.outputs_eq⟩
  · obtain ⟨lines, hlines⟩ := haccounts.logged e herror
    have hlength : audit.length = done.length := Invocation.length_of_entries haudit
    refine ⟨lines, e.message, ?_, ?_⟩
    · rw [hlines, AuditTrail.abortLines, hlength]
      rfl
    · rcases haccounts.failed e herror with ⟨front, x, cause, hdone, hcause, rfl⟩ | ⟨hkind, rfl⟩
      · exact .inl ⟨front, x, cause, hdone, hcause, cause.aborts_toTurnError x.role.agentName⟩
      · exact .inr ⟨hkind, rfl, rfl⟩

/-- The context of a run. -/
def playedContext : Context := { sessionId := "s", userId := "u", request := "What is 2 + 2?" }

/-- A run in a fixed order on these answers; behind the last one its provider fails. -/
def playedRun (answers : List Answer) : Ending :=
  let agent (role : Role) := (Script.play answers).agent ⟨0, 1, 1⟩ role
  ((assemble .sequential 1 agent).run playedContext []).1

/-- Where the poet is not answered, the run logs two invocations; where all agents are, it reports
    three. -/
theorem audit_complete_played :
    let failed := playedRun [.ok (.answer "4")]
    let finished := playedRun [.ok (.answer "4"), .ok (.answer "a poem"), .ok (.answer "both")]
    let line (x : AuditEntry) : String :=
      s!"#{x.number} {x.agent} success={x.success} snapshot={x.snapshot} output={x.output.print}"
    (∃ (e : TurnError) (done : List Invocation) (lines : List String) (message : String),
      failed.outcome = .error e ∧ failed.progress.audit = done.mapIdx Invocation.entry ∧
      failed.log = lines ++ s!"Run aborted after 2 invocation(s): {message}" ::
        failed.progress.audit.map (fun x => s!"audit {line x}") ∧
      ∃ front x cause, done = front ++ [x] ∧ x.outcome = .error cause ∧
        cause.Aborts x.role.agentName e message) ∧
    ∃ (report : Report) (done : List Invocation), finished.outcome = .ok report ∧
      done.length = 3 ∧ report.audit = done.mapIdx Invocation.entry ∧
      report.outputs = done.filterMap Invocation.contribution? := by
  intro failed finished line
  constructor
  · obtain ⟨done, -, haudit, -, -, -, hlogged⟩ := audit_complete .sequential 1 (fun _ => ⟨0, 1, 1⟩)
      (Script.play [.ok (.answer "4")]) playedContext
    have hfails : ¬ failed.outcome.toOption.isSome := by decide +kernel
    have hlength : failed.progress.audit.length = 2 := by decide +kernel
    have hdone : done.length = 2 := (Invocation.length_of_entries haudit).symm.trans hlength
    cases houtcome : failed.outcome with
    | ok report => exact absurd (by rw [houtcome]; rfl) hfails
    | error e =>
      obtain ⟨lines, message, hlog, hagent | ⟨hkind, -⟩⟩ := hlogged e houtcome
      · rw [hdone] at hlog
        exact ⟨e, done, lines, message, rfl, haudit, hlog, hagent⟩
      · cases hkind
  · obtain ⟨done, -, haudit, -, -, hreported, -⟩ := audit_complete .sequential 1
      (fun _ => ⟨0, 1, 1⟩)
      (Script.play [.ok (.answer "4"), .ok (.answer "a poem"), .ok (.answer "both")]) playedContext
    have hsucceeds : finished.outcome.toOption.isSome := by decide +kernel
    have hlength : finished.progress.audit.length = 3 := by decide +kernel
    have hdone : done.length = 3 := (Invocation.length_of_entries haudit).symm.trans hlength
    obtain ⟨report, hreport⟩ := Option.isSome_iff_exists.mp hsucceeds
    have hok : finished.outcome = .ok report := toOption_eq_some_iff.mp hreport
    obtain ⟨htrail, houtputs⟩ := hreported report hok
    exact ⟨report, done, hok, hdone, htrail.trans haudit, houtputs⟩

end Crew

end MathAgents
