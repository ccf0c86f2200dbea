import MathAgents.Proofs.Run.Consultation
import MathAgents.Proofs.Run.Rounds

namespace MathAgents

/-!
# Runs in a fixed order are all or nothing

The agents of a run in a fixed order work one after the other until one of them fails.  This file
says what such a run asks, shows, audits and reports, on any script.

* `SequentialCrew.Works` — the conversations of agents that work in an order, with what they say,
  up to the first failure.
* `SequentialCrew.Account` — what a run makes of that: its outputs, events, audit and outcome.
* `SequentialCrew.exists_account` — the run from a stage on, one stage after the other.
* `SequentialCrew.all_or_nothing` — the order, the queries, the report and the failure of every run.
-/

/-- The entry that shows an output to the agents behind it. -/
def StageOutput.entry (o : StageOutput) : Entry := ⟨o.agent, o.text⟩

/-- The event that shows an output to the user. -/
def StageOutput.event (o : StageOutput) : Event := .message o.agent o.text

/-- The context with the entries that show some outputs. -/
def Context.behind (c : Context) (outputs : List StageOutput) : Context :=
  { c with entries := c.entries ++ outputs.map StageOutput.entry }

@[simp] theorem Context.behind_nil (c : Context) : c.behind [] = c := by
  simp [Context.behind]

/-- An output is shown by the entry that is pushed for it. -/
theorem Context.behind_cons (c : Context) (o : StageOutput) (outputs : List StageOutput) :
    c.behind (o :: outputs) = (c.push o.agent o.text).behind outputs := by
  simp [Context.behind, Context.push, StageOutput.entry]

/-- What an audit entry says: who worked, what came of it, and whether it was a success. -/
def AuditEntry.verdict (e : AuditEntry) : String × Json × Bool := (e.agent, e.output, e.success)

/-- What the entry of an invocation says. -/
theorem AuditTrail.entryOf_verdict {σ : Type} (t : AuditTrail) (agent : Agent σ) (c : Context)
    (outcome : Except AgentError Output) :
    (t.entryOf agent c outcome).verdict =
      match outcome with
      | .ok output => (agent.name, output.value, true)
      | .error e => (agent.name, e.payload, false) := by
  cases outcome <;> rfl

namespace Stage

/-- The role of the agent that works at a stage. -/
def role? : Stage → Option Role
  | math => some .math
  | poetry => some .poet
  | narration => some .narrator
  | done => none

/-- The roles of the agents that work from a stage on. -/
def ahead : Stage → List Role
  | math => [.math, .poet, .narrator]
  | poetry => [.poet, .narrator]
  | narration => [.narrator]
  | done => []

/-- The agent of a stage works, and then those of the stages behind it. -/
theorem ahead_eq {stage : Stage} {role : Role} (h : stage.role? = some role) :
    stage.ahead = role :: stage.next.ahead := by
  cases stage <;> simp_all [role?, ahead, next]

/-- Only these roles work at a stage. -/
theorem role?_ne {stage : Stage} {role : Role} (h : stage.role? = some role) :
    role ≠ .controller ∧ role ≠ .transcriber := by
  cases stage <;> simp_all [role?] <;> subst role <;> decide

end Stage

namespace SequentialCrew

open Agent

/-- A crew of agents over providers of their own, with settings of their own. -/
def ofProviders {σ : Type} (settings : Role → CrewSettings) (provider : Role → Chat.Provider σ) :
    SequentialCrew σ :=
  let agent (role : Role) := Crew.agentFor (settings role) (provider role) role
  ⟨agent .math, agent .poet, agent .narrator⟩

/-- The crew of a run is one of these, with the same provider for all its agents. -/
theorem build_sequential {σ : Type} (settings : CrewSettings) (provider : Chat.Provider σ) :
    Crew.build .sequential settings provider =
      .sequential (ofProviders (fun _ => settings) (fun _ => provider)) := rfl

/-- The agent of a stage is the one with its role. -/
theorem agent?_ofProviders (settings : Role → CrewSettings) (script : Script) (stage : Stage) :
    (ofProviders settings script.provider).agent? stage =
      stage.role?.map fun role => script.agent (settings role) role := by
  cases stage <;> rfl

/-! ### Stages -/

section

variable {σ : Type} {crew : SequentialCrew σ} {agent : Agent σ} {stage : Stage} {p : Progress}
  {s s' : σ}

/-- A stage lets its agent work, and the run goes on if the agent succeeds. -/
theorem runFrom_eq (crew : SequentialCrew σ) (stage : Stage) (p : Progress) (s : σ) :
    crew.runFrom stage p s =
      match crew.agent? stage with
      | none => (p.succeed (answer p), s)
      | some agent =>
        match agent.invoke p.context s with
        | (.ok output, s') =>
          crew.runFrom stage.next
            (advance (p.recorded agent p.context (.ok output)) agent.name output.text) s'
        | (.error e, s') =>
          ((p.recorded agent p.context (.error e)).fail
            [s!"Stage {agent.name} failed: {e.message}"] (e.toTurnError agent.name), s') := by
  rw [runFrom]
  cases stage with
  | math | poetry | narration =>
    simp only [agent?, bind_apply, Progress.invoke_eq]
    split
    · rename_i hi
      rw [hi]
    · rename_i hi
      rw [hi]
      rfl
  | done => rfl

/-- Behind the last stage the run succeeds. -/
theorem runFrom_of_none (h : crew.agent? stage = none) :
    crew.runFrom stage p s = (p.succeed (answer p), s) := by
  rw [runFrom_eq, h]

/-- A stage whose agent succeeds is followed by the next one. -/
theorem runFrom_of_ok {output : Output} (h : crew.agent? stage = some agent)
    (hi : agent.invoke p.context s = (.ok output, s')) :
    crew.runFrom stage p s =
      crew.runFrom stage.next
        (advance (p.recorded agent p.context (.ok output)) agent.name output.text) s' := by
  rw [runFrom_eq, h]
  simp only [hi]

/-- A stage whose agent fails ends the run. -/
theorem runFrom_of_error {e : AgentError} (h : crew.agent? stage = some agent)
    (hi : agent.invoke p.context s = (.error e, s')) :
    crew.runFrom stage p s =
      ((p.recorded agent p.context (.error e)).fail
        [s!"Stage {agent.name} failed: {e.message}"] (e.toTurnError agent.name), s') := by
  rw [runFrom_eq, h]
  simp only [hi]

end

/-! ### What the agents do in an order -/

/-- Agents with these roles work in this order on a context: what they say until one of them fails,
    what they ask, and the failure.  Each of them is shown what those before it said. -/
inductive Works (settings : Role → CrewSettings) :
    List Role → Context → List StageOutput → Consultations → Option (Role × AgentError) → Prop
  | finished {c : Context} : Works settings [] c [] [] none
  | stopped {role : Role} {roles : List Role} {c : Context} {talk : Consultations} {e : AgentError}
      (h : Converses (settings role) role c talk (.error e)) :
      Works settings (role :: roles) c [] talk (some (role, e))
  | said {role : Role} {roles : List Role} {c : Context} {talk log : Consultations} {text : String}
      {outputs : List StageOutput} {failure : Option (Role × AgentError)}
      (h : Converses (settings role) role c talk (.ok (.reply text)))
      (rest : Works settings roles (c.push role.agentName text) outputs log failure) :
      Works settings (role :: roles) c (⟨role.agentName, text⟩ :: outputs) (talk ++ log) failure

variable {settings : Role → CrewSettings} {roles before after : List Role} {role : Role}
  {c : Context} {outputs : List StageOutput} {log : Consultations}
  {failure : Option (Role × AgentError)} {e : AgentError}

/-- The agents that say something are the first ones. -/
theorem Works.agents (h : Works settings roles c outputs log failure) :
    outputs.map (·.agent) = (roles.take outputs.length).map Role.agentName := by
  induction h with
  | finished | stopped => rfl
  | said _ _ ih => simp [ih]

/-- The agent that fails is the one behind those that say something. -/
theorem Works.split_of_some (h : Works settings roles c outputs log (some (role, e))) :
    ∃ after, roles = roles.take outputs.length ++ role :: after := by
  generalize hsome : some (role, e) = failure at h
  induction h with
  | finished => cases hsome
  | stopped =>
    obtain ⟨rfl, -⟩ := Prod.mk.inj (Option.some.inj hsome)
    exact ⟨_, rfl⟩
  | said _ _ ih =>
    obtain ⟨after, hroles⟩ := ih hsome
    exact ⟨after, by simpa using hroles⟩

/-- An agent that does not work asks nothing. -/
theorem Works.of_eq_nil (h : Works settings roles c outputs log failure) (hrole : role ∉ roles) :
    log.of role = [] := by
  induction h with
  | finished => rfl
  | stopped h => exact h.of_ne (List.ne_of_not_mem_cons hrole)
  | said h _ ih =>
    rw [Consultations.of_append, h.of_ne (List.ne_of_not_mem_cons hrole),
      ih (List.not_mem_of_not_mem_cons hrole), List.append_nil]

/-- The agents ask one after the other. -/
theorem Works.log_eq (h : Works settings roles c outputs log failure) (hnodup : roles.Nodup) :
    log = roles.flatMap fun role => log.of role := by
  induction h with
  | finished => rfl
  | @stopped first roles c talk e h =>
    have hothers : roles.flatMap (fun role => talk.of role) = [] := by
      rw [List.flatMap_eq_nil_iff]
      intro role hrole
      exact h.of_ne fun heq => (List.nodup_cons.mp hnodup).1 (heq ▸ hrole)
    rw [List.flatMap_cons, h.of_self, hothers, List.append_nil]
  | @said first roles c talk log text outputs failure h rest ih =>
    obtain ⟨hfirst, hroles⟩ := List.nodup_cons.mp hnodup
    have hothers : roles.flatMap (fun role => (talk ++ log).of role) =
        roles.flatMap fun role => log.of role := by
      rw [List.flatMap_def, List.flatMap_def]
      refine congrArg List.flatten (List.map_congr_left fun role hrole => ?_)
      rw [Consultations.of_append, h.of_ne fun heq => hfirst (heq ▸ hrole), List.nil_append]
    rw [List.flatMap_cons, hothers, Consultations.of_append, h.of_self, rest.of_eq_nil hfirst,
      List.append_nil, ← ih hroles]

/-- What comes of an agent in an order: it says something, it fails, or it is not reached. -/
inductive Fares (settings : Role → CrewSettings) (before : List Role) (role : Role) (c : Context)
    (outputs : List StageOutput) (failure : Option (Role × AgentError)) (talk : Consultations) :
    Prop
  | said {text : String} (houtput : outputs[before.length]? = some ⟨role.agentName, text⟩)
      (h : Converses (settings role) role (c.behind (outputs.take before.length)) talk
        (.ok (.reply text)))
  | failed {e : AgentError} (hlength : outputs.length = before.length)
      (hfailure : failure = some (role, e))
      (h : Converses (settings role) role (c.behind outputs) talk (.error e))
  | spared (hlength : outputs.length < before.length) (htalk : talk = [])

/-- Every agent in an order fares in one of these ways. -/
theorem Works.fares (h : Works settings (before ++ role :: after) c outputs log failure)
    (hnodup : (before ++ role :: after).Nodup) :
    Fares settings before role c outputs failure (log.of role) := by
  -- by induction on the agents in front, the first of which says something or ends it all
  induction before generalizing c outputs log with
  | nil =>
    have hrole : role ∉ after := (List.nodup_cons.mp hnodup).1
    cases h with
    | stopped h =>
      rw [h.of_self]
      exact .failed rfl rfl (by simpa using h)
    | said h rest =>
      rw [Consultations.of_append, h.of_self, rest.of_eq_nil hrole, List.append_nil]
      exact .said rfl (by simpa using h)
  | cons first before ih =>
    have hne : role ≠ first := by
      rintro rfl
      exact (List.nodup_cons.mp hnodup).1 (by simp)
    cases h with
    | stopped h =>
      rw [h.of_ne hne]
      exact .spared (by simp) rfl
    | said h rest =>
      rw [Consultations.of_append, h.of_ne hne, List.nil_append]
      cases ih rest (List.nodup_cons.mp hnodup).2 with
      | said houtput h =>
        exact .said (by simpa using houtput) (by simpa [Context.behind_cons] using h)
      | failed hlength hfailure h =>
        exact .failed (by simpa using hlength) hfailure (by simpa [Context.behind_cons] using h)
      | spared hlength htalk => exact .spared (by simpa using hlength) htalk

/-! ### What the run makes of it -/

/-- What the audit trail says about the agents that worked. -/
def verdicts (outputs : List StageOutput) (failure : Option (Role × AgentError)) :
    List (String × Json × Bool) :=
  outputs.map (fun o => (o.agent, (Output.reply o.text).value, true)) ++
    failure.toList.map fun (role, e) => (role.agentName, e.payload, false)

/-- How a run comes out that has gathered this when it ends. -/
def outcomeOf (p : Progress) : Option (Role × AgentError) → Except TurnError Report
  | none => .ok ⟨p.outputs, p.events, p.audit, answer p⟩
  | some (role, e) => .error (e.toTurnError role.agentName)

/-- What a run makes of what its agents do: how it ends, where it had gathered `p` before. -/
structure Account (settings : Role → CrewSettings) (roles : List Role) (p : Progress)
    (outputs : List StageOutput) (failure : Option (Role × AgentError)) (log : Consultations)
    (ending : Ending) : Prop where
  works : Works settings roles p.context outputs log failure
  outputs_eq : ending.progress.outputs = p.outputs ++ outputs
  events_eq : ending.progress.events = p.events ++ outputs.map StageOutput.event
  audit_eq : ending.progress.audit.map AuditEntry.verdict =
    p.audit.map AuditEntry.verdict ++ verdicts outputs failure
  outcome_eq : ending.outcome = outcomeOf ending.progress failure

/-- Whether a run on a script, from a stage on, has an account whatever went before. -/
def Accountable (settings : Role → CrewSettings) (script : Script) (stage : Stage) : Prop :=
  ∀ (p : Progress) (log : Consultations), ∃ outputs failure talk ending,
    Account settings stage.ahead p outputs failure talk ending ∧ script.Gives log talk ∧
      (ofProviders settings script.provider).runFrom stage p log = (ending, log ++ talk)

variable {script : Script}

/-- Behind the last stage there is nothing to account for. -/
theorem accountable_done (settings : Role → CrewSettings) (script : Script) :
    Accountable settings script .done := by
  intro p log
  refine ⟨[], none, [], p.succeed (answer p), ⟨.finished, ?_, ?_, ?_, rfl⟩, trivial, ?_⟩
  · simp [Progress.succeed]
  · simp [Progress.succeed]
  · simp [Progress.succeed, verdicts]
  · rw [List.append_nil]
    exact runFrom_of_none rfl

/-- **Stages.** A stage is accounted for if the stages behind it are. -/
theorem accountable_of_next {stage : Stage} (hrole : stage.role? = some role)
    (ih : Accountable settings script stage.next) : Accountable settings script stage := by
  intro p log
  have hagent : (ofProviders settings script.provider).agent? stage =
      some (script.agent (settings role) role) := by
    rw [agent?_ofProviders, hrole]
    rfl
  have hname : (script.agent (settings role) role).name = role.agentName := by
    cases stage <;> simp [Stage.role?] at hrole <;> subst role <;> rfl
  obtain ⟨hcontroller, htranscriber⟩ := Stage.role?_ne hrole
  obtain ⟨talk, outcome, hconverses, hgives, hinvoke⟩ :=
    script.exists_converses (settings role) htranscriber p.context log
  cases outcome with
  | error e =>
    refine ⟨[], some (role, e), talk, _, ⟨?_, ?_, ?_, ?_, ?_⟩, hgives,
      runFrom_of_error hagent hinvoke⟩
    · rw [Stage.ahead_eq hrole]
      exact .stopped hconverses
    · simp [Progress.fail, Progress.recorded]
    · simp [Progress.fail, Progress.recorded]
    · simp [Progress.fail, Progress.recorded, AuditTrail.entryOf_verdict, verdicts, hname]
    · simp [Progress.fail, hname, outcomeOf]
  | ok output =>
    obtain ⟨text, rfl⟩ := hconverses.reply hcontroller
    obtain ⟨outputs, failure, rest, ending, haccount, hrest, hrun⟩ :=
      ih (advance (p.recorded (script.agent (settings role) role) p.context (.ok (.reply text)))
        role.agentName text) (log ++ talk)
    refine ⟨⟨role.agentName, text⟩ :: outputs, failure, talk ++ rest, ending, ⟨?_, ?_, ?_, ?_, ?_⟩,
      Script.gives_append.mpr ⟨hgives, hrest⟩, ?_⟩
    · rw [Stage.ahead_eq hrole]
      exact .said hconverses haccount.works
    · rw [haccount.outputs_eq]
      simp [advance, Progress.contribute, Progress.tell, Progress.emit, Progress.recorded]
    · rw [haccount.events_eq]
      simp [advance, Progress.contribute, Progress.tell, Progress.emit, Progress.recorded,
        StageOutput.event]
    · rw [haccount.audit_eq]
      simp [advance, Progress.contribute, Progress.tell, Progress.emit, Progress.recorded,
        AuditTrail.entryOf_verdict, verdicts, hname]
    · exact haccount.outcome_eq
    · rw [runFrom_of_ok hagent hinvoke, hname, ← List.append_assoc]
      exact hrun

/-- **Runs.** Every run on a script has an account. -/
theorem exists_account (settings : Role → CrewSettings) (script : Script) (context : Context) :
    ∃ outputs failure,
      Account settings Stage.math.ahead { context } outputs failure
        ((ofProviders settings script.provider).run context []).2
        ((ofProviders settings script.provider).run context []).1 ∧
      script.Gives [] ((ofProviders settings script.provider).run context []).2 := by
  have hnarration : Accountable settings script .narration :=
    accountable_of_next rfl (accountable_done settings script)
  have hpoetry : Accountable settings script .poetry := accountable_of_next rfl hnarration
  have hmath : Accountable settings script .math := accountable_of_next rfl hpoetry
  obtain ⟨outputs, failure, talk, ending, haccount, hgives, hrun⟩ := hmath { context } []
  refine ⟨outputs, failure, ?_⟩
  rw [run, hrun]
  exact ⟨haccount, hgives⟩

/-! ### All or nothing -/

/-- The agents in the audit trail are the first ones of the order. -/
theorem Works.verdicts_isPrefix (h : Works settings roles c outputs log failure) :
    (verdicts outputs failure).map Prod.fst <+: roles.map Role.agentName := by
  cases failure with
  | none =>
    have hagents : (verdicts outputs none).map Prod.fst = outputs.map (·.agent) := by
      simp [verdicts, Function.comp_def]
    rw [hagents, h.agents]
    exact (List.take_prefix _ _).map _
  | some failure =>
    obtain ⟨role, e⟩ := failure
    obtain ⟨after, hroles⟩ := h.split_of_some
    have hagents : (verdicts outputs (some (role, e))).map Prod.fst =
        outputs.map (·.agent) ++ [role.agentName] := by
      simp [verdicts, Function.comp_def]
    have hmap : roles.map Role.agentName =
        (roles.take outputs.length).map Role.agentName ++ role.agentName ::
          after.map Role.agentName := by
      simpa using congrArg (List.map Role.agentName) hroles
    refine ⟨after.map Role.agentName, ?_⟩
    rw [hagents, h.agents, hmap, List.append_assoc, List.singleton_append]

/-- All that the audit trail says but the last is of successes. -/
theorem success_of_mem_dropLast_verdicts {v : String × Json × Bool}
    (hv : v ∈ (verdicts outputs failure).dropLast) : v.2.2 = true := by
  have hmem : v ∈ outputs.map fun o => (o.agent, (Output.reply o.text).value, true) := by
    cases failure with
    | none =>
      rw [verdicts, Option.toList_none, List.map_nil, List.append_nil] at hv
      exact (List.dropLast_sublist _).subset hv
    | some failure =>
      rw [verdicts, Option.toList_some, List.map_singleton, List.dropLast_concat] at hv
      exact hv
  obtain ⟨o, -, rfl⟩ := List.mem_map.mp hmem
  rfl

/-- The audit trail speaks of a failure where one has ended the run, and of no other. -/
theorem failed_mem_verdicts {agent : String} {value : Json} :
    (agent, value, false) ∈ verdicts outputs failure ↔
      ∃ role e, failure = some (role, e) ∧ agent = role.agentName ∧ value = e.payload := by
  cases failure with
  | none => simp [verdicts]
  | some failure =>
    obtain ⟨role, e⟩ := failure
    simp only [verdicts, List.mem_append, List.mem_map, Option.toList_some, List.mem_singleton]
    constructor
    · rintro (⟨o, -, ho⟩ | ⟨_, rfl, hfailed⟩)
      · cases ho
      · cases hfailed
        exact ⟨role, e, rfl, rfl, rfl⟩
    · rintro ⟨_, _, hsome, rfl, rfl⟩
      cases hsome
      exact .inr ⟨_, rfl, rfl⟩

/-- Agents behind the one that fails ask nothing. -/
theorem Works.spared (h : Works settings (before ++ role :: after) c outputs log failure)
    (hnodup : (before ++ role :: after).Nodup) (hlength : outputs.length = before.length)
    {later : Role} (hlater : later ∈ after) : log.of later = [] := by
  obtain ⟨between, behind, rfl⟩ := List.append_of_mem hlater
  have hsplit : before ++ role :: (between ++ later :: behind) =
      (before ++ role :: between) ++ later :: behind := by simp
  rw [hsplit] at h hnodup
  cases h.fares hnodup with
  | said houtput =>
    have hlt := (List.getElem?_eq_some_iff.mp houtput).1
    rw [List.length_append, hlength] at hlt
    omega
  | failed hlength' =>
    rw [List.length_append, List.length_cons] at hlength'
    omega
  | spared _ htalk => exact htalk

section

variable {context : Context} {ending : Ending} {order : List Role}

/-- The audit trail of a run says what its agents did. -/
theorem Account.verdicts_eq (h : Account settings order { context } outputs failure log ending) :
    ending.progress.audit.map AuditEntry.verdict = verdicts outputs failure := by
  simpa using h.audit_eq

/-- The outputs of a run are what its agents said. -/
theorem Account.outputs_run (h : Account settings order { context } outputs failure log ending) :
    ending.progress.outputs = outputs := by
  simpa using h.outputs_eq

/-- The audited agents are the first ones of the order. -/
theorem Account.agents_isPrefix
    (h : Account settings order { context } outputs failure log ending) :
    ending.progress.audit.agents <+: order.map Role.agentName := by
  have hagents : ending.progress.audit.agents = (verdicts outputs failure).map Prod.fst := by
    rw [← h.verdicts_eq, List.map_map]
    rfl
  rw [hagents]
  exact h.works.verdicts_isPrefix

/-- Every audit entry but perhaps the last is a success. -/
theorem Account.success_of_mem_dropLast
    (h : Account settings order { context } outputs failure log ending) {e : AuditEntry}
    (he : e ∈ ending.progress.audit.dropLast) : e.success := by
  have hmem : e.verdict ∈ (verdicts outputs failure).dropLast := by
    rw [← h.verdicts_eq, ← List.map_dropLast]
    exact List.mem_map_of_mem he
  exact success_of_mem_dropLast_verdicts hmem

/-- An agent is first asked with what those before it said in sight. -/
theorem Account.messages_head
    (h : Account settings order { context } outputs failure log ending) (hnodup : order.Nodup)
    (hroles : order = before ++ role :: after) (hrole : role ≠ .controller) {x : Consultation}
    (hx : (log.of role).head? = some x) :
    (outputs.take before.length).map (·.agent) = before.map Role.agentName ∧
      x.query.messages = (context.behind (outputs.take before.length)).messages
        role.instructions := by
  have hworks : Works settings order context outputs log failure := h.works
  have hagents := hworks.agents
  rw [hroles] at hworks hnodup
  have htake (hle : before.length ≤ outputs.length) :
      (outputs.take before.length).map (·.agent) = before.map Role.agentName := by
    rw [List.map_take, hagents, hroles, ← List.map_take, List.take_take, Nat.min_eq_left hle,
      List.take_left]
  cases hworks.fares hnodup with
  | said houtput hconverses =>
    have hlt := (List.getElem?_eq_some_iff.mp houtput).1
    exact ⟨htake (Nat.le_of_lt hlt), hconverses.messages_head hrole hx⟩
  | failed hlength _ hconverses =>
    refine ⟨htake (Nat.le_of_eq hlength.symm), ?_⟩
    rw [← hlength, List.take_length]
    exact hconverses.messages_head hrole hx
  | spared _ htalk =>
    rw [htalk] at hx
    cases hx

/-- If all audit entries are successes, nothing has failed. -/
theorem Account.failure_eq_none
    (h : Account settings order { context } outputs failure log ending)
    (hall : ∀ e ∈ ending.progress.audit, e.success) : failure = none := by
  cases failure with
  | none => rfl
  | some failure =>
    obtain ⟨role, e⟩ := failure
    have hmem : (role.agentName, e.payload, false) ∈ verdicts outputs (some (role, e)) :=
      failed_mem_verdicts.mpr ⟨role, e, rfl, rfl, rfl⟩
    rw [← h.verdicts_eq] at hmem
    obtain ⟨entry, hentry, hverdict⟩ := List.mem_map.mp hmem
    have hfalse : entry.success = false := congrArg (·.2.2) hverdict
    exact absurd (hall entry hentry) (by simp [hfalse])

/-- A failure in the audit trail is that of the agent behind those that said something, and it ends
    the run. -/
theorem Account.of_failed (h : Account settings order { context } outputs failure log ending)
    (hnodup : order.Nodup) {entry : AuditEntry} (hentry : entry ∈ ending.progress.audit)
    (hfailed : ¬ entry.success) :
    ∃ before role after error, order = before ++ role :: after ∧ entry.agent = role.agentName ∧
      entry.output = error.payload ∧
      Converses (settings role) role (context.behind outputs) (log.of role) (.error error) ∧
      (∀ later ∈ after, log.of later = []) ∧
      ending.outcome = .error (error.toTurnError role.agentName) := by
  have hmem : (entry.agent, entry.output, false) ∈ verdicts outputs failure := by
    rw [← h.verdicts_eq]
    refine List.mem_map.mpr ⟨entry, hentry, ?_⟩
    simp [AuditEntry.verdict, hfailed]
  obtain ⟨role, error, rfl, hagent, houtput⟩ := failed_mem_verdicts.mp hmem
  obtain ⟨after, hroles⟩ := h.works.split_of_some
  have hlength : (order.take outputs.length).length = outputs.length := by
    simpa using congrArg List.length h.works.agents.symm
  have hworks := h.works
  rw [hroles] at hworks
  have hnodup' := hroles ▸ hnodup
  refine ⟨_, role, after, error, hroles, hagent, houtput, ?_, ?_, h.outcome_eq⟩
  · cases hworks.fares hnodup' with
    | said hsaid =>
      have hlt := (List.getElem?_eq_some_iff.mp hsaid).1
      omega
    | failed _ hfailure hconverses =>
      cases hfailure
      exact hconverses
    | spared hlt => omega
  · intro later hlater
    exact hworks.spared hnodup' hlength.symm hlater

end

/-- If all three agents say something, the report holds it, as outputs and as events, and the
    answer is what the narrator said. -/
theorem Account.report_of_finished {context : Context} {ending : Ending}
    (h : Account settings Stage.math.ahead { context } outputs none log ending) :
    ∃ math poem answer,
      Converses (settings .math) .math context (log.of .math) (.ok (.reply math)) ∧
      Converses (settings .poet) .poet (context.push Role.math.agentName math) (log.of .poet)
        (.ok (.reply poem)) ∧
      Converses (settings .narrator) .narrator
        ((context.push Role.math.agentName math).push Role.poet.agentName poem)
        (log.of .narrator) (.ok (.reply answer)) ∧
      ending.progress.audit.map AuditEntry.verdict =
        [(Role.math.agentName, (Output.reply math).value, true),
          (Role.poet.agentName, (Output.reply poem).value, true),
          (Role.narrator.agentName, (Output.reply answer).value, true)] ∧
      ending.outcome = .ok
        { outputs := [⟨Role.math.agentName, math⟩, ⟨Role.poet.agentName, poem⟩,
            ⟨Role.narrator.agentName, answer⟩]
          events := [.message Role.math.agentName math, .message Role.poet.agentName poem,
            .message Role.narrator.agentName answer]
          audit := ending.progress.audit
          finalResponse := answer } := by
  have hevents : ending.progress.events = outputs.map StageOutput.event := by
    simpa using h.events_eq
  have houtputs := h.outputs_run
  have houtcome := h.outcome_eq
  cases h.works with
  | @said _ _ _ mathTalk _ math _ _ hmath rest =>
    cases rest with
    | @said _ _ _ poetTalk _ poem _ _ hpoet rest =>
      cases rest with
      | @said _ _ _ narratorTalk _ answer _ _ hnarrator rest =>
        cases rest
        refine ⟨math, poem, answer, ?_, ?_, ?_, h.verdicts_eq, ?_⟩
        · simpa [hmath.of_self, hpoet.of_ne, hnarrator.of_ne] using hmath
        · simpa [hmath.of_ne, hpoet.of_self, hnarrator.of_ne] using hpoet
        · simpa [hmath.of_ne, hpoet.of_ne, hnarrator.of_self] using hnarrator
        · rw [houtcome, outcomeOf, SequentialCrew.answer, houtputs, hevents]
          rfl

end SequentialCrew

end MathAgents
