import MathAgents.Proofs.Run.FixedOrder
import MathAgents.Proofs.Run.Rounds

namespace MathAgents

/-!
# Watching a run

What a run says about its agents is judged by what the agents themselves see.  A *watched* agent
does what the agent does, and notes every invocation of it: what it was given, what came of it, and
what it asked its provider.  Notes are made whoever invokes the agent, and nothing in a run can read
them.

* `Invocation`, `Agent.watched` — the notes, and an agent that makes them.
* `Mirrors` — a step does what another step does, but for a part of the state that only the former
  sees.
* `Crew.mirrors_run` — a run of agents that mirror others mirrors the run of the others, so
  watching changes nothing.
* `Script.watched_invoke` — the note of an invocation holds its conversation with the provider.
-/

/-! ### Watched agents -/

/-- One invocation of an agent: what it was given, what came of it, and what it asked. -/
structure Invocation where
  role : Role
  context : Context
  outcome : Except AgentError Output
  talk : Consultations

/-- The agent that also notes its invocations. -/
def Agent.watched (agent : Agent Consultations) : Agent (Consultations × List Invocation) where
  role := agent.role
  invoke c := fun (log, notes) =>
    let (outcome, log') := agent.invoke c log
    (outcome, log', notes ++ [⟨agent.role, c, outcome, log'.drop log.length⟩])

/-! ### Steps that mirror others -/

section

variable {σ τ α β : Type} {view : τ → σ}

/-- Whether a step has the value of another one, and the same effect on the part of its state that
    the other one has. -/
def Mirrors (view : τ → σ) (x : StateM τ α) (y : StateM σ α) : Prop :=
  ∀ s, y (view s) = ((x s).1, view (x s).2)

theorem mirrors_pure (view : τ → σ) (a : α) : Mirrors view (pure a) (pure a) := fun _ => rfl

/-- A chain of steps mirrors a chain step by step. -/
theorem Mirrors.bind {x : StateM τ α} {y : StateM σ α} {f : α → StateM τ β} {g : α → StateM σ β}
    (hx : Mirrors view x y) (hf : ∀ a, Mirrors view (f a) (g a)) :
    Mirrors view (x >>= f) (y >>= g) := by
  intro s
  rw [bind_apply, bind_apply, hx s]
  exact hf (x s).1 (x s).2

/-- Whether an agent does what another one does, but for a part of the state that the other one does
    not see. -/
structure Agent.Mirrors (view : τ → σ) (a : Agent τ) (b : Agent σ) : Prop where
  role : a.role = b.role
  invoke : ∀ c, MathAgents.Mirrors view (a.invoke c) (b.invoke c)

theorem Agent.Mirrors.name {a : Agent τ} {b : Agent σ} (h : a.Mirrors view b) : a.name = b.name :=
  congrArg Role.agentName h.role

/-- A watched agent does what the agent does. -/
theorem Agent.mirrors_watched (agent : Agent Consultations) :
    agent.watched.Mirrors Prod.fst agent := ⟨rfl, fun _ _ => rfl⟩

end

/-! ### Runs that mirror others -/

/-- What holds behind the last stage, and of every stage if it holds of the next one, holds of all
    stages. -/
@[elab_as_elim]
theorem Stage.backward_induction {motive : Stage → Prop} (done : motive .done)
    (step : ∀ stage role, stage.role? = some role → motive stage.next → motive stage)
    (stage : Stage) : motive stage := by
  have hnarration : motive .narration := step .narration .narrator rfl done
  have hpoetry : motive .poetry := step .poetry .poet rfl hnarration
  cases stage with
  | math => exact step .math .math rfl hpoetry
  | poetry => exact hpoetry
  | narration => exact hnarration
  | done => exact done

section

variable {σ τ : Type} {view : τ → σ} {a : Agent τ} {b : Agent σ}

/-- Only the name of an agent is entered into the audit trail. -/
theorem Progress.recorded_congr (h : a.name = b.name) (p : Progress) (c : Context)
    (outcome : Except AgentError Output) : p.recorded a c outcome = p.recorded b c outcome := by
  cases outcome <;> simp [Progress.recorded, AuditTrail.entryOf, h]

/-- Both agents are entered into the audit trail in the same way. -/
theorem Progress.mirrors_invoke (h : a.Mirrors view b) (p : Progress) (c : Context) :
    Mirrors view (p.invoke a c) (p.invoke b c) := by
  unfold Progress.invoke
  refine (h.invoke c).bind fun outcome => ?_
  rw [h.name]
  exact mirrors_pure view _

namespace DelegatingCrew

/-- Whether the agents of a crew do what those of another one do. -/
structure Mirrors (view : τ → σ) (crew : DelegatingCrew τ) (other : DelegatingCrew σ) : Prop where
  controller : crew.controller.Mirrors view other.controller
  math : crew.math.Mirrors view other.math
  poet : crew.poet.Mirrors view other.poet
  narrator : crew.narrator.Mirrors view other.narrator
  maxRounds : crew.maxRounds = other.maxRounds

variable {crew : DelegatingCrew τ} {other : DelegatingCrew σ}

theorem mirrors_callAgent (h : a.Mirrors view b) (r : ToolRequest) (p : Progress) :
    MathAgents.Mirrors view (callAgent a r p) (callAgent b r p) := by
  unfold callAgent
  cases r.argument Agent.requestArgument with
  | error e => exact mirrors_pure view _
  | ok request =>
    refine (Progress.mirrors_invoke h p (p.context.forTool request)).bind ?_
    rintro ⟨outcome, q⟩
    cases outcome with
    | error e => exact mirrors_pure view _
    | ok output =>
      rw [h.name]
      exact mirrors_pure view _

theorem Mirrors.respond (h : crew.Mirrors view other) (r : ToolRequest) (p : LedProgress) :
    MathAgents.Mirrors view (crew.respond r p) (other.respond r p) := by
  unfold DelegatingCrew.respond
  by_cases hm : r.name = Role.math.agentName
  · rw [if_pos hm, if_pos hm]
    exact (mirrors_callAgent h.math r p.toProgress).bind fun _ => mirrors_pure view _
  rw [if_neg hm, if_neg hm]
  by_cases hp : r.name = Role.poet.agentName
  · rw [if_pos hp, if_pos hp]
    by_cases ha : p.phase.allowsPoetry
    · rw [if_pos ha, if_pos ha]
      exact (mirrors_callAgent h.poet r p.toProgress).bind fun _ => mirrors_pure view _
    · rw [if_neg ha, if_neg ha]
      exact mirrors_pure view _
  rw [if_neg hp, if_neg hp]
  -- nothing else lets an agent work
  split
  · split <;> exact mirrors_pure view _
  · exact mirrors_pure view _

theorem Mirrors.follow (h : crew.Mirrors view other) (output : Output) (p : LedProgress) :
    MathAgents.Mirrors view (crew.follow output p) (other.follow output p) := by
  unfold DelegatingCrew.follow
  cases output with
  | toolCall r => exact (h.respond r _).bind fun _ => mirrors_pure view _
  | delegate note | reply note =>
    simp only [h.controller.name]
    exact mirrors_pure view _

theorem Mirrors.narrate (h : crew.Mirrors view other) (p : Progress) :
    MathAgents.Mirrors view (crew.narrate p) (other.narrate p) := by
  unfold DelegatingCrew.narrate
  refine (Progress.mirrors_invoke h.narrator p p.context).bind ?_
  rintro ⟨outcome, q⟩
  simp only [h.narrator.name]
  cases outcome <;> exact mirrors_pure view _

theorem Mirrors.runRounds (h : crew.Mirrors view other) (remaining : Nat) (p : LedProgress) :
    MathAgents.Mirrors view (crew.runRounds remaining p) (other.runRounds remaining p) := by
  induction remaining generalizing p with
  | zero =>
    unfold DelegatingCrew.runRounds
    rw [h.maxRounds]
    exact mirrors_pure view _
  | succ remaining ih =>
    unfold DelegatingCrew.runRounds
    refine (Progress.mirrors_invoke h.controller p.toProgress p.context).bind ?_
    rintro ⟨outcome, q⟩
    simp only [h.controller.name]
    cases outcome with
    | error e => exact mirrors_pure view _
    | ok output =>
      refine (h.follow output _).bind fun p' => ?_
      split
      · exact h.narrate p'.toProgress
      · exact ih p'

end DelegatingCrew

namespace SequentialCrew

/-- The agents of the roles, in a fixed order. -/
def ofAgents (agent : Role → Agent σ) : SequentialCrew σ :=
  ⟨agent .math, agent .poet, agent .narrator⟩

/-- The agent of a stage is the one with its role. -/
theorem agent?_ofAgents (agent : Role → Agent σ) {stage : Stage} {role : Role}
    (h : stage.role? = some role) : (ofAgents agent).agent? stage = some (agent role) := by
  cases stage <;> cases h <;> rfl

theorem mirrors_runFrom {agent : Role → Agent τ} {other : Role → Agent σ}
    (h : ∀ role, (agent role).Mirrors view (other role)) (stage : Stage) (p : Progress) :
    Mirrors view ((ofAgents agent).runFrom stage p) ((ofAgents other).runFrom stage p) := by
  induction stage using Stage.backward_induction generalizing p with
  | done =>
    intro s
    rw [runFrom_of_none rfl, runFrom_of_none rfl]
  | step stage role hrole ih =>
    have hagent := agent?_ofAgents agent hrole
    have hother := agent?_ofAgents other hrole
    intro s
    -- both agents finish in the same way, so both runs stop here or both go on
    have hinvoke := (h role).invoke p.context s
    cases hi : (agent role).invoke p.context s with
    | mk outcome s' =>
      rw [hi] at hinvoke
      cases outcome with
      | error e =>
        rw [runFrom_of_error hagent hi, runFrom_of_error hother hinvoke,
          Progress.recorded_congr (h role).name, (h role).name]
      | ok output =>
        rw [runFrom_of_ok hagent hi, runFrom_of_ok hother hinvoke,
          Progress.recorded_congr (h role).name, (h role).name]
        exact ih _ s'

end SequentialCrew

/-- **Watching changes nothing.** A run of agents that do what others do has the ending of the run
    of the others, and the same effect on what the others see of the state. -/
theorem Crew.mirrors_run {agent : Role → Agent τ} {other : Role → Agent σ}
    (h : ∀ role, (agent role).Mirrors view (other role)) (kind : PipelineKind) (maxRounds : Nat)
    (context : Context) :
    Mirrors view ((assemble kind maxRounds agent).run context)
      ((assemble kind maxRounds other).run context) := by
  cases kind with
  | sequential => exact SequentialCrew.mirrors_runFrom h .math { context }
  | toolDriven =>
    have hcrew : DelegatingCrew.Mirrors view
        ⟨agent .controller, agent .math, agent .poet, agent .narrator, maxRounds⟩
        ⟨other .controller, other .math, other .poet, other .narrator, maxRounds⟩ :=
      ⟨h .controller, h .math, h .poet, h .narrator, rfl⟩
    exact hcrew.runRounds maxRounds { context }

end

/-! ### Notes of conversations -/

/-- The agents of a run on a script work under their own roles. -/
theorem Script.agent_role {role : Role} (hrole : role ≠ .transcriber) (script : Script)
    (settings : CrewSettings) : (script.agent settings role).role = role := by
  cases role with
  | transcriber => exact absurd rfl hrole
  | math | poet | narrator | controller => rfl

/-- The note of an invocation on a script holds the conversation of the agent with its provider,
    which is all that the invocation adds to what has been asked. -/
theorem Script.watched_invoke (script : Script) (settings : CrewSettings) {role : Role}
    (hrole : role ≠ .transcriber) (c : Context) (log : Consultations) (notes : List Invocation) :
    ∃ talk outcome, Agent.Converses settings role c talk outcome ∧
      (script.agent settings role).watched.invoke c (log, notes) =
        (outcome, log ++ talk, notes ++ [⟨role, c, outcome, talk⟩]) := by
  obtain ⟨talk, outcome, hconverses, -, hinvoke⟩ := script.exists_converses settings hrole c log
  refine ⟨talk, outcome, hconverses, ?_⟩
  simp only [Agent.watched, hinvoke, Script.agent_role hrole, List.drop_left]

end MathAgents
