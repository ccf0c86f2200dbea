import MathAgents.Agent.Math
import MathAgents.Agent.Narrator
import MathAgents.Agent.Poet
import MathAgents.Run.Delegating
import MathAgents.Run.Sequential

namespace MathAgents

/-!
# Crews

The agents of a run, put together for one of the two ways to run them.  Each agent has its own
provider, which may be one and the same.
-/

/-- The ways to run the agents on a turn. -/
inductive PipelineKind where
  /-- In a fixed order. -/
  | sequential
  /-- Led by the controller. -/
  | toolDriven
  deriving DecidableEq, Repr

namespace PipelineKind

/-- Every kind; the first one is the default. -/
def all : List PipelineKind := [sequential, toolDriven]

/-- The name of a kind. -/
def name : PipelineKind → String
  | sequential => "sequential"
  | toolDriven => "tool-driven"

/-- The kind with a name. -/
def ofName? (s : String) : Option PipelineKind := all.find? (·.name == s)

/-- The kind that a JSON value encodes. -/
def ofJson? (j : Json) : Option PipelineKind := j.asName?.bind ofName?

end PipelineKind

/-- What a crew is put together with. -/
structure CrewSettings where
  temperature : Float
  /-- How often the controller may decide in one run. -/
  maxRounds : Nat
  /-- How many calls the math agent's model has in one invocation. -/
  maxIterations : Nat

/-- The least temperature that the poet works at. -/
def leastPoetTemperature : Float := 0.6

/-- The temperature that the poet works at. -/
def poetTemperature (temperature : Float) : Float :=
  if leastPoetTemperature ≤ temperature then temperature else leastPoetTemperature

/-- The agents of a run. -/
inductive Crew (σ : Type) where
  | sequential (crew : SequentialCrew σ)
  | delegating (crew : DelegatingCrew σ)

namespace Crew

variable {σ : Type}

/-- The way in which a crew runs. -/
def kind : Crew σ → PipelineKind
  | sequential _ => .sequential
  | delegating _ => .toolDriven

/-- A crew of agents that have been put together before. -/
def assemble (kind : PipelineKind) (maxRounds : Nat) (agent : Role → Agent σ) : Crew σ :=
  match kind with
  | .sequential => .sequential ⟨agent .math, agent .poet, agent .narrator⟩
  | .toolDriven =>
    .delegating ⟨agent .controller, agent .math, agent .poet, agent .narrator, maxRounds⟩

/-- The agent for a role in a run, over a provider. -/
def agentFor (settings : CrewSettings) (provider : Chat.Provider σ) : Role → Agent σ
  | .math => .math provider settings.temperature settings.maxIterations
  | .poet => .poet provider (poetTemperature settings.temperature)
  | .controller => .controller provider settings.temperature
  | _ => .narrator provider settings.temperature

/-- A crew with one provider for all its agents. -/
def build (kind : PipelineKind) (settings : CrewSettings) (provider : Chat.Provider σ) : Crew σ :=
  assemble kind settings.maxRounds (agentFor settings provider)

/-- Runs a crew on a context. -/
def run (crew : Crew σ) (context : Context) : StateM σ Ending :=
  match crew with
  | sequential c => c.run context
  | delegating c => c.run context

end Crew

end MathAgents
