import MathAgents.Run.Progress

namespace MathAgents

/-!
# Runs in a fixed order

The math agent, the poet and the narrator work one after the other.  Each is shown the request
and what the agents before it said; the first failure ends the run.
-/

/-- The next agent of a run in a fixed order. -/
inductive Stage where
  | math
  | poetry
  | narration
  | done
  deriving DecidableEq, Repr

namespace Stage

/-- The stage behind a stage; the last one is behind itself. -/
def next : Stage → Stage
  | math => poetry
  | poetry => narration
  | narration => done
  | done => done

/-- How many agents have still to work. -/
def remaining : Stage → Nat
  | math => 3
  | poetry => 2
  | narration => 1
  | done => 0

end Stage

/-- The agents of a run in a fixed order. -/
structure SequentialCrew (σ : Type) where
  math : Agent σ
  poet : Agent σ
  narrator : Agent σ

namespace SequentialCrew

variable {σ : Type}

/-- The agent whose turn it is. -/
def agent? (crew : SequentialCrew σ) : Stage → Option (Agent σ)
  | .math => some crew.math
  | .poetry => some crew.poet
  | .narration => some crew.narrator
  | .done => none

/-- The progress when an agent has said something. -/
def advance (p : Progress) (agent text : String) : Progress :=
  ((p.emit (.message agent text)).tell agent text).contribute agent text

/-- The answer of a finished run: what was said last. -/
def answer (p : Progress) : String := (p.outputs.getLast?.map (·.text)).getD ""

/-- Runs the agents from a stage on. -/
def runFrom (crew : SequentialCrew σ) (stage : Stage) (p : Progress) : StateM σ Ending := do
  match h : crew.agent? stage with
  | none => return p.succeed (answer p)
  | some agent =>
    have : stage.next.remaining < stage.remaining := by
      cases stage <;> simp_all [agent?, Stage.next, Stage.remaining]
    match ← p.invoke agent p.context with
    | (.ok output, p) => crew.runFrom stage.next (advance p agent.name output.text)
    | (.error e, p) =>
      return p.fail [s!"Stage {agent.name} failed: {e.message}"] (e.toTurnError agent.name)
termination_by stage.remaining

/-- Runs all agents on a context. -/
def run (crew : SequentialCrew σ) (context : Context) : StateM σ Ending :=
  crew.runFrom .math { context }

end SequentialCrew

end MathAgents
