import MathAgents.Run.Audit
import MathAgents.Run.Event

namespace MathAgents

/-!
# The progress of a run

What a run has gathered so far, and what it reports at its end.  `Progress.invoke` is the only
way in which a run lets an agent work, and it enters every invocation into the audit trail.
-/

/-- What an agent contributed to the answer. -/
structure StageOutput where
  agent : String
  text : String
  deriving DecidableEq, Repr

/-- The output as a JSON value. -/
def StageOutput.toJson (o : StageOutput) : Json :=
  .obj [("capability", .str o.agent), ("text", .str o.text)]

/-- What a run has gathered so far. -/
structure Progress where
  context : Context
  audit : AuditTrail := []
  events : List Event := []
  outputs : List StageOutput := []

/-- What a run reports when it succeeds. -/
structure Report where
  /-- What the agents contributed, the narrator last. -/
  outputs : List StageOutput
  events : List Event
  audit : AuditTrail
  /-- The answer that the user gets. -/
  finalResponse : String

/-- How a run ended. -/
structure Ending where
  outcome : Except TurnError Report
  /-- What the run logged as errors, in order. -/
  log : List String := []
  /-- What the run had gathered when it ended. -/
  progress : Progress

namespace Progress

/-- Lets an agent work on a context, and enters the invocation into the audit trail. -/
def invoke {σ : Type} (p : Progress) (agent : Agent σ) (context : Context) :
    StateM σ (Except AgentError Output × Progress) := do
  let outcome ← agent.invoke context
  let (value, success) := match outcome with
    | .ok output => (output.value, true)
    | .error e => (e.payload, false)
  return (outcome, { p with audit := p.audit.record agent.name context.snapshot value success })

/-- The progress with one more event. -/
def emit (p : Progress) (e : Event) : Progress := { p with events := p.events ++ [e] }

/-- The progress with one more contribution to the answer. -/
def contribute (p : Progress) (agent text : String) : Progress :=
  { p with outputs := p.outputs ++ [⟨agent, text⟩] }

/-- The progress whose context has one more entry. -/
def tell (p : Progress) (author text : String) : Progress :=
  { p with context := p.context.push author text }

/-- The end of a run that succeeds with an answer. -/
def succeed (p : Progress) (answer : String) : Ending :=
  { outcome := .ok ⟨p.outputs, p.events, p.audit, answer⟩, progress := p }

/-- The end of a run that fails, after some lines that say where. -/
def fail (p : Progress) (lines : List String) (cause : TurnError) : Ending :=
  { outcome := .error cause, log := lines ++ p.audit.abortLines cause, progress := p }

end Progress

end MathAgents
