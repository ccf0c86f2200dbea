import MathAgents.Agent.Basic

namespace MathAgents

/-!
# The audit trail

The record of the agents that worked in one run.  Entries are numbered from one in the order in
which the agents finished, and they are only ever added at the end.
-/

/-- One finished invocation of an agent. -/
structure AuditEntry where
  number : Nat
  agent : String
  /-- The digest of the context that the agent was given. -/
  snapshot : String
  /-- What the agent produced, or the payload of its failure. -/
  output : Json
  success : Bool

namespace AuditEntry

/-- The entry on one line. -/
def summary (e : AuditEntry) : String :=
  s!"#{e.number} {e.agent} success={e.success} snapshot={e.snapshot} output={e.output.print}"

/-- The entry as a JSON value. -/
def toJson (e : AuditEntry) : Json :=
  .obj
    [("sequence_no", .ofNat e.number), ("capability_name", .str e.agent),
     ("input_snapshot_ref", .str e.snapshot), ("output", e.output), ("success", .bool e.success)]

end AuditEntry

/-- The entries of a run, the first one first. -/
abbrev AuditTrail := List AuditEntry

namespace AuditTrail

/-- The trail with one more entry. -/
def record (t : AuditTrail) (agent snapshot : String) (output : Json) (success : Bool) :
    AuditTrail :=
  t ++ [⟨t.length + 1, agent, snapshot, output, success⟩]

/-- The names of the agents that worked, in order. -/
def agents (t : AuditTrail) : List String := t.map (·.agent)

/-- The lines that are logged when a run ends with an error. -/
def abortLines (t : AuditTrail) (cause : TurnError) : List String :=
  s!"Run aborted after {t.length} invocation(s): {cause.message}" ::
    t.map fun e => s!"audit {e.summary}"

/-- The trail as a JSON value. -/
def toJson (t : AuditTrail) : Json := .obj [("entries", .arr (t.map AuditEntry.toJson))]

end AuditTrail

end MathAgents
