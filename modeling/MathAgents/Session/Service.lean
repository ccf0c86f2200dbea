import MathAgents.Run.Crew
import MathAgents.Session.Basic
import MathAgents.Session.StateStore

namespace MathAgents

/-!
# The session service

Sessions by id, with the state kept for them.  Sessions are created once and grow at the end;
`SessionService.runTurn` records what the user says, runs a crew on it, and records the answer if
there is one.
-/

/-- The sessions in memory, and the state kept for sessions. -/
structure SessionService where
  sessions : List Session := []
  state : StateStore := {}

namespace SessionService

/-- The session with an id. -/
def get? (s : SessionService) (id : String) : Option Session :=
  s.sessions.find? (·.id == id)

/-- Creates a session unless there is one with its id; the session with that id. -/
def create (s : SessionService) (userId id : String) : Session × SessionService :=
  match s.get? id with
  | some session => (session, s)
  | none =>
    let session : Session := { id, userId }
    (session, { s with sessions := s.sessions ++ [session] })

/-- A session with one more turn, if it has the given id. -/
def appendTo (id : String) (turn : Turn) (session : Session) : Session :=
  if session.id = id then { session with turns := session.turns ++ [turn] } else session

/-- Adds a turn to a session; whether there is such a session. -/
def append (s : SessionService) (id : String) (turn : Turn) : Bool × SessionService :=
  if (s.get? id).isSome then (true, { s with sessions := s.sessions.map (appendTo id turn) })
  else (false, s)

/-- The context that a turn is worked on in. -/
def turnContext (sessionId userId : String) (turn : Turn) : Context :=
  { sessionId, userId, request := turn.text, attachments := turn.attachments }

/-- The turn that records the answer of a run. -/
def answerTurn (report : Report) : Option Turn :=
  report.outputs.getLast?.map fun last => ⟨last.agent, [.text report.finalResponse]⟩

/-- The service when a run has ended. -/
def conclude (s : SessionService) (sessionId : String) (ending : Ending) : SessionService :=
  match ending.outcome with
  | .error _ => s
  | .ok report =>
    match answerTurn report with
    | none => s
    | some turn => (s.append sessionId turn).2

/-- Runs a crew on a turn of a session. -/
def runTurn {σ : Type} (crew : Crew σ) (sessionId userId : String) (turn : Turn)
    (s : SessionService) : StateM σ (Ending × SessionService) := do
  let s := (s.create userId sessionId).2
  let s := (s.append sessionId turn).2
  let ending ← crew.run (turnContext sessionId userId turn)
  return (ending, s.conclude sessionId ending)

end SessionService

end MathAgents
