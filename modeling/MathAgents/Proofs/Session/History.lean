import MathAgents.Proofs.Run.Watching
import MathAgents.Session.Service

namespace MathAgents

/-!
# The history of a service

Sessions are created once, belong to whom they were created for, and grow at their end.  What a
service holds is a function of what it was asked for and what it answered (`reference`): it does not
matter in which way the operations on different sessions are mixed, and a run is told nothing but
what it is called with.

* `Crew.answered_run` — a run that succeeds has a last output, whose text is its answer.
* `SessionService.get?_perform` — what one operation makes of the sessions.
* `SessionService.Reflects` — a service holds what its history says; `Reflects.perform` keeps this
  through an operation and `Reflects.performAll` through any number of them.
* `SessionService.history_append_only` — what follows for every list of operations.
-/

/-! ### The answer of a run -/

/-- Whether a report has a last output, whose text is the answer. -/
def Report.Answered (report : Report) : Prop :=
  ∃ last, report.outputs.getLast? = some last ∧ last.text = report.finalResponse

section

variable {σ : Type} {report : Report}

theorem SequentialCrew.answered_runFrom (crew : SequentialCrew σ) (stage : Stage) :
    ∀ (p : Progress) (s : σ), (stage ≠ .done ∨ p.outputs ≠ []) →
      (crew.runFrom stage p s).1.outcome = .ok report → report.Answered := by
  -- from the last stage backwards: every stage that is passed leaves an output behind
  induction stage using Stage.backward_induction with
  | done =>
    intro p s hp h
    rw [runFrom_of_none rfl] at h
    cases h
    have hne : p.outputs ≠ [] := hp.resolve_left (fun hstage => hstage rfl)
    obtain ⟨last, hlast⟩ := List.getLast?_isSome.mpr hne |> Option.isSome_iff_exists.mp
    exact ⟨last, hlast, by simp [answer, hlast]⟩
  | step stage role hrole ih =>
    intro p s _ h
    obtain ⟨agent, hagent⟩ : ∃ agent, crew.agent? stage = some agent := by
      cases stage with
      | math | poetry | narration => exact ⟨_, rfl⟩
      | done => cases hrole
    cases hi : agent.invoke p.context s with
    | mk outcome s' =>
      cases outcome with
      | error e =>
        rw [runFrom_of_error hagent hi] at h
        cases h
      | ok output =>
        rw [runFrom_of_ok hagent hi] at h
        exact ih _ s' (.inr (by simp [advance, Progress.contribute])) h

theorem DelegatingCrew.answered_narrate (crew : DelegatingCrew σ) (p : Progress) (s : σ)
    (h : (crew.narrate p s).1.outcome = .ok report) : report.Answered := by
  cases hi : crew.narrator.invoke p.context s with
  | mk outcome s' =>
    cases outcome with
    | error e =>
      rw [narrate_of_error hi] at h
      cases h
    | ok output =>
      rw [narrate_of_ok hi] at h
      cases h
      exact ⟨_, List.getLast?_concat, rfl⟩

theorem DelegatingCrew.Ends.answered {crew : DelegatingCrew σ} {c : Context} {s s' : σ}
    {ending : Ending} (h : crew.Ends c s ending s') (hok : ending.outcome = .ok report) :
    report.Answered := by
  cases h with
  | exhausted _ => cases hok
  | failed _ _ _ => cases hok
  | narrated _ _ _ _ _ => exact crew.answered_narrate _ _ hok

/-- A run that succeeds has a last output, whose text is its answer. -/
theorem Crew.answered_run (crew : Crew σ) (c : Context) (s : σ)
    (h : (crew.run c s).1.outcome = .ok report) : report.Answered := by
  cases crew with
  | sequential crew => exact crew.answered_runFrom .math _ s (.inl (by decide)) h
  | delegating crew => exact (crew.ends_run c s).answered h

end

/-- The turn that a run leaves behind if it succeeds: one by the agent of the last output, with the
    answer as its text. -/
def Ending.answerTurns (ending : Ending) : List Turn :=
  match ending.outcome with
  | .error _ => []
  | .ok report =>
    (report.outputs.getLast?.map fun last => ⟨last.agent, [.text report.finalResponse]⟩).toList

/-! ### Operations -/

/-- The text of a part, if it is a text. -/
def Part.text? : Part → Option String
  | .text t => some t
  | .attachment _ => none

/-- The attachment that a part is, if it is one. -/
def Part.attachment? : Part → Option Attachment
  | .text _ => none
  | .attachment a => some a

/-- The session with more turns at its end. -/
def Session.extend (session : Session) (turns : List Turn) : Session :=
  { session with turns := session.turns ++ turns }

@[simp] theorem Session.extend_nil (session : Session) : session.extend [] = session := by
  simp [extend]

theorem Session.extend_extend (session : Session) (turns more : List Turn) :
    (session.extend turns).extend more = session.extend (turns ++ more) := by
  simp [extend]

namespace SessionService

variable {σ : Type}

/-- What a service can be asked for. -/
inductive Operation (σ : Type) where
  | create (userId id : String)
  | append (id : String) (turn : Turn)
  | find (id : String)
  | run (crew : Crew σ) (id userId : String) (turn : Turn)

/-- What a service answers. -/
inductive Answer where
  | session (session : Session)
  | appended (done : Bool)
  | found (session : Option Session)
  | ended (ending : Ending)

/-- What a service was asked for and what it answered, the first operation first. -/
abbrev History (σ : Type) := List (Operation σ × Answer)

/-- Carries out an operation. -/
def perform (service : SessionService) : Operation σ → StateM σ (Answer × SessionService)
  | .create userId id =>
    let (session, service) := service.create userId id
    return (.session session, service)
  | .append id turn =>
    let (done, service) := service.append id turn
    return (.appended done, service)
  | .find id => return (.found (service.get? id), service)
  | .run crew id userId turn => do
    let (ending, service) ← service.runTurn crew id userId turn
    return (.ended ending, service)

/-- Carries out operations one after the other. -/
def performAll (service : SessionService) :
    List (Operation σ) → StateM σ (History σ × SessionService)
  | [] => return ([], service)
  | operation :: rest => do
    let (answer, service) ← service.perform operation
    let (history, service) ← service.performAll rest
    return ((operation, answer) :: history, service)

namespace Operation

/-- The session that an operation is about. -/
def id : Operation σ → String
  | create _ id | append id _ | find id | run _ id _ _ => id

/-- The user for whom an operation creates its session, if there is none. -/
def creator? : Operation σ → Option String
  | create userId _ | run _ _ userId _ => some userId
  | append _ _ | find _ => none

/-- The turns that an operation with an answer has added to its session: a turn that was appended,
    and for a run the turn of the user and what was answered to it. -/
def added : Operation σ → Answer → List Turn
  | append _ turn, .appended true => [turn]
  | run _ _ _ turn, .ended ending => turn :: ending.answerTurns
  | _, _ => []

end Operation

/-- The part of a history that is about a session. -/
def History.of (history : History σ) (id : String) : History σ :=
  history.filter (·.1.id = id)

/-- The session that there has to be behind a history: it is led by the first user for whom it was
    to be created, and has the turns that were added to it. -/
def reference (history : History σ) (id : String) : Option Session :=
  ((history.of id).findSome? (·.1.creator?)).map fun userId =>
    { id, userId, turns := (history.of id).flatMap fun x => x.1.added x.2 }

/-! ### One operation -/

theorem id_of_get? {service : SessionService} {id : String} {session : Session}
    (h : service.get? id = some session) : session.id = id := by
  simpa using List.find?_some h

theorem get?_create (service : SessionService) (userId id other : String) :
    (service.create userId id).2.get? other =
      if id = other then (service.get? id).or (some { id, userId }) else service.get? other := by
  unfold create
  cases h : service.get? id with
  | some session =>
    by_cases hid : id = other
    · subst hid
      simp [h]
    · simp [hid]
  | none =>
    by_cases hid : id = other
    · subst hid
      unfold get? at h
      simp [get?, List.find?_append, h]
    · simp [get?, List.find?_append, hid]

theorem get?_append (service : SessionService) (id other : String) (turn : Turn) :
    (service.append id turn).2.get? other =
      if id = other then (service.get? id).map (·.extend [turn]) else service.get? other := by
  have hkeeps : (fun x : Session => x.id == other) ∘ appendTo id turn = (·.id == other) := by
    funext x
    simp only [Function.comp_apply, appendTo]
    split <;> rfl
  unfold append
  split
  · have hmap : ({ service with sessions := service.sessions.map (appendTo id turn) } :
        SessionService).get? other = (service.get? other).map (appendTo id turn) := by
      simp only [get?, List.find?_map, hkeeps]
    rw [hmap]
    cases hother : service.get? other with
    | none =>
      by_cases hid : id = other
      · simp [hid, hother]
      · simp [hid]
    | some x =>
      have hx := id_of_get? hother
      by_cases hid : id = other
      · simp [hid, hother, appendTo, hx, Session.extend]
      · simp [appendTo, hx, Ne.symm hid, hid]
  · next h =>
    by_cases hid : id = other
    · subst hid
      have hnone : service.get? id = none := by simpa using h
      simp [hnone]
    · simp [hid]

/-- The end of a run adds the turn of the answer, if there is one. -/
theorem get?_conclude (service : SessionService) (id other : String) (ending : Ending) :
    (service.conclude id ending).get? other =
      if id = other then (service.get? id).map (·.extend ending.answerTurns)
      else service.get? other := by
  unfold conclude Ending.answerTurns
  cases ending.outcome with
  | error e => by_cases hid : id = other <;> simp [hid]
  | ok report =>
    unfold answerTurn
    cases hlast : report.outputs.getLast? with
    | none => by_cases hid : id = other <;> simp [hlast, hid]
    | some last =>
      simp only [hlast, Option.map_some, Option.toList_some]
      exact get?_append service id other _

/-- The service when a run on a turn of a session has ended. -/
def afterRun (service : SessionService) (id userId : String) (turn : Turn) (ending : Ending) :
    SessionService :=
  ((service.create userId id).2.append id turn).2.conclude id ending

/-- A run is told the ids and what is in the turn, and nothing that the service holds. -/
theorem perform_run (service : SessionService) (crew : Crew σ) (id userId : String) (turn : Turn)
    (s : σ) :
    service.perform (.run crew id userId turn) s =
      ((.ended (crew.run (turnContext id userId turn) s).1,
        service.afterRun id userId turn (crew.run (turnContext id userId turn) s).1),
        (crew.run (turnContext id userId turn) s).2) := rfl

theorem get?_afterRun (service : SessionService) (id userId other : String) (turn : Turn)
    (ending : Ending) :
    (service.afterRun id userId turn ending).get? other =
      if id = other then
        some (((service.get? id).getD { id, userId }).extend (turn :: ending.answerTurns))
      else service.get? other := by
  rw [afterRun, get?_conclude, get?_append, get?_append, get?_create, get?_create]
  by_cases hid : id = other
  · simp [hid, Session.extend_extend]
  · simp [hid]

/-- An operation creates its session, if it is one that does and there is none, and adds turns to
    it; it leaves the other sessions alone. -/
theorem get?_perform (service : SessionService) (operation : Operation σ) (s : σ) (id : String) :
    (service.perform operation s).1.2.get? id =
      if operation.id = id then
        ((service.get? id).or (operation.creator?.map fun userId => { id, userId })).map
          (·.extend (operation.added (service.perform operation s).1.1))
      else service.get? id := by
  cases operation with
  | create userId other =>
    show (service.create userId other).2.get? id =
      if other = id then ((service.get? id).or (some { id, userId })).map (·.extend [])
      else service.get? id
    rw [get?_create]
    by_cases hid : other = id
    · simp [hid]
    · simp [hid]
  | append other turn =>
    show (service.append other turn).2.get? id =
      if other = id then ((service.get? id).or none).map
        (·.extend ((Operation.append other turn : Operation σ).added
          (.appended (service.append other turn).1)))
      else service.get? id
    rw [get?_append]
    by_cases hid : other = id
    · subst hid
      cases hget : service.get? other with
      | none => simp
      | some x => simp [append, hget, Operation.added]
    · simp [hid]
  | find other =>
    show service.get? id =
      if other = id then ((service.get? id).or none).map (·.extend []) else service.get? id
    simp
  | run crew other userId turn =>
    rw [perform_run, get?_afterRun]
    by_cases hid : other = id
    · simp [hid, Operation.id, Operation.creator?, Operation.added]
    · simp [hid, Operation.id]

theorem state_append (service : SessionService) (id : String) (turn : Turn) :
    (service.append id turn).2.state = service.state := by
  unfold append
  split <;> rfl

theorem state_create (service : SessionService) (userId id : String) :
    (service.create userId id).2.state = service.state := by
  unfold create
  split <;> rfl

theorem state_conclude (service : SessionService) (id : String) (ending : Ending) :
    (service.conclude id ending).state = service.state := by
  unfold conclude
  split
  · rfl
  · split
    · rfl
    · exact state_append _ _ _

/-- No operation changes the state kept for sessions. -/
theorem state_perform (service : SessionService) (operation : Operation σ) (s : σ) :
    (service.perform operation s).1.2.state = service.state := by
  cases operation with
  | create userId id => exact state_create service userId id
  | append id turn => exact state_append service id turn
  | find id => rfl
  | run crew id userId turn =>
    rw [perform_run, afterRun, state_conclude, state_append, state_create]

/-- Whether an operation on sessions is answered as it has to be.  A run is answered by the crew
    alone, which is told the ids, the texts of the turn, a line each, and its attachments; it is
    answered with an answer if it succeeds. -/
def Told (sessions : String → Option Session) : Operation σ → Answer → Prop
  | .create userId id, .session session => session = (sessions id).getD { id, userId }
  | .append id _, .appended done => done = (sessions id).isSome
  | .find id, .found session => session = sessions id
  | .run crew id userId turn, .ended ending =>
    (∃ s, ending = (crew.run
      { sessionId := id
        userId
        request := "\n".intercalate (turn.parts.filterMap Part.text?)
        attachments := turn.parts.filterMap Part.attachment? } s).1) ∧
      ∀ report, ending.outcome = .ok report → report.Answered
  | _, _ => False

theorem told_perform (service : SessionService) (operation : Operation σ) (s : σ) :
    Told service.get? operation (service.perform operation s).1.1 := by
  cases operation with
  | create userId id =>
    show (service.create userId id).1 = (service.get? id).getD { id, userId }
    unfold create
    cases service.get? id <;> rfl
  | append id turn =>
    show (service.append id turn).1 = (service.get? id).isSome
    unfold append
    cases service.get? id <;> rfl
  | find id => exact rfl
  | run crew id userId turn => exact ⟨⟨s, rfl⟩, fun report => crew.answered_run _ s⟩

/-! ### Any number of operations -/

theorem History.of_concat (history : History σ) (x : Operation σ × Answer) (id : String) :
    (history ++ [x] : History σ).of id =
      if x.1.id = id then history.of id ++ [x] else history.of id := by
  by_cases hid : x.1.id = id <;> simp [of, List.filter_append, hid]

/-- Whether a service holds the sessions that there have to be behind a history, and nothing was
    added to sessions that there are not. -/
structure Reflects (history : History σ) (service : SessionService) : Prop where
  get?_eq : ∀ id, service.get? id = reference history id
  added_eq_nil : ∀ id, service.get? id = none →
    ((history.of id).flatMap fun x => x.1.added x.2) = []

variable {history : History σ} {service : SessionService}

theorem reflects_start (store : StateStore) :
    Reflects ([] : History σ) { state := store } :=
  ⟨fun _ => rfl, fun _ _ => rfl⟩

/-- An operation that finds no session and creates none adds nothing. -/
theorem added_eq_nil_of_none {operation : Operation σ} (h : service.get? operation.id = none)
    (hcreator : operation.creator? = none) (s : σ) :
    operation.added (service.perform operation s).1.1 = [] := by
  cases operation with
  | create userId id => cases hcreator
  | append id turn =>
    have hfalse : (service.perform (.append id turn : Operation σ) s).1.1 = .appended false := by
      show Answer.appended (service.append id turn).1 = _
      have hnone : service.get? id = none := h
      rw [append, hnone]
      rfl
    rw [hfalse]
    rfl
  | find id => rfl
  | run crew id userId turn => cases hcreator

/-- An operation keeps a service in accord with its history. -/
theorem Reflects.perform (h : Reflects history service) (operation : Operation σ) (s : σ) :
    Reflects (history ++ [(operation, (service.perform operation s).1.1)])
      (service.perform operation s).1.2 := by
  constructor
  · intro id
    have hget := h.get?_eq id
    have hadded := h.added_eq_nil id
    rw [get?_perform, reference, History.of_concat]
    by_cases hid : operation.id = id
    · subst hid
      rw [reference] at hget
      -- either the session was there before, or what was added so far is nothing
      cases hfirst : (history.of operation.id).findSome? (·.1.creator?) with
      | some userId =>
        rw [hfirst] at hget
        simp [hget, hfirst, Session.extend]
      | none =>
        rw [hfirst] at hget
        cases hcreator : operation.creator? <;>
          simp [hget, hfirst, hcreator, hadded hget, Session.extend]
    · rw [if_neg hid, if_neg hid]
      exact hget
  · intro id hnone
    rw [History.of_concat]
    rw [get?_perform] at hnone
    by_cases hid : operation.id = id
    · subst hid
      simp only [if_true, Option.map_eq_none_iff, Option.or_eq_none_iff] at hnone
      obtain ⟨hget, hcreator⟩ := hnone
      simp [h.added_eq_nil _ hget, added_eq_nil_of_none hget hcreator]
    · rw [if_neg hid] at hnone
      simpa [hid] using h.added_eq_nil id hnone

theorem performAll_cons (service : SessionService) (operation : Operation σ)
    (rest : List (Operation σ)) (s : σ) :
    service.performAll (operation :: rest) s =
      let step := service.perform operation s
      let later := step.1.2.performAll rest step.2
      (((operation, step.1.1) :: later.1.1, later.1.2), later.2) := rfl

/-- A service holds what its history says behind any number of operations. -/
theorem Reflects.performAll (h : Reflects history service) (operations : List (Operation σ))
    (s : σ) :
    Reflects (history ++ (service.performAll operations s).1.1)
      (service.performAll operations s).1.2 := by
  -- by induction on the operations that are still to come, the history of the others in front
  induction operations generalizing history service s with
  | nil =>
    show Reflects (history ++ []) service
    rw [List.append_nil]
    exact h
  | cons operation rest ih =>
    have hlater := ih (h.perform operation s) (service.perform operation s).2
    rw [List.append_assoc] at hlater
    exact hlater

/-- Each operation is answered as the history in front of it says. -/
theorem Reflects.told (h : Reflects history service) (operations : List (Operation σ)) (s : σ)
    {before after : History σ} {x : Operation σ × Answer}
    (hsplit : (service.performAll operations s).1.1 = before ++ x :: after) :
    Told (reference (history ++ before)) x.1 x.2 := by
  induction operations generalizing history service s before with
  | nil =>
    have hnil : ([] : History σ) = before ++ x :: after := hsplit
    simp at hnil
  | cons operation rest ih =>
    rw [performAll_cons] at hsplit
    cases before with
    | nil =>
      obtain ⟨rfl, -⟩ := List.cons.inj hsplit
      rw [List.append_nil, ← funext h.get?_eq]
      exact told_perform service operation s
    | cons y before =>
      obtain ⟨rfl, hrest⟩ := List.cons.inj hsplit
      have htold := ih (h.perform operation s) _ hrest
      rw [List.append_assoc] at htold
      exact htold

theorem state_performAll (service : SessionService) (operations : List (Operation σ)) (s : σ) :
    (service.performAll operations s).1.2.state = service.state := by
  induction operations generalizing service s with
  | nil => rfl
  | cons operation rest ih =>
    rw [performAll_cons]
    exact (ih _ _).trans (state_perform service operation s)

theorem operations_performAll (service : SessionService) (operations : List (Operation σ)) (s : σ) :
    (service.performAll operations s).1.1.map Prod.fst = operations := by
  induction operations generalizing service s with
  | nil => rfl
  | cons operation rest ih =>
    rw [performAll_cons]
    exact congrArg (operation :: ·) (ih _ _)

/-- What follows in a history adds turns to a session, and changes nothing else about it. -/
theorem reference_append {before : History σ} (after : History σ) {id : String} {session : Session}
    (h : reference before id = some session) :
    ∃ turns, reference (before ++ after) id = some (session.extend turns) := by
  obtain ⟨userId, hfirst, rfl⟩ := Option.map_eq_some_iff.mp h
  refine ⟨(History.of after id).flatMap fun x => x.1.added x.2, ?_⟩
  have hof : History.of (before ++ after) id = before.of id ++ after.of id := List.filter_append ..
  rw [reference, hof, List.findSome?_append, hfirst, List.flatMap_append]
  rfl

/-- **Histories.** A service that starts without sessions holds at every time the sessions that its
    history says, answers as it says, and only adds turns to a session that is there; operations on
    one session leave the others alone, and the state kept for sessions.  A run does what the crew
    does on a context made of the ids, the texts of the turn, a line each, and its attachments,
    whatever the service holds. -/
theorem history_append_only (store : StateStore) (operations : List (Operation σ)) (s : σ) :
    let history := (performAll { state := store } operations s).1.1
    let service := (performAll { state := store } operations s).1.2
    (history.map Prod.fst = operations ∧
      (∀ id, service.get? id = reference history id) ∧
      (∀ before x after, history = before ++ x :: after → Told (reference before) x.1 x.2) ∧
      (∀ before after, history = before ++ after → ∀ id session,
        reference before id = some session →
          ∃ turns, service.get? id = some (session.extend turns)) ∧
      service.state = store) ∧
    ∀ service : SessionService,
      (∀ (operation : Operation σ) (s : σ),
        (service.perform operation s).1.2.state = service.state ∧
          ∀ id, operation.id ≠ id →
            (service.perform operation s).1.2.get? id = service.get? id) ∧
      (∀ id turn, service.get? id = none → service.append id turn = (false, service)) ∧
      ∀ (crew : Crew σ) (id userId : String) (turn : Turn) (s : σ),
        let run := crew.run
          { sessionId := id
            userId
            request := "\n".intercalate (turn.parts.filterMap Part.text?)
            attachments := turn.parts.filterMap Part.attachment? } s
        (service.runTurn crew id userId turn s).1.1 = run.1 ∧
          (service.runTurn crew id userId turn s).2 = run.2 := by
  intro history service
  have hstart : Reflects ([] : History σ) { state := store } := reflects_start store
  have hend : Reflects history service := hstart.performAll operations s
  refine ⟨⟨operations_performAll _ operations s, hend.get?_eq, ?_, ?_,
    state_performAll _ operations s⟩, fun service => ⟨?_, ?_, ?_⟩⟩
  · intro before x after hsplit
    exact hstart.told operations s hsplit
  · intro before after hsplit id session hsession
    rw [hend.get?_eq, hsplit]
    exact reference_append after hsession
  · intro operation s
    refine ⟨state_perform service operation s, fun id hid => ?_⟩
    rw [get?_perform, if_neg hid]
  · intro id turn hnone
    simp [append, hnone]
  · intro crew id userId turn s
    exact ⟨rfl, rfl⟩

/-- A turn with two texts and an attachment. -/
def mixedTurn : Turn := ⟨"user", [.text "What is", .attachment ⟨none, [1]⟩, .text "2 + 2?"]⟩

/-- A crew whose provider never answers. -/
def silentCrew : Crew Consultations :=
  Crew.assemble .sequential 1 fun role => (Script.play []).agent ⟨0, 1, 1⟩ role

/-- A turn is not added before there is a session; a session stays with the user that it was first
    created for, and a run that fails leaves the turn of the user alone. -/
theorem history_append_only_mixed :
    let operations : List (Operation Consultations) :=
      [.append "s" mixedTurn, .create "u" "s", .run silentCrew "s" "v" mixedTurn]
    let service := (performAll {} operations []).1.2
    service.get? "s" = some { id := "s", userId := "u", turns := [mixedTurn] } ∧
      service.append "t" mixedTurn = (false, service) ∧
      (service.runTurn silentCrew "s" "v" mixedTurn []).1.1 = (silentCrew.run
        { sessionId := "s", userId := "v", request := "What is\n2 + 2?"
          attachments := [⟨none, [1]⟩] } []).1 := by
  intro operations service
  obtain ⟨⟨-, hget, -⟩, hservice⟩ := history_append_only {} operations []
  obtain ⟨-, hmissing, hrun⟩ := hservice service
  refine ⟨?_, hmissing "t" mixedTurn ?_, (hrun silentCrew "s" "v" mixedTurn []).1⟩
  · rw [hget]
    decide +kernel
  · rw [hget]
    decide +kernel

end SessionService

end MathAgents
