import MathAgents.Proofs.Outcome
import MathAgents.Run.Crew

namespace MathAgents

/-!
# What the rounds of a led run do

A run that the controller leads is a sequence of rounds.  This file says what an invocation of an
agent, a tool call and a round come to, case by case, so that no later proof has to look into them
again.

* `Context.SameTurn` — what stays the same in a context while a run works on its turn.
* `Progress.invoke_eq` — an invocation changes nothing but the audit trail, by one entry.
* `DelegatingCrew.ofProviders` — the crews that are run, with any provider for each agent.
* `DelegatingCrew.called_callAgent`, `DelegatingCrew.responds_respond` — what a call of an agent and
  a tool call come to; `DelegatingCrew.Called.eq` and `DelegatingCrew.Responds.eq` say that they
  come to nothing else.
* `DelegatingCrew.Reaches`, `DelegatingCrew.Calls` — the starts of the rounds of a run, and the tool
  calls of its controller.
* `DelegatingCrew.Calls.run_eq` — from a tool call on, the run carries the call out and goes on.
* `DelegatingCrew.ends_run` — the ways in which a run ends.
-/

variable {σ α : Type}

/-! ### Trails that grow at their end -/

/-- An element that splits a list with a last element is that last element, or it is found before
    it. -/
theorem split_append_singleton {xs before after : List α} {x y : α}
    (h : xs ++ [x] = before ++ y :: after) :
    (before = xs ∧ y = x ∧ after = []) ∨
      ∃ later, after = later ++ [x] ∧ xs = before ++ y :: later := by
  rcases List.eq_nil_or_concat after with rfl | ⟨later, z, rfl⟩
  · obtain ⟨rfl, hlast⟩ := List.append_inj' h rfl
    exact .inl ⟨rfl, (List.head_eq_of_cons_eq hlast).symm, rfl⟩
  · have hcons : xs ++ [x] = (before ++ y :: later) ++ [z] := by simpa using h
    obtain ⟨hfront, hlast⟩ := List.append_inj' hcons rfl
    obtain rfl := List.head_eq_of_cons_eq hlast
    exact .inr ⟨later, by simp, hfront⟩

/-! ### What stays the same in a turn -/

/-- Whether two contexts are of one turn; what was said in it, and which tools were called, may
    differ. -/
structure Context.SameTurn (c c' : Context) : Prop where
  sessionId_eq : c'.sessionId = c.sessionId
  userId_eq : c'.userId = c.userId
  request_eq : c'.request = c.request
  attachments_eq : c'.attachments = c.attachments

theorem Context.SameTurn.trans {c c' c'' : Context} (h : c.SameTurn c') (h' : c'.SameTurn c'') :
    c.SameTurn c'' :=
  ⟨h'.sessionId_eq.trans h.sessionId_eq, h'.userId_eq.trans h.userId_eq,
    h'.request_eq.trans h.request_eq, h'.attachments_eq.trans h.attachments_eq⟩

/-! ### Invocations -/

/-- The entry that an invocation adds to an audit trail. -/
def AuditTrail.entryOf (t : AuditTrail) (agent : Agent σ) (c : Context) :
    Except AgentError Output → AuditEntry
  | .ok output => ⟨t.length + 1, agent.name, c.snapshot, output.value, true⟩
  | .error e => ⟨t.length + 1, agent.name, c.snapshot, e.payload, false⟩

@[simp] theorem AuditTrail.entryOf_agent (t : AuditTrail) (agent : Agent σ) (c : Context)
    (outcome : Except AgentError Output) : (t.entryOf agent c outcome).agent = agent.name := by
  cases outcome <;> rfl

@[simp] theorem AuditTrail.entryOf_success (t : AuditTrail) (agent : Agent σ) (c : Context)
    (outcome : Except AgentError Output) : (t.entryOf agent c outcome).success = outcome.isOk := by
  cases outcome <;> rfl

@[simp] theorem AuditTrail.entryOf_snapshot (t : AuditTrail) (agent : Agent σ) (c : Context)
    (outcome : Except AgentError Output) : (t.entryOf agent c outcome).snapshot = c.snapshot := by
  cases outcome <;> rfl

/-- The progress when an invocation has been entered into the audit trail. -/
def Progress.recorded (p : Progress) (agent : Agent σ) (c : Context)
    (outcome : Except AgentError Output) : Progress :=
  { p with audit := p.audit ++ [p.audit.entryOf agent c outcome] }

/-- An invocation has the outcome of the agent, and it is entered into the audit trail. -/
theorem Progress.invoke_eq (p : Progress) (agent : Agent σ) (c : Context) (s : σ) :
    p.invoke agent c s =
      (((agent.invoke c s).1, p.recorded agent c (agent.invoke c s).1), (agent.invoke c s).2) := by
  unfold Progress.invoke
  rw [bind_apply]
  cases h : (agent.invoke c s).1 <;> rfl

namespace DelegatingCrew

/-! ### Crews -/

/-- Whether every agent of a crew has the role that it plays. -/
structure WellCast (crew : DelegatingCrew σ) : Prop where
  controller : crew.controller.role = .controller
  math : crew.math.role = .math
  poet : crew.poet.role = .poet
  narrator : crew.narrator.role = .narrator

/-- A crew of agents over providers of their own, with settings of their own. -/
def ofProviders (maxRounds : Nat) (settings : Role → CrewSettings)
    (provider : Role → Chat.Provider σ) : DelegatingCrew σ :=
  let agent (role : Role) := Crew.agentFor (settings role) (provider role) role
  ⟨agent .controller, agent .math, agent .poet, agent .narrator, maxRounds⟩

/-- The crew of a run is one of these, with the same provider for all its agents. -/
theorem build_toolDriven (settings : CrewSettings) (provider : Chat.Provider σ) :
    Crew.build .toolDriven settings provider =
      .delegating (ofProviders settings.maxRounds (fun _ => settings) (fun _ => provider)) := rfl

theorem wellCast_ofProviders (maxRounds : Nat) (settings : Role → CrewSettings)
    (provider : Role → Chat.Provider σ) : (ofProviders maxRounds settings provider).WellCast :=
  ⟨rfl, rfl, rfl, rfl⟩

/-! ### Calls of agents -/

/-- What it comes to when the controller calls an agent: the response, whether the agent succeeded,
    the progress and the state. -/
inductive Called (agent : Agent σ) (r : ToolRequest) (p : Progress) (s : σ) :
    ToolResponse → Bool → Progress → σ → Prop
  /-- There is no request to hand on, so nothing happens. -/
  | unasked {e : ToolError} (hr : r.argument Agent.requestArgument = .error e) :
      Called agent r p s (refuse r.name Expr.ErrorKind.validation.name e.message) false p s
  | failed {request : String} {e : AgentError} {s' : σ}
      (hr : r.argument Agent.requestArgument = .ok request)
      (hi : agent.invoke (p.context.forTool request) s = (.error e, s')) :
      Called agent r p s ⟨r.name, e.payload⟩ false
        (p.recorded agent (p.context.forTool request) (.error e)) s'
  | succeeded {request : String} {output : Output} {s' : σ}
      (hr : r.argument Agent.requestArgument = .ok request)
      (hi : agent.invoke (p.context.forTool request) s = (.ok output, s')) :
      Called agent r p s (.ofText r.name output.text) true
        (((p.recorded agent (p.context.forTool request) (.ok output)).tell agent.name
          output.text).contribute agent.name output.text) s'

variable {agent : Agent σ} {r : ToolRequest} {s s' : σ} {response : ToolResponse} {ok : Bool}

/-- A call of an agent comes to one of these. -/
theorem called_callAgent (agent : Agent σ) (r : ToolRequest) (p : Progress) (s : σ) :
    Called agent r p s (callAgent agent r p s).1.1 (callAgent agent r p s).1.2.1
      (callAgent agent r p s).1.2.2 (callAgent agent r p s).2 := by
  unfold callAgent
  cases hr : r.argument Agent.requestArgument with
  | error e => exact .unasked hr
  | ok request =>
    simp only [bind_apply, Progress.invoke_eq]
    cases hi : agent.invoke (p.context.forTool request) s with
    | mk outcome s' =>
      cases outcome with
      | error e => exact .failed hr hi
      | ok output => exact .succeeded hr hi

/-- A call of an agent comes to one of these only. -/
theorem Called.eq {p q : Progress} (h : Called agent r p s response ok q s') :
    callAgent agent r p s = ((response, ok, q), s') := by
  unfold callAgent
  cases h with
  | unasked hr =>
    rw [hr]
    rfl
  | failed hr hi | succeeded hr hi =>
    rw [hr]
    simp only [bind_apply, Progress.invoke_eq, hi]
    rfl

/-- A called agent adds at most its own entry to the audit trail, and it adds one if it succeeds. -/
theorem Called.audit {p q : Progress} (h : Called agent r p s response ok q s') :
    (q.audit = p.audit ∧ ok = false) ∨
      ∃ e, q.audit = p.audit ++ [e] ∧ e.agent = agent.name ∧ e.success = ok := by
  cases h with
  | unasked => exact .inl ⟨rfl, rfl⟩
  | failed => exact .inr ⟨_, rfl, rfl, rfl⟩
  | succeeded => exact .inr ⟨_, rfl, rfl, rfl⟩

/-! ### Tool calls -/

/-- What a tool call of the controller comes to: the response, the progress and the state. -/
inductive Responds (crew : DelegatingCrew σ) (r : ToolRequest) (p : LedProgress) (s : σ) :
    ToolResponse → LedProgress → σ → Prop
  | math {response : ToolResponse} {ok : Bool} {q : Progress} {s' : σ}
      (hr : r.name = Role.math.agentName)
      (h : Called crew.math r p.toProgress s response ok q s') :
      Responds crew r p s response ⟨q, .mathCalled ok⟩ s'
  | poet {response : ToolResponse} {ok : Bool} {q : Progress} {s' : σ}
      (hr : r.name = Role.poet.agentName) (hp : p.phase.allowsPoetry)
      (h : Called crew.poet r p.toProgress s response ok q s') :
      Responds crew r p s response ⟨q, if ok then .poetCalled else p.phase⟩ s'
  | early (hr : r.name = Role.poet.agentName) (hp : ¬ p.phase.allowsPoetry) :
      Responds crew r p s (refuse r.name "OrderingViolation" orderingMessage) p s
  | transfer (hr : r.name = Agent.transferTool)
      (ht : r.argument? Agent.targetArgument = some Role.narrator.agentName) :
      Responds crew r p s
        ⟨r.name, Json.obj [("transferred_to", .str Role.narrator.agentName)]⟩
        { p with phase := .handedOver } s
  | misdirected (hr : r.name = Agent.transferTool)
      (ht : r.argument? Agent.targetArgument ≠ some Role.narrator.agentName) :
      Responds crew r p s
        (refuse r.name "UnknownAgent"
          s!"Transfers are only allowed to {Role.narrator.agentName}.") p s
  | unknown (hm : r.name ≠ Role.math.agentName) (hp : r.name ≠ Role.poet.agentName)
      (ht : r.name ≠ Agent.transferTool) :
      Responds crew r p s (refuse r.name "UnknownTool" (ToolError.unknownTool r.name).message) p s

/-- A tool call comes to one of these. -/
theorem responds_respond (crew : DelegatingCrew σ) (r : ToolRequest) (p : LedProgress) (s : σ) :
    Responds crew r p s (crew.respond r p s).1.1 (crew.respond r p s).1.2
      (crew.respond r p s).2 := by
  unfold respond
  by_cases hm : r.name = Role.math.agentName
  · rw [if_pos hm]
    exact .math hm (called_callAgent crew.math r p.toProgress s)
  rw [if_neg hm]
  by_cases hp : r.name = Role.poet.agentName
  · rw [if_pos hp]
    by_cases ha : p.phase.allowsPoetry
    · rw [if_pos ha]
      exact .poet hp ha (called_callAgent crew.poet r p.toProgress s)
    · rw [if_neg ha]
      exact .early hp ha
  rw [if_neg hp]
  by_cases ht : r.name = Agent.transferTool
  · rw [if_pos ht]
    by_cases ha : r.argument? Agent.targetArgument = some Role.narrator.agentName
    · rw [if_pos ha]
      exact .transfer ht ha
    · rw [if_neg ha]
      exact .misdirected ht ha
  · rw [if_neg ht]
    exact .unknown hm hp ht

/-- A tool call comes to one of these only. -/
theorem Responds.eq {p q : LedProgress} (h : Responds crew r p s response q s') :
    crew.respond r p s = ((response, q), s') := by
  unfold respond
  cases h with
  | math hr h =>
    rw [if_pos hr, bind_apply, h.eq]
    rfl
  | poet hr hp h =>
    rw [if_neg (by rw [hr]; decide), if_pos hr, if_pos hp, bind_apply, h.eq]
    rfl
  | early hr hp =>
    rw [if_neg (by rw [hr]; decide), if_pos hr, if_neg hp]
    rfl
  | transfer hr ht =>
    rw [if_neg (by rw [hr]; decide), if_neg (by rw [hr]; decide), if_pos hr, if_pos ht]
    rfl
  | misdirected hr ht =>
    rw [if_neg (by rw [hr]; decide), if_neg (by rw [hr]; decide), if_pos hr, if_neg ht]
    rfl
  | unknown hm hp ht =>
    rw [if_neg hm, if_neg hp, if_neg ht]
    rfl

/-- The progress when a tool call has been shown to the user. -/
def announced (p : LedProgress) (r : ToolRequest) : LedProgress :=
  { p with toProgress := p.toProgress.emit (.toolCall r.name (.obj r.arguments)) }

/-- A called agent works for the same turn. -/
theorem Called.sameTurn {p q : Progress} (h : Called agent r p s response ok q s') :
    p.context.SameTurn q.context := by
  cases h <;> exact ⟨rfl, rfl, rfl, rfl⟩

/-- A tool call belongs to the same turn. -/
theorem Responds.sameTurn {p q : LedProgress} (h : Responds crew r p s response q s') :
    p.context.SameTurn q.context := by
  cases h with
  | math _ hcall | poet _ _ hcall => exact hcall.sameTurn
  | early | transfer | misdirected | unknown => exact ⟨rfl, rfl, rfl, rfl⟩

/-- A called agent changes no exchange. -/
theorem Called.exchanges {p q : Progress} (h : Called agent r p s response ok q s') :
    q.context.exchanges = p.context.exchanges := by
  cases h <;> rfl

/-- A tool call changes no exchange before it is answered. -/
theorem Responds.exchanges {p q : LedProgress} (h : Responds crew r p s response q s') :
    q.context.exchanges = p.context.exchanges := by
  cases h with
  | math _ hcall | poet _ _ hcall => exact hcall.exchanges
  | early | transfer | misdirected | unknown => rfl

/-- A tool call is shown to the user, then carried out, and then answered. -/
theorem handleCall_eq (crew : DelegatingCrew σ) (r : ToolRequest) (p : LedProgress) (s : σ) :
    crew.handleCall r p s =
      (answered (crew.respond r (announced p r) s).1.2 r (crew.respond r (announced p r) s).1.1,
        (crew.respond r (announced p r) s).2) := rfl

/-- The exchange that records a call which has been answered. -/
theorem handleCall_exchanges (crew : DelegatingCrew σ) (r : ToolRequest) (p : LedProgress) (s : σ) :
    (crew.handleCall r p s).1.context.exchanges =
      p.context.exchanges ++ [⟨s!"call_{p.context.exchanges.length + 1}", r,
        (crew.respond r (announced p r) s).1.1⟩] := by
  have hkept : (crew.respond r (announced p r) s).1.2.context.exchanges = p.context.exchanges :=
    (responds_respond crew r (announced p r) s).exchanges
  rw [handleCall_eq, answered]
  simp only [hkept]

/-- A note of the controller is not entered into the audit trail. -/
@[simp] theorem handOver_audit (name note : String) (p : LedProgress) :
    (handOver name note p).audit = p.audit := by
  unfold handOver
  split <;> rfl

/-! ### Rounds -/

/-- The progress when the controller has decided. -/
def decided (crew : DelegatingCrew σ) (p : LedProgress) (output : Output) : LedProgress :=
  { p with toProgress := p.toProgress.recorded crew.controller p.context (.ok output) }

/-- The progress and the state in which a round of a run starts, where `n` rounds went before. -/
inductive Reaches (crew : DelegatingCrew σ) (context : Context) (s₀ : σ) :
    (n : Nat) → LedProgress → σ → Prop
  | start : Reaches crew context s₀ 0 { context } s₀
  | round {n : Nat} {p p' : LedProgress} {s s' s'' : σ} {output : Output}
      (h : Reaches crew context s₀ n p s) (hn : n < crew.maxRounds)
      (hi : crew.controller.invoke p.context s = (.ok output, s'))
      (hf : crew.follow output (crew.decided p output) s' = (p', s''))
      (hp : p'.phase ≠ .handedOver) : Reaches crew context s₀ (n + 1) p' s''

/-- A round starts before the turn has been handed over. -/
theorem Reaches.phase_ne {crew : DelegatingCrew σ} {context : Context} {s₀ : σ} {n : Nat}
    {p : LedProgress} (h : Reaches crew context s₀ n p s) : p.phase ≠ .handedOver := by
  cases h with
  | start => simp
  | round _ _ _ _ hp => exact hp

/-- A tool call that does not hand over leads to the next round. -/
theorem Reaches.call {crew : DelegatingCrew σ} {context : Context} {s₀ s'' : σ} {n : Nat}
    {p q : LedProgress} (h : Reaches crew context s₀ n p s) (hn : n < crew.maxRounds)
    (hi : crew.controller.invoke p.context s = (.ok (.toolCall r), s'))
    (hr : Responds crew r (announced (crew.decided p (.toolCall r)) r) s' response q s'')
    (hq : q.phase ≠ .handedOver) : Reaches crew context s₀ (n + 1) (answered q r response) s'' := by
  refine .round h hn hi ?_ hq
  rw [follow, handleCall_eq, hr.eq]

/-- The tool calls that the controller decides on in a run, with the progress and the state in which
    they are carried out. -/
inductive Calls (crew : DelegatingCrew σ) (context : Context) (s₀ : σ) :
    ToolRequest → LedProgress → σ → Prop
  | call {n : Nat} {p : LedProgress} {s s' : σ} {r : ToolRequest}
      (h : Reaches crew context s₀ n p s) (hn : n < crew.maxRounds)
      (hi : crew.controller.invoke p.context s = (.ok (.toolCall r), s')) :
      Calls crew context s₀ r (crew.decided p (.toolCall r)) s'

variable {crew : DelegatingCrew σ} {context : Context} {s₀ s'' : σ} {p p' : LedProgress}
  {output : Output} {k n : Nat}

/-- A round ends the run if the controller fails. -/
theorem runRounds_of_error {e : AgentError}
    (hi : crew.controller.invoke p.context s = (.error e, s')) :
    crew.runRounds (k + 1) p s =
      ((p.toProgress.recorded crew.controller p.context (.error e)).fail
        [s!"Controller failed: {e.message}"] (e.toTurnError crew.controller.name), s') := by
  unfold runRounds
  rw [bind_apply, Progress.invoke_eq, hi]
  rfl

/-- What follows a round: the narrator if the turn has been handed over, and else up to `k` more
    rounds. -/
def afterRound (crew : DelegatingCrew σ) (k : Nat) (p : LedProgress) : StateM σ Ending :=
  if p.phase = .handedOver then crew.narrate p.toProgress else crew.runRounds k p

theorem afterRound_of_handedOver (hp : p.phase = .handedOver) :
    crew.afterRound k p = crew.narrate p.toProgress := if_pos hp

theorem afterRound_of_ne (hp : p.phase ≠ .handedOver) :
    crew.afterRound k p = crew.runRounds k p := if_neg hp

/-- A round in which the controller decides carries out the decision. -/
theorem runRounds_of_ok (hi : crew.controller.invoke p.context s = (.ok output, s')) :
    crew.runRounds (k + 1) p s =
      (crew.follow output (crew.decided p output) >>= crew.afterRound k) s' := by
  rw [runRounds, bind_apply, Progress.invoke_eq, hi]
  rfl

/-- From the start of a round on, the run is what the rounds that are left come to. -/
theorem Reaches.run_eq (h : Reaches crew context s₀ n p s) :
    crew.run context s₀ = crew.runRounds (crew.maxRounds - n) p s := by
  induction h with
  | start => rfl
  | @round n p p' s s' s'' output _ hn hi hf hp ih =>
    have hleft : crew.maxRounds - n = crew.maxRounds - (n + 1) + 1 := by omega
    rw [ih, hleft, runRounds_of_ok hi, bind_apply, hf, afterRound_of_ne hp]

/-- From a tool call on, the run carries out the call, and goes on as after every round. -/
theorem Calls.run_eq (h : Calls crew context s₀ r p s) :
    ∃ k, crew.run context s₀ = (crew.handleCall r p >>= crew.afterRound k) s := by
  cases h with
  | @call n p s s' r h hn hi =>
    have hleft : crew.maxRounds - n = crew.maxRounds - (n + 1) + 1 := by omega
    refine ⟨crew.maxRounds - (n + 1), ?_⟩
    rw [h.run_eq, hleft, runRounds_of_ok hi]
    rfl

/-! ### Endings -/

/-- The ways in which a run ends: its rounds are over, the controller fails, or the narrator gives
    the answer. -/
inductive Ends (crew : DelegatingCrew σ) (context : Context) (s₀ : σ) : Ending → σ → Prop
  | exhausted {p : LedProgress} {s : σ} (h : Reaches crew context s₀ crew.maxRounds p s) :
      Ends crew context s₀
        (p.toProgress.fail [(TurnError.roundsExceeded crew.maxRounds).message]
          (.roundsExceeded crew.maxRounds)) s
  | failed {n : Nat} {p : LedProgress} {s s' : σ} {e : AgentError}
      (h : Reaches crew context s₀ n p s) (hn : n < crew.maxRounds)
      (hi : crew.controller.invoke p.context s = (.error e, s')) :
      Ends crew context s₀
        ((p.toProgress.recorded crew.controller p.context (.error e)).fail
          [s!"Controller failed: {e.message}"] (e.toTurnError crew.controller.name)) s'
  | narrated {n : Nat} {p p' : LedProgress} {s s' s'' : σ} {output : Output}
      (h : Reaches crew context s₀ n p s) (hn : n < crew.maxRounds)
      (hi : crew.controller.invoke p.context s = (.ok output, s'))
      (hf : crew.follow output (crew.decided p output) s' = (p', s''))
      (hp : p'.phase = .handedOver) :
      Ends crew context s₀ (crew.narrate p'.toProgress s'').1 (crew.narrate p'.toProgress s'').2

/-- The rounds that are left at the start of a round end the run in one of these ways. -/
theorem Reaches.ends (h : Reaches crew context s₀ n p s) (hk : n + k = crew.maxRounds) :
    Ends crew context s₀ (crew.runRounds k p s).1 (crew.runRounds k p s).2 := by
  -- by induction on the rounds that are left: one that goes on reaches the start of the next
  induction k generalizing n p s with
  | zero =>
    obtain rfl : n = crew.maxRounds := hk
    exact .exhausted h
  | succ k ih =>
    have hn : n < crew.maxRounds := by omega
    cases hi : crew.controller.invoke p.context s with
    | mk outcome s' =>
      cases outcome with
      | error e =>
        rw [runRounds_of_error hi]
        exact .failed h hn hi
      | ok output =>
        cases hf : crew.follow output (crew.decided p output) s' with
        | mk p' s'' =>
          rw [runRounds_of_ok hi, bind_apply, hf]
          by_cases hp : p'.phase = .handedOver
          · rw [afterRound_of_handedOver hp]
            exact .narrated h hn hi hf hp
          · rw [afterRound_of_ne hp]
            exact ih (.round h hn hi hf hp) (by omega)

/-- **Endings.** Every run ends in one of these ways. -/
theorem ends_run (crew : DelegatingCrew σ) (context : Context) (s₀ : σ) :
    Ends crew context s₀ (crew.run context s₀).1 (crew.run context s₀).2 :=
  Reaches.ends .start (Nat.zero_add _)

/-- The narrator's text is shown, is the last output, and is the answer. -/
theorem narrate_of_ok {p : Progress} (hi : crew.narrator.invoke p.context s = (.ok output, s')) :
    crew.narrate p s =
      ((((p.recorded crew.narrator p.context (.ok output)).emit
        (.message crew.narrator.name output.text)).contribute crew.narrator.name
          output.text).succeed output.text, s') := by
  rw [narrate, bind_apply, Progress.invoke_eq, hi]
  rfl

/-- A failure of the narrator is the failure of the run. -/
theorem narrate_of_error {p : Progress} {e : AgentError}
    (hi : crew.narrator.invoke p.context s = (.error e, s')) :
    crew.narrate p s =
      ((p.recorded crew.narrator p.context (.error e)).fail [] (e.toTurnError crew.narrator.name),
        s') := by
  rw [narrate, bind_apply, Progress.invoke_eq, hi]
  rfl

/-- The narrator is entered into the audit trail, whether or not it succeeds. -/
theorem narrate_audit (crew : DelegatingCrew σ) (p : Progress) (s : σ) :
    ∃ e, (crew.narrate p s).1.progress.audit = p.audit ++ [e] ∧ e.agent = crew.narrator.name := by
  cases hi : crew.narrator.invoke p.context s with
  | mk outcome s' =>
    cases outcome with
    | error e =>
      rw [narrate_of_error hi]
      exact ⟨_, rfl, rfl⟩
    | ok output =>
      rw [narrate_of_ok hi]
      exact ⟨_, rfl, rfl⟩

end DelegatingCrew

end MathAgents
