import MathAgents.Proofs.Run.Handover
import MathAgents.Proofs.Run.PoetryRefusal

namespace MathAgents.DelegatingCrew

/-!
# What a tool call of the controller leaves alone

A tool call of the controller is refused, or it hands the turn over, or it reaches an agent.  Every
call is shown to the user and kept as an exchange.  Beyond that, a call that is refused changes no
results, and neither does the handover; a call that reaches an agent is entered into the audit
trail, and only if the agent succeeds, what it says is added to the results.

* `DelegatingCrew.Refuses`, `DelegatingCrew.Admits` — the calls that are refused, and the calls that
  may reach an agent.
* `DelegatingCrew.Refuses.respond_eq` — a refusal does not depend on the agents of the crew.
* `DelegatingCrew.Admits.respond_eq` — a call that reaches an agent comes to what the agent does.
* `DelegatingCrew.Reaches.sameTurn` — a run keeps to its turn.
* `DelegatingCrew.SameResults` — what a refusal and a handover leave alone.
* `DelegatingCrew.calls_keep_results` — all tool calls of a run.
-/

variable {σ : Type} {crew : DelegatingCrew σ} {agent : Agent σ} {r : ToolRequest} {phase : Phase}
  {p p' q : LedProgress} {s s' s₀ : σ} {response : ToolResponse} {output : Output}
  {context : Context} {n : Nat}

/-! ### Three kinds of tool calls -/

/-- Whether a tool call gives a text for the request. -/
def HandsOn (r : ToolRequest) (request : String) : Prop :=
  r.arguments.get? Agent.requestArgument = some (.str request)

/-- The agent that a tool call asks for and may have: the poet only when the phase allows it. -/
inductive Admits (crew : DelegatingCrew σ) (r : ToolRequest) (phase : Phase) : Agent σ → Prop
  | math (hr : r.name = Role.math.agentName) : Admits crew r phase crew.math
  | poet (hr : r.name = Role.poet.agentName) (hp : phase.allowsPoetry) :
      Admits crew r phase crew.poet

/-- Whether a tool call is refused. -/
inductive Refuses (r : ToolRequest) (phase : Phase) : Prop
  /-- There is no such tool. -/
  | unknown (hm : r.name ≠ Role.math.agentName) (hp : r.name ≠ Role.poet.agentName)
      (ht : r.name ≠ Agent.transferTool)
  /-- The turn is transferred to another agent than the narrator. -/
  | misdirected (hr : r.name = Agent.transferTool)
      (ht : r.argument? Agent.targetArgument ≠ some Role.narrator.agentName)
  /-- The poet is called too early. -/
  | early (hr : r.name = Role.poet.agentName) (hp : ¬ phase.allowsPoetry)
  /-- An agent is called without a text for its request. -/
  | unasked (hr : r.name = Role.math.agentName ∨ r.name = Role.poet.agentName)
      (hn : ¬ ∃ request, HandsOn r request)

/-- A tool call is refused, or it hands over, or it reaches an agent. -/
theorem refuses_or_handsOver_or_admits (crew : DelegatingCrew σ) (r : ToolRequest)
    (phase : Phase) : Refuses r phase ∨ (Output.toolCall r).HandsOver ∨
      ∃ agent request, crew.Admits r phase agent ∧ HandsOn r request := by
  by_cases hm : r.name = Role.math.agentName
  · by_cases hn : ∃ request, HandsOn r request
    · obtain ⟨request, hrequest⟩ := hn
      exact .inr (.inr ⟨_, request, .math hm, hrequest⟩)
    · exact .inl (.unasked (.inl hm) hn)
  by_cases hp : r.name = Role.poet.agentName
  · by_cases ha : phase.allowsPoetry
    · by_cases hn : ∃ request, HandsOn r request
      · obtain ⟨request, hrequest⟩ := hn
        exact .inr (.inr ⟨_, request, .poet hp ha, hrequest⟩)
      · exact .inl (.unasked (.inr hp) hn)
    · exact .inl (.early hp ha)
  by_cases ht : r.name = Agent.transferTool
  · by_cases hn : r.argument? Agent.targetArgument = some Role.narrator.agentName
    · exact .inr (.inl ⟨ht, hn⟩)
    · exact .inl (.misdirected ht hn)
  · exact .inl (.unknown hm hp ht)

/-- A refusal leaves the results and the state alone, and it is the same for every crew. -/
theorem Refuses.respond_eq (h : Refuses r p.phase) : ∃ kind message q,
    q.toProgress = p.toProgress ∧
      ∀ {τ : Type} (crew : DelegatingCrew τ) (s : τ),
        crew.respond r p s = ((refuse r.name kind message, q), s) := by
  cases h with
  | unknown hm hp ht => exact ⟨_, _, p, rfl, fun _ _ => (Responds.unknown hm hp ht).eq⟩
  | misdirected hr ht => exact ⟨_, _, p, rfl, fun _ _ => (Responds.misdirected hr ht).eq⟩
  | early hr hp => exact ⟨_, _, p, rfl, fun _ _ => (Responds.early hr hp).eq⟩
  | unasked hr hn =>
    have hmissing := ToolRequest.argument_eq_error hn
    rcases hr with hm | hp
    · exact ⟨_, _, ⟨p.toProgress, .mathCalled false⟩, rfl,
        fun _ _ => (Responds.math hm (.unasked hmissing)).eq⟩
    · by_cases ha : p.phase.allowsPoetry
      · exact ⟨_, _, p, rfl, fun _ _ => (Responds.poet hp ha (.unasked hmissing)).eq⟩
      · exact ⟨_, _, p, rfl, fun _ _ => (Responds.early hp ha).eq⟩

/-- A tool call that may have an agent comes to a call of that agent. -/
theorem Admits.respond_eq {ok : Bool} {q : Progress} (ha : crew.Admits r p.phase agent)
    (h : Called agent r p.toProgress s response ok q s') :
    ∃ phase, crew.respond r p s = ((response, ⟨q, phase⟩), s') := by
  cases ha with
  | math hr => exact ⟨_, (Responds.math hr h).eq⟩
  | poet hr hp => exact ⟨_, (Responds.poet hr hp h).eq⟩

/-! ### A run keeps to its turn -/

/-- Carrying out a tool call keeps to the turn. -/
theorem handleCall_sameTurn (crew : DelegatingCrew σ) (r : ToolRequest) (p : LedProgress) (s : σ) :
    p.context.SameTurn (crew.handleCall r p s).1.context := by
  obtain ⟨hsession, huser, hrequest, hattachments⟩ :=
    (responds_respond crew r (announced p r) s).sameTurn
  exact ⟨hsession, huser, hrequest, hattachments⟩

/-- Carrying out a decision keeps to the turn. -/
theorem follow_sameTurn (hf : crew.follow output p s = (p', s')) :
    p.context.SameTurn p'.context := by
  cases output with
  | toolCall r =>
    have hhandled : crew.handleCall r p s = (p', s') := hf
    have hturn := crew.handleCall_sameTurn r p s
    rwa [hhandled] at hturn
  | delegate note | reply note =>
    obtain rfl : handOver crew.controller.name note p = p' := congrArg Prod.fst hf
    unfold handOver
    split <;> exact ⟨rfl, rfl, rfl, rfl⟩

/-- **Rounds.** Every round of a run belongs to the turn of the run. -/
theorem Reaches.sameTurn (h : Reaches crew context s₀ n p s) : context.SameTurn p.context := by
  induction h with
  | start => exact ⟨rfl, rfl, rfl, rfl⟩
  | round _ _ _ hf _ ih =>
    have hturn := follow_sameTurn hf
    exact ih.trans hturn

/-! ### All tool calls -/

/-- Whether a run has the same results as before: the audit trail, what was said, and what was
    contributed to the answer. -/
structure SameResults (p q : Progress) : Prop where
  audit_eq : q.audit = p.audit
  entries_eq : q.context.entries = p.context.entries
  outputs_eq : q.outputs = p.outputs

/-- A tool call whose response is known is answered with it. -/
theorem handleCall_of_respond (h : crew.respond r (announced p r) s = ((response, q), s')) :
    crew.handleCall r p s = (answered q r response, s') := by
  rw [handleCall_eq, h]

/-- A refusal is answered with a failure, and it changes no results; it is the same for every
    crew. -/
theorem Refuses.handleCall_eq (h : Refuses r p.phase) : ∃ kind message p',
    SameResults p.toProgress p'.toProgress ∧
      ∀ {τ : Type} (crew : DelegatingCrew τ) (s : τ),
        (crew.respond r (announced p r) s).1.1 = refuse r.name kind message ∧
          crew.handleCall r p s = (p', s) := by
  -- announcing the call and answering it add events and an exchange, which are no results
  obtain ⟨kind, message, q, hq, hrespond⟩ := Refuses.respond_eq (p := announced p r) h
  have hresults : SameResults q.toProgress
      (answered q r (refuse r.name kind message)).toProgress := ⟨rfl, rfl, rfl⟩
  rw [hq] at hresults
  refine ⟨kind, message, _, ⟨hresults.audit_eq, hresults.entries_eq, hresults.outputs_eq⟩,
    fun crew s => ⟨?_, handleCall_of_respond (hrespond crew s)⟩⟩
  rw [hrespond crew s]

/-- A handover changes no results. -/
theorem handleCall_of_handsOver (crew : DelegatingCrew σ) (s : σ)
    (h : (Output.toolCall r).HandsOver) :
    (crew.handleCall r p s).2 = s ∧
      SameResults p.toProgress (crew.handleCall r p s).1.toProgress := by
  obtain ⟨hkept, hstate⟩ := (responds_respond crew r (announced p r) s).of_handsOver h
  have hresults : SameResults (crew.respond r (announced p r) s).1.2.toProgress
      (crew.handleCall r p s).1.toProgress := ⟨rfl, rfl, rfl⟩
  rw [hkept] at hresults
  exact ⟨hstate, hresults.audit_eq, hresults.entries_eq, hresults.outputs_eq⟩

/-- **Tool calls.** In every run that the controller leads, a tool call adds two events and one
    exchange, and it belongs to the turn of the run.  It is refused, or it hands over, or it reaches
    an agent.  A refusal and a handover leave the results and the state alone, and a refusal is the
    same whatever the agents are.  An agent that is reached works on the entries so far and on the
    text that the call gives for the request, without attachments and exchanges.  If it fails, one
    entry of the audit trail is added, and the response is the payload of the failure; if it
    succeeds, one entry of the trail, one of the context and one output are added, and the response
    is the text. -/
theorem calls_keep_results (h : crew.Calls context s₀ r p s) :
    let p' := (crew.handleCall r p s).1
    let s' := (crew.handleCall r p s).2
    context.SameTurn p'.context ∧
    (Refuses r p.phase ∨ (Output.toolCall r).HandsOver ∨
      ∃ agent request, crew.Admits r p.phase agent ∧ HandsOn r request) ∧
    ∃ response,
      p'.events =
        p.events ++ [.toolCall r.name (.obj r.arguments), .toolResponse r.name response] ∧
      p'.context.exchanges = p.context.exchanges ++
        [⟨s!"call_{p.context.exchanges.length + 1}", r, ⟨r.name, response⟩⟩] ∧
      (Refuses r p.phase →
        s' = s ∧ SameResults p.toProgress p'.toProgress ∧
        (∃ kind message, response = Failure.value ⟨kind, none, message⟩) ∧
        ∀ other : DelegatingCrew σ, other.handleCall r p s = (p', s)) ∧
      ((Output.toolCall r).HandsOver → s' = s ∧ SameResults p.toProgress p'.toProgress) ∧
      ∀ agent request, crew.Admits r p.phase agent → HandsOn r request →
        let given : Context := { p.context with request, attachments := [], exchanges := [] }
        s' = (agent.invoke given s).2 ∧
        (∀ e, (agent.invoke given s).1 = .error e →
          p'.audit = p.audit ++
            [⟨p.audit.length + 1, agent.name, given.snapshot, e.payload, false⟩] ∧
          p'.context.entries = p.context.entries ∧ p'.outputs = p.outputs ∧
          response = e.payload) ∧
        ∀ output, (agent.invoke given s).1 = .ok output →
          p'.audit = p.audit ++
            [⟨p.audit.length + 1, agent.name, given.snapshot, output.value, true⟩] ∧
          p'.context.entries = p.context.entries ++ [⟨agent.name, output.text⟩] ∧
          p'.outputs = p.outputs ++ [⟨agent.name, output.text⟩] ∧
          response = .obj [("result", .str output.text)] := by
  intro p' s'
  have hturn : context.SameTurn p.context := by
    cases h with
    | call hreaches => exact hreaches.sameTurn
  obtain ⟨hevents, hexchanges⟩ := crew.handleCall_shown r p s
  refine ⟨hturn.trans (crew.handleCall_sameTurn r p s), refuses_or_handsOver_or_admits crew r _, _,
    hevents, hexchanges, fun hrefuses => ?_, fun ho => handleCall_of_handsOver crew s ho,
    fun agent request hadmits hrequest => ?_⟩
  · obtain ⟨kind, message, p₁, hresults, hhandled⟩ := hrefuses.handleCall_eq
    obtain ⟨hresponse, hcrew⟩ := hhandled crew s
    have hp' : p' = p₁ := congrArg Prod.fst hcrew
    rw [hp', hresponse]
    exact ⟨congrArg Prod.snd hcrew, hresults, ⟨kind, message, rfl⟩,
      fun other => (hhandled other s).2⟩
  · intro given
    have hasked : r.argument Agent.requestArgument = .ok request :=
      ToolRequest.argument_eq_ok_iff.mpr hrequest
    -- the outcome of the agent decides what the call comes to, and that is what is answered
    cases hi : agent.invoke given s with
    | mk outcome s₁ =>
      cases outcome with
      | error e =>
        have hcalled : Called agent r (announced p r).toProgress s _ _ _ _ := .failed hasked hi
        obtain ⟨phase, hrespond⟩ := Admits.respond_eq (p := announced p r) hadmits hcalled
        have hhandled := handleCall_of_respond hrespond
        refine ⟨congrArg Prod.snd hhandled, fun e' he => ?_, nofun⟩
        obtain rfl : e = e' := Except.error.inj he
        rw [hrespond, show p' = _ from congrArg Prod.fst hhandled]
        exact ⟨rfl, rfl, rfl, rfl⟩
      | ok output =>
        have hcalled : Called agent r (announced p r).toProgress s _ _ _ _ := .succeeded hasked hi
        obtain ⟨phase, hrespond⟩ := Admits.respond_eq (p := announced p r) hadmits hcalled
        have hhandled := handleCall_of_respond hrespond
        refine ⟨congrArg Prod.snd hhandled, nofun, fun output' ho => ?_⟩
        obtain rfl : output = output' := Except.ok.inj ho
        rw [hrespond, show p' = _ from congrArg Prod.fst hhandled]
        exact ⟨rfl, rfl, rfl, rfl⟩

/-- A call of the math agent that succeeds adds one output. -/
theorem calls_keep_results_forgetful : ∃ r p log,
    forgetfulCrew.Calls forgetfulContext [] r p log ∧
      (forgetfulCrew.handleCall r p log).1.outputs =
        p.outputs ++ [⟨Role.math.agentName, "1"⟩] := by
  obtain ⟨asked, hdecision, hname, hrequest⟩ :=
    Agent.exists_decision_plain "1" Role.math.agentName
  obtain ⟨log, hdecided, hlog⟩ := forgetful_decides forgetfulContext [] rfl
  rw [hdecision] at hdecided
  obtain ⟨log', hworks, -⟩ := forgetful_works hlog
  have hcall : forgetfulCrew.Calls forgetfulContext [] asked _ log :=
    .call .start (by decide) hdecided
  obtain ⟨-, -, response, -, -, -, -, hreached⟩ := calls_keep_results hcall
  obtain ⟨-, -, hsucceeded⟩ := hreached forgetfulCrew.math "1" (.math hname)
    (ToolRequest.argument_eq_ok_iff.mp hrequest)
  obtain ⟨-, -, houtputs, -⟩ := hsucceeded (.reply "1") (congrArg Prod.fst hworks)
  exact ⟨asked, _, log, hcall, houtputs⟩

end MathAgents.DelegatingCrew
