import MathAgents.Proofs.Run.Consultation
import MathAgents.Proofs.Run.PoetryOrder

namespace MathAgents

/-!
# When the poet is refused

In a run that the controller leads, a call of the poet is refused until the math agent has
succeeded.  What counts is the latest call of the math agent: one that fails, or one that hands on
no request, takes the permission away again.  So an earlier success may be forgotten.

* `Exchange.MathStands` — the latest call of the math agent was answered with a result.
* `DelegatingCrew.Responds.stands` — a tool call keeps the link between that and the phase.
* `DelegatingCrew.poetry_refused_iff` — when exactly a call of the poet is refused.
* `DelegatingCrew.math_success_forgotten` — a refusal behind a success of the math agent.
-/

/-! ### Failures that are told -/

/-- An error of a provider is found to be a failure when it is told. -/
theorem AgentError.isError_payload (name : String) {e : AgentError}
    (h : ∀ payload, e ≠ .toolFailure payload) : (ToolResponse.mk name e.payload).isError := by
  cases e with
  | toolFailure payload => exact absurd rfl (h payload)
  | invocation | iterationLimit => exact Failure.isError_value name _

namespace Agent

variable {σ : Type} {provider : Chat.Provider σ} {temperature : Float} {s s' : σ} {e : AgentError}

/-- The failures of an agent that asks once are those of its provider. -/
theorem invocation_of_consult {messages : List Chat.Message}
    (h : consult provider messages temperature s = (.error e, s')) :
    ∃ cause, e = .invocation cause := by
  rw [consult_eq] at h
  obtain ⟨cause, -, hcause⟩ := heard_eq_error_iff.mp (congrArg Prod.fst h)
  exact ⟨cause, hcause⟩

/-- Whatever the math agent fails with is found to be a failure when it is told. -/
theorem isError_of_mathLoop {limit remaining : Nat} {messages : List Chat.Message}
    {last : Option ToolResponse} (name : String)
    (h : mathLoop provider temperature limit remaining messages last s = (.error e, s')) :
    (ToolResponse.mk name e.payload).isError := by
  induction remaining generalizing messages last s with
  | zero =>
    obtain rfl := Except.error.inj (congrArg Prod.fst h)
    exact AgentError.isError_payload name (by simp)
  | succ remaining ih =>
    rw [mathLoop, bind_apply] at h
    cases hanswer : (provider (mathQuery temperature messages) s).1 with
    | error cause =>
      rw [hanswer] at h
      obtain rfl := Except.error.inj (congrArg Prod.fst h)
      exact AgentError.isError_payload name (by simp)
    | ok reply =>
      rw [hanswer] at h
      cases reply with
      | toolCall call => exact ih h
      | answer content =>
        have hconclude : concludeMath last content = .error e := congrArg Prod.fst h
        obtain ⟨response, -, herror, rfl⟩ := concludeMath_eq_error_iff.mp hconclude
        exact herror

end Agent

/-! ### The latest call of the math agent -/

/-- Whether the math agent has succeeded in a run. -/
def AuditTrail.MathSucceeded (t : AuditTrail) : Prop :=
  ∃ e ∈ t, e.agent = Role.math.agentName ∧ e.success

/-- A success stays in the trail. -/
theorem AuditTrail.MathSucceeded.append {t later : AuditTrail} (h : t.MathSucceeded) :
    MathSucceeded (t ++ later) := by
  obtain ⟨e, he, hsuccess⟩ := h
  exact ⟨e, List.mem_append_left _ he, hsuccess⟩

/-- Whether the latest call of the math agent among some exchanges was answered with a result. -/
def Exchange.MathStands (exchanges : List Exchange) : Prop :=
  ∃ earlier e later, exchanges = earlier ++ e :: later ∧ e.request.name = Role.math.agentName ∧
    ¬ e.response.isError ∧ ∀ f ∈ later, f.request.name ≠ Role.math.agentName

namespace Exchange

variable {exchanges : List Exchange} {e : Exchange}

theorem not_mathStands_nil : ¬ MathStands [] := by
  rintro ⟨earlier, e, later, h, -⟩
  simp at h

/-- A call of the math agent decides alone. -/
theorem mathStands_append_math (he : e.request.name = Role.math.agentName) :
    MathStands (exchanges ++ [e]) ↔ ¬ e.response.isError := by
  constructor
  · rintro ⟨earlier, m, later, hsplit, hm, hresult, hlater⟩
    rcases split_append_singleton hsplit with ⟨-, rfl, -⟩ | ⟨later, rfl, -⟩
    · exact hresult
    · -- the last exchange is no call of the math agent, although `e` is
      exact absurd he (hlater e (by simp))
  · intro hresult
    exact ⟨exchanges, e, [], rfl, he, hresult, by simp⟩

/-- Another call changes nothing. -/
theorem mathStands_append_other (he : e.request.name ≠ Role.math.agentName) :
    MathStands (exchanges ++ [e]) ↔ MathStands exchanges := by
  constructor
  · rintro ⟨earlier, m, later, hsplit, hm, hresult, hlater⟩
    rcases split_append_singleton hsplit with ⟨-, rfl, -⟩ | ⟨later, rfl, hfront⟩
    · exact absurd hm he
    · exact ⟨earlier, m, later, hfront, hm, hresult, fun g hg => hlater g (by simp [hg])⟩
  · rintro ⟨earlier, m, later, rfl, hm, hresult, hlater⟩
    refine ⟨earlier, m, later ++ [e], by simp, hm, hresult, fun g hg => ?_⟩
    rcases List.mem_append.mp hg with hg | hg
    · exact hlater g hg
    · obtain rfl := List.mem_singleton.mp hg
      exact he

end Exchange

namespace LedProgress

open Exchange

/-- Whether a run has made some exchanges since it started on a context, and lets the poet be called
    exactly if the latest call of the math agent among them was answered with a result. -/
structure Recalls (context : Context) (made : List Exchange) (p : LedProgress) : Prop where
  exchanges : p.context.exchanges = context.exchanges ++ made
  allows : p.phase.allowsPoetry ↔ MathStands made

theorem recalls_start (context : Context) : Recalls context [] { context } :=
  ⟨(List.append_nil _).symm, by simp [Phase.allowsPoetry, not_mathStands_nil]⟩

end LedProgress

namespace DelegatingCrew

open LedProgress Exchange

variable {σ : Type} {crew : DelegatingCrew σ} {agent : Agent σ} {r : ToolRequest}
  {p p' : LedProgress} {s s' : σ} {response : ToolResponse} {ok : Bool} {q q' : Progress}

/-! ### What a tool call is answered with -/

/-- Whether every failure of an agent is found to be one when it is told. -/
def TellsFailures (agent : Agent σ) : Prop :=
  ∀ name c s e s', agent.invoke c s = (.error e, s') → (ToolResponse.mk name e.payload).isError

/-- A called agent is answered with a result exactly if it succeeds. -/
theorem Called.isError_iff (hagent : TellsFailures agent)
    (h : Called agent r q s response ok q' s') : ¬ response.isError ↔ ok := by
  cases h with
  | unasked => simp [refuse, ToolResponse.ofFailure, Failure.isError_value]
  | failed _ hi => simp [hagent r.name _ _ _ _ hi]
  | succeeded =>
    simp only [iff_true]
    exact Bool.false_ne_true

/-- **Tool calls.** A tool call that does not hand over keeps the link between the phase and the
    latest call of the math agent. -/
theorem Responds.stands (hmath : TellsFailures crew.math) (h : Responds crew r p s response p' s')
    (hp : p'.phase ≠ .handedOver) {made : List Exchange}
    (hlink : p.phase.allowsPoetry ↔ MathStands made) (callId : String) :
    p'.phase.allowsPoetry ↔ MathStands (made ++ [⟨callId, r, response⟩]) := by
  -- a call of any other name leaves the latest call of the math agent what it was
  have hother (hr : r.name ≠ Role.math.agentName) :
      MathStands (made ++ [⟨callId, r, response⟩]) ↔ p.phase.allowsPoetry := by
    rw [mathStands_append_other hr, hlink]
  cases h with
  | @math _ ok _ _ hr hcall =>
    rw [mathStands_append_math hr, hcall.isError_iff hmath]
    cases ok <;> simp [Phase.allowsPoetry]
  | @poet _ ok _ _ hr ha =>
    rw [hother (by rw [hr]; decide)]
    cases ok with
    | true => exact iff_of_true rfl ha
    | false => exact Iff.rfl
  | early hr | misdirected hr => exact (hother (by rw [hr]; decide)).symm
  | transfer => exact absurd rfl hp
  | unknown hm => exact (hother hm).symm

/-- Carrying out a decision that does not hand over keeps track of the exchanges. -/
theorem recalls_follow (hmath : TellsFailures crew.math) {context : Context} {made : List Exchange}
    (h : p.Recalls context made) {output : Output}
    (hf : crew.follow output p s = (p', s')) (hp : p'.phase ≠ .handedOver) :
    ∃ e, p'.Recalls context (made ++ [e]) := by
  cases output with
  | delegate note | reply note =>
    have hover : p'.phase = .handedOver := congrArg (·.1.phase) hf.symm
    exact absurd hover hp
  | toolCall r =>
    have hhandled : crew.handleCall r p s = (p', s') := hf
    have hresponds := responds_respond crew r (announced p r) s
    have hphase : p'.phase = (crew.respond r (announced p r) s).1.2.phase :=
      congrArg (·.1.phase) hhandled.symm
    have hexchanges := crew.handleCall_exchanges r p s
    rw [hhandled, h.exchanges, List.append_assoc] at hexchanges
    refine ⟨_, hexchanges, ?_⟩
    rw [hphase]
    exact hresponds.stands hmath (hphase ▸ hp) h.allows _

/-! ### Runs -/

variable {context : Context} {s₀ : σ} {n : Nat}

/-- Every round of a run starts with track of the exchanges. -/
theorem Reaches.recalls (hmath : TellsFailures crew.math) (h : Reaches crew context s₀ n p s) :
    ∃ made, p.Recalls context made := by
  induction h with
  | start => exact ⟨[], recalls_start context⟩
  | @round n p p' s s' s'' output h _ _ hf hp ih =>
    obtain ⟨made, hmade⟩ := ih
    have hdecided : (crew.decided p output).Recalls context made := ⟨hmade.exchanges, hmade.allows⟩
    obtain ⟨e, he⟩ := recalls_follow hmath hdecided hf hp
    exact ⟨_, he⟩

/-- The math agent tells its failures. -/
theorem tellsFailures_math (maxRounds : Nat) (settings : Role → CrewSettings)
    (provider : Role → Chat.Provider σ) :
    TellsFailures (ofProviders maxRounds settings provider).math := by
  intro name c s e s' h
  exact Agent.isError_of_mathLoop name h

/-- A call of the poet is answered with an ordering violation exactly where the poet may not be
    called. -/
theorem Responds.violation_iff {maxRounds : Nat} {settings : Role → CrewSettings}
    {provider : Role → Chat.Provider σ}
    (h : Responds (ofProviders maxRounds settings provider) r p s response p' s')
    (hr : r.name = Role.poet.agentName) :
    response.errorKind? = some "OrderingViolation" ↔ ¬ p.phase.allowsPoetry := by
  cases h with
  | math hm => exact absurd (hm.symm.trans hr) (by decide)
  | poet _ ha hcall =>
    refine iff_of_false ?_ (not_not_intro ha)
    intro hkind
    cases hcall with
    | unasked =>
      rw [refuse, ToolResponse.errorKind?_ofFailure] at hkind
      exact absurd (Option.some.inj hkind)
        (by decide : ¬ Expr.ErrorKind.validation.name = "OrderingViolation")
    | failed _ hi =>
      obtain ⟨cause, rfl⟩ := Agent.invocation_of_consult hi
      have htold : (ToolResponse.mk r.name (AgentError.invocation cause).payload).errorKind? =
          some "CapabilityInvocationError" := Failure.kind_value _
      rw [htold] at hkind
      exact absurd (Option.some.inj hkind)
        (by decide : ¬ "CapabilityInvocationError" = "OrderingViolation")
    | succeeded => cases hkind
  | early _ ha =>
    refine iff_of_true ?_ ha
    rw [refuse, ToolResponse.errorKind?_ofFailure]
  | transfer ht | misdirected ht => exact absurd (ht.symm.trans hr) (by decide)
  | unknown _ hp => exact absurd hr hp

/-- **Refusals.** In every run that the controller leads, a call of the poet is answered with an
    ordering violation exactly if the latest call of the math agent in the run, if there is one, was
    not answered with a result. -/
theorem poetry_refused_iff (maxRounds : Nat) (settings : Role → CrewSettings)
    (provider : Role → Chat.Provider σ) (context : Context) (s₀ : σ) :
    let crew := ofProviders maxRounds settings provider
    ∀ r p s, crew.Calls context s₀ r p s → r.name = Role.poet.agentName →
      ∃ made e, (crew.handleCall r p s).1.context.exchanges = context.exchanges ++ made ++ [e] ∧
        e.request = r ∧
        (e.response.errorKind? = some "OrderingViolation" ↔ ¬ Exchange.MathStands made) := by
  intro crew r p s hcall hr
  cases hcall with
  | @call n p s₁ s₂ r h hn hi =>
    obtain ⟨made, hmade⟩ := h.recalls (tellsFailures_math maxRounds settings provider)
    have hexchanges := crew.handleCall_exchanges r (crew.decided p (.toolCall r)) s
    have hkept : (crew.decided p (.toolCall r)).context.exchanges = context.exchanges ++ made :=
      hmade.exchanges
    rw [hkept] at hexchanges
    refine ⟨made, _, hexchanges, rfl, ?_⟩
    rw [(responds_respond crew r _ s).violation_iff hr, ← hmade.allows]
    rfl

/-! ### A success that is forgotten -/

/-- The answers of a run in which the math agent succeeds and is then called without a request. -/
def forgetfulAnswers : List Answer :=
  [.ok (.toolCall ⟨"1", Role.math.agentName, Agent.plainArguments⟩), .ok (.answer "1"),
   .ok (.toolCall ⟨"2", Role.math.agentName, ""⟩), .ok (.toolCall ⟨"3", Role.poet.agentName, ""⟩)]

/-- The settings of that run. -/
def forgetfulSettings : CrewSettings := ⟨0, 3, 1⟩

/-- The crew of that run. -/
def forgetfulCrew : DelegatingCrew Consultations :=
  ofProviders 3 (fun _ => forgetfulSettings) (Script.play forgetfulAnswers).provider

/-- The context of that run. -/
def forgetfulContext : Context := { sessionId := "s", userId := "u", request := "1" }

/-- The controller decides on the answer whose turn it is. -/
theorem forgetful_decides (c : Context) (log : Consultations) {reply : Chat.Reply}
    (h : forgetfulAnswers[log.length]? = some (.ok reply)) :
    ∃ log', forgetfulCrew.controller.invoke c log = (.ok (Agent.decision reply), log') ∧
      log'.length = log.length + 1 := by
  have hanswer : Script.play forgetfulAnswers log .controller
      (Agent.controllerQuery forgetfulSettings c) = .ok reply := by
    rw [Script.play, h, Option.getD_some]
  exact ⟨_, Script.controller_of_ok hanswer, by simp⟩

/-- The math agent answers when it is called first. -/
theorem forgetful_works {log : Consultations} (hlog : log.length = 1) : ∃ log',
    forgetfulCrew.math.invoke (forgetfulContext.forTool "1") log = (.ok (.reply "1"), log') ∧
      log'.length = 2 := by
  have hconverses : Agent.Converses forgetfulSettings .math (forgetfulContext.forTool "1")
      [⟨.math, _, _⟩] (.ok (.reply "1")) := .math .concluded
  have hanswer : Except.ok (.answer "1") = Script.play forgetfulAnswers log .math
      (Agent.mathQuery forgetfulSettings.temperature
        ((forgetfulContext.forTool "1").messages Agent.mathInstructions)) := by
    rw [Script.play, hlog]
    rfl
  exact ⟨_, Script.invoke_of_converses hconverses ⟨hanswer, trivial⟩, by simp [hlog]⟩

/-- The first round calls the math agent, which succeeds. -/
theorem forgetful_first : ∃ p log, forgetfulCrew.Reaches forgetfulContext [] 1 p log ∧
    log.length = 2 ∧ p.audit.MathSucceeded := by
  obtain ⟨asked, hdecision, hname, hrequest⟩ :=
    Agent.exists_decision_plain "1" Role.math.agentName
  obtain ⟨log, hdecided, hlog⟩ := forgetful_decides forgetfulContext [] rfl
  rw [hdecision] at hdecided
  obtain ⟨log', hworks, hlog'⟩ := forgetful_works hlog
  refine ⟨_, _, .call .start (by decide) hdecided (.math hname (.succeeded hrequest hworks))
    (by simp), hlog', ?_⟩
  exact ⟨_, List.mem_append_right _ (List.mem_singleton_self _), rfl, rfl⟩

/-- The second round calls it without a request, which counts as a failure. -/
theorem forgetful_second : ∃ p log, forgetfulCrew.Reaches forgetfulContext [] 2 p log ∧
    log.length = 3 ∧ p.audit.MathSucceeded ∧ ¬ p.phase.allowsPoetry := by
  obtain ⟨p, log, hfirst, hlog, hsuccess⟩ := forgetful_first
  obtain ⟨log', hdecided, hlog'⟩ := forgetful_decides p.context log (by rw [hlog]; rfl)
  have hunasked : ToolRequest.argument { name := Role.math.agentName } Agent.requestArgument =
      .error (.missingArgument Agent.requestArgument) := rfl
  exact ⟨_, _, .call hfirst (by decide) hdecided (.math rfl (.unasked hunasked)) (by simp),
    by rw [hlog', hlog], hsuccess.append, Bool.false_ne_true⟩

/-- The third round calls the poet. -/
theorem forgetful_calls : ∃ p log,
    forgetfulCrew.Calls forgetfulContext [] { name := Role.poet.agentName } p log ∧
      p.audit.MathSucceeded ∧ ¬ p.phase.allowsPoetry := by
  obtain ⟨p, log, hsecond, hlog, hsuccess, hphase⟩ := forgetful_second
  obtain ⟨log', hdecided, -⟩ := forgetful_decides p.context log (by rw [hlog]; rfl)
  exact ⟨_, log', .call hsecond (by decide) hdecided, hsuccess.append, hphase⟩

/-- In that run the poet is refused, as the latest call of the math agent gave no result. -/
theorem poetry_refused_iff_forgetful : ∃ p log made e,
    forgetfulCrew.Calls forgetfulContext [] { name := Role.poet.agentName } p log ∧
      (forgetfulCrew.handleCall { name := Role.poet.agentName } p log).1.context.exchanges =
        made ++ [e] ∧
      (e.response.errorKind? = some "OrderingViolation" ↔ ¬ Exchange.MathStands made) := by
  obtain ⟨p, log, hcall, -⟩ := forgetful_calls
  obtain ⟨made, e, hexchanges, -, hiff⟩ :=
    poetry_refused_iff 3 (fun _ => forgetfulSettings) _ forgetfulContext [] _ p log hcall rfl
  exact ⟨p, log, made, e, hcall, hexchanges, hiff⟩

/-- **A success may be forgotten.** Behind a success of the math agent the poet may be refused with
    an ordering violation: a call of the math agent without a request, which asks no provider, has
    taken the permission away. -/
theorem math_success_forgotten :
    ¬ ∀ (maxRounds : Nat) (settings : Role → CrewSettings) (script : Script) (context : Context)
        (r : ToolRequest) (p : LedProgress) (log : Consultations),
      (ofProviders maxRounds settings script.provider).Calls context [] r p log →
      r.name = Role.poet.agentName → p.audit.MathSucceeded →
      ∀ e, ((ofProviders maxRounds settings script.provider).handleCall r p
          log).1.context.exchanges.getLast? = some e →
        e.response.errorKind? ≠ some "OrderingViolation" := by
  intro hnotRefused
  obtain ⟨p, log, hcall, hsuccess, hphase⟩ := forgetful_calls
  have hlast := congrArg List.getLast?
    (forgetfulCrew.handleCall_exchanges { name := Role.poet.agentName } p log)
  rw [List.getLast?_concat] at hlast
  have hrefused := (responds_respond forgetfulCrew { name := Role.poet.agentName }
    (announced p { name := Role.poet.agentName }) log).violation_iff rfl
  exact hnotRefused _ _ _ _ _ _ _ hcall rfl hsuccess _ hlast (hrefused.mpr hphase)

end DelegatingCrew

end MathAgents
