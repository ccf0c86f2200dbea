import MathAgents.Proofs.Run.FixedOrder
import MathAgents.Proofs.Run.Handover

namespace MathAgents

/-!
# The common plan

A run that the controller leads may take the way of a run in a fixed order: it calls the math agent
with the request of the turn, then the poet, and then it hands over without a note.  Calls that are
refused may stand anywhere in between.  On such a plan the two kinds of runs agree: the agents are
asked the same and say the same.

* `CommonPlan` — the decisions of the controller on such a plan, and the answers of a run on it.
* `DelegatingCrew.Stands` — how far a led run has got on the plan.
* `DelegatingCrew.Stands.idle`, `DelegatingCrew.Stands.called`, `DelegatingCrew.Stands.finished` —
  the rounds of the plan: a refused call, a call of an agent, and the handover.
* `CommonPlan.runs_agree` — a led run on the plan gives what the run in a fixed order gives.
-/

/-- What is asked in a run, except by the controller. -/
def Consultations.ofOthers (log : Consultations) : Consultations :=
  log.filter (·.role ≠ .controller)

/-- What is asked in several parts of a run. -/
theorem Consultations.ofOthers_append (log talk : Consultations) :
    ofOthers (log ++ talk) = ofOthers log ++ ofOthers talk := List.filter_append log talk

/-- Another agent than the controller is found in full. -/
theorem Agent.Converses.ofOthers {settings : CrewSettings} {role : Role} {c : Context}
    {talk : Consultations} {outcome : Except AgentError Output}
    (h : Agent.Converses settings role c talk outcome) (hrole : role ≠ .controller) :
    talk.ofOthers = talk := by
  rw [Consultations.ofOthers, List.filter_eq_self]
  intro x hx
  rw [h.role_eq x hx]
  exact decide_eq_true hrole

/-- An agent that has a conversation works under the name of its role. -/
theorem Agent.Converses.agent_name {settings : CrewSettings} {role : Role} {c : Context}
    {talk : Consultations} {outcome : Except AgentError Output}
    (h : Agent.Converses settings role c talk outcome) (script : Script) :
    (script.agent settings role).name = role.agentName := by
  cases h <;> rfl

namespace Chat.ToolCall

/-- Whether the controller is refused what it asks for: a tool that it does not have, or a transfer
    to another agent than the narrator. -/
structure Idle (call : Chat.ToolCall) : Prop where
  not_math : call.name ≠ Role.math.agentName
  not_poet : call.name ≠ Role.poet.agentName
  not_handsOver : ¬ (Agent.decision (.toolCall call)).HandsOver

/-- Whether the controller calls the agent with a role and hands a request on. -/
def Asks (call : Chat.ToolCall) (role : Role) (request : String) : Prop :=
  ∃ r, Agent.decision (.toolCall call) = .toolCall r ∧ r.name = role.agentName ∧
    r.argument Agent.requestArgument = .ok request

/-- The answer that is a call. -/
def answer (call : Chat.ToolCall) : Answer := .ok (.toolCall call)

end Chat.ToolCall

/-- The decisions of the controller that lead a run the way of a run in a fixed order. -/
structure CommonPlan (request : String) where
  /-- The refused calls in front of that of the math agent. -/
  early : List Chat.ToolCall
  math : Chat.ToolCall
  /-- The refused calls in front of that of the poet. -/
  middle : List Chat.ToolCall
  poet : Chat.ToolCall
  /-- The refused calls in front of the handover. -/
  late : List Chat.ToolCall
  /-- The handover: a transfer to the narrator, or a blank text. -/
  final : Chat.Reply
  early_idle : ∀ call ∈ early, call.Idle
  math_asks : math.Asks .math request
  middle_idle : ∀ call ∈ middle, call.Idle
  poet_asks : poet.Asks .poet request
  late_idle : ∀ call ∈ late, call.Idle
  final_handsOver : (Agent.decision final).HandsOver
  final_silent : ∀ note, final = .answer note → Text.isBlank note

namespace CommonPlan

variable {request : String}

/-- How often the controller decides. -/
def rounds (plan : CommonPlan request) : Nat :=
  plan.early.length + 1 + plan.middle.length + 1 + plan.late.length + 1

/-- The answers of a run on the plan, where the other agents are given these. -/
def answers (plan : CommonPlan request) (math poet narrator : List Answer) : List Answer :=
  plan.early.map (·.answer) ++ plan.math.answer :: math ++
    (plan.middle.map (·.answer) ++ plan.poet.answer :: poet) ++
    (plan.late.map (·.answer) ++ .ok plan.final :: narrator)

end CommonPlan

namespace DelegatingCrew

open Agent

/-! ### Rounds of the plan -/

/-- How far a run has got on a plan. -/
structure Standing where
  /-- How often the controller has decided. -/
  rounds : Nat := 0
  phase : Phase := .idle
  /-- What the agents have said. -/
  outputs : List StageOutput := []
  /-- What has been asked, except by the controller. -/
  asked : Consultations := []
  /-- The answers that have been given. -/
  given : List Answer := []

namespace Standing

/-- How far a run has got when some calls have been refused. -/
def refused (st : Standing) (calls : List Chat.ToolCall) : Standing :=
  { st with
    rounds := st.rounds + calls.length
    given := st.given ++ calls.map (·.answer) }

/-- How far a run has got when an agent has been called, and has said something. -/
def worked (st : Standing) (phase : Phase) (call : Chat.ToolCall) (talk : Consultations)
    (output : StageOutput) : Standing where
  rounds := st.rounds + 1
  phase := phase
  outputs := st.outputs ++ [output]
  asked := st.asked ++ talk
  given := st.given ++ call.answer :: talk.map (·.answer)

@[simp] theorem refused_rounds (st : Standing) (calls : List Chat.ToolCall) :
    (st.refused calls).rounds = st.rounds + calls.length := rfl

@[simp] theorem refused_nil (st : Standing) : st.refused [] = st := by
  simp [refused]

/-- Calls are refused one after the other. -/
theorem refused_refused (st : Standing) (calls later : List Chat.ToolCall) :
    (st.refused calls).refused later = st.refused (calls ++ later) := by
  simp [refused, Nat.add_assoc]

@[simp] theorem worked_rounds (st : Standing) (phase : Phase) (call : Chat.ToolCall)
    (talk : Consultations) (output : StageOutput) :
    (st.worked phase call talk output).rounds = st.rounds + 1 := rfl

end Standing

/-- The crew of a run on listed answers. -/
def playing (settings : CrewSettings) (answers : List Answer) : DelegatingCrew Consultations :=
  ofProviders settings.maxRounds (fun _ => settings) (Script.play answers).provider

/-- Whether a run on listed answers has got so far when a round starts. -/
structure Stands (settings : CrewSettings) (answers : List Answer) (context : Context)
    (st : Standing) (p : LedProgress) (log : Consultations) : Prop where
  reaches : (playing settings answers).Reaches context [] st.rounds p log
  phase_eq : p.phase = st.phase
  outputs_eq : p.outputs = st.outputs
  request_eq : p.context.request = context.request
  entries_eq : p.context.entries = (context.behind st.outputs).entries
  asked_eq : log.ofOthers = st.asked
  given_eq : log.length = st.given.length

variable {settings : CrewSettings} {answers rest : List Answer} {context c : Context}
  {st : Standing} {p : LedProgress} {log talk : Consultations} {call : Chat.ToolCall}
  {reply : Chat.Reply} {role : Role} {text : String}

/-- A run starts with nothing asked and nothing said. -/
theorem stands_start (settings : CrewSettings) (answers : List Answer) (context : Context) :
    Stands settings answers context {} { context } [] :=
  ⟨.start, rfl, rfl, rfl, by simp, rfl, rfl⟩

/-- The controller decides on the answer whose turn it is. -/
theorem Stands.decides (h : Stands settings answers context st p log)
    (hanswers : answers = st.given ++ .ok reply :: rest) :
    (playing settings answers).controller.invoke p.context log =
      (.ok (decision reply),
        log ++ [⟨.controller, controllerQuery settings p.context, .ok reply⟩]) := by
  have hanswer : Script.play answers log .controller (controllerQuery settings p.context) =
      .ok reply := by
    simp [Script.play, hanswers, h.given_eq]
  exact Script.controller_of_ok hanswer

/-- Behind a decision nothing more has been asked of the other agents. -/
theorem Stands.asked_decided (h : Stands settings answers context st p log) (query : Chat.Query)
    (answer : Answer) :
    Consultations.ofOthers (log ++ [⟨.controller, query, answer⟩]) = st.asked := by
  rw [Consultations.ofOthers_append, h.asked_eq]
  exact List.append_nil _

/-- Behind a decision the answers of a conversation are given that are listed there. -/
theorem Stands.gives (h : Stands settings answers context st p log) {answer : Answer}
    (hanswers : answers = st.given ++ answer :: (talk.map (·.answer) ++ rest))
    (query : Chat.Query) :
    (Script.play answers).Gives (log ++ [⟨.controller, query, answer⟩]) talk := by
  have hfront : List.length (log ++ [⟨.controller, query, answer⟩]) =
      (st.given ++ [answer]).length := by
    simp [h.given_eq]
  have hsplit : answers = (st.given ++ [answer]) ++ talk.map (·.answer) ++ rest := by
    simpa using hanswers
  rw [hsplit]
  exact Script.gives_play hfront rfl

/-- **Refused calls.** A call that is refused leaves everything as it was for the other agents. -/
theorem Stands.idle (h : Stands settings answers context st p log)
    (hrounds : st.rounds < settings.maxRounds)
    (hanswers : answers = st.given ++ call.answer :: rest) (hcall : call.Idle) :
    ∃ p' log', Stands settings answers context (st.refused [call]) p' log' := by
  obtain ⟨r, hdecision, hname⟩ := exists_decision_toolCall call
  have hdecides := h.decides hanswers
  rw [hdecision] at hdecides
  have hidle := hcall.not_handsOver
  rw [hdecision] at hidle
  let q := announced ((playing settings answers).decided p (.toolCall r)) r
  -- whichever refusal it is, the progress stays what it was, the phase included
  have hrefused : ∃ response, ∀ s, Responds (playing settings answers) r q s response q s := by
    by_cases ht : r.name = transferTool
    · exact ⟨_, fun s => .misdirected ht fun htarget => hidle ⟨ht, htarget⟩⟩
    · exact ⟨_, fun s => .unknown (hname ▸ hcall.not_math) (hname ▸ hcall.not_poet) ht⟩
  obtain ⟨response, hresponds⟩ := hrefused
  exact ⟨answered q r response, _, .call h.reaches hrounds hdecides (hresponds _)
    h.reaches.phase_ne, h.phase_eq, h.outputs_eq, h.request_eq, h.entries_eq, h.asked_decided _ _,
    by simp [Standing.refused, h.given_eq]⟩

/-- Any number of refused calls leaves everything as it was for the other agents. -/
theorem Stands.idles {calls : List Chat.ToolCall} (h : Stands settings answers context st p log)
    (hrounds : st.rounds + calls.length ≤ settings.maxRounds)
    (hanswers : answers = st.given ++ calls.map (·.answer) ++ rest)
    (hcalls : ∀ call ∈ calls, call.Idle) :
    ∃ p' log', Stands settings answers context (st.refused calls) p' log' := by
  -- by induction on the calls: the rest is refused from where the first one leaves the run
  induction calls generalizing st p log with
  | nil => exact ⟨p, log, by simpa using h⟩
  | cons call calls ih =>
    rw [List.length_cons] at hrounds
    have hfirst : answers = st.given ++ call.answer :: (calls.map (·.answer) ++ rest) := by
      simpa using hanswers
    obtain ⟨p₁, log₁, h₁⟩ := h.idle (by omega) hfirst (hcalls call (by simp))
    have hbehind : answers = (st.given ++ [call.answer]) ++ calls.map (·.answer) ++ rest := by
      simpa using hanswers
    have hrounds₁ : (st.refused [call]).rounds + calls.length ≤ settings.maxRounds := by
      simp
      omega
    obtain ⟨p₂, log₂, h₂⟩ := ih h₁ hrounds₁ hbehind fun c hc => hcalls c (by simp [hc])
    rw [Standing.refused_refused] at h₂
    exact ⟨p₂, log₂, h₂⟩

/-- **Calls of agents.** An agent that is called with the request of the turn is asked what it is
    asked in a run in a fixed order, and says the same. -/
theorem Stands.called {phase : Phase} (h : Stands settings answers context st p log)
    (hrounds : st.rounds < settings.maxRounds)
    (hanswers : answers = st.given ++ call.answer :: (talk.map (·.answer) ++ rest))
    (hcall : call.Asks role context.request) (hrole : role ≠ .controller)
    (hconverses : Converses settings role (context.behind st.outputs) talk (.ok (.reply text)))
    (hresponds : ∀ (r : ToolRequest) (p' : LedProgress) (s s' : Consultations)
      (response : ToolResponse) (q : Progress), r.name = role.agentName → p'.phase = st.phase →
      Called (Script.agent (Script.play answers) settings role) r p'.toProgress s response true q
        s' →
      Responds (playing settings answers) r p' s response ⟨q, phase⟩ s')
    (hphase : phase ≠ .handedOver) :
    ∃ p' log', Stands settings answers context
      (st.worked phase call talk ⟨role.agentName, text⟩) p' log' := by
  obtain ⟨r, hdecision, hname, hrequest⟩ := hcall
  have hdecides := h.decides hanswers
  rw [hdecision] at hdecides
  let agent := Script.agent (Script.play answers) settings role
  let p₁ := announced ((playing settings answers).decided p (.toolCall r)) r
  let log₁ := log ++ [⟨.controller, controllerQuery settings p.context, call.answer⟩]
  have hagent : agent.name = role.agentName := hconverses.agent_name _
  -- the agent sees the same request and the same entries as in a run in a fixed order
  have hsame : Converses settings role (p₁.context.forTool context.request) talk
      (.ok (.reply text)) := hconverses.congr hrole rfl h.entries_eq
  have hinvoke := Script.invoke_of_converses hsame
    (h.gives hanswers (controllerQuery settings p.context))
  have hcalled : Called agent r p₁.toProgress log₁ (.ofText r.name text) true _ _ :=
    .succeeded hrequest hinvoke
  refine ⟨_, _, .call h.reaches hrounds hdecides (hresponds r p₁ _ _ _ _ hname h.phase_eq hcalled)
    hphase, rfl, ?_, h.request_eq, ?_, ?_, ?_⟩
  · show p.outputs ++ [⟨agent.name, text⟩] = st.outputs ++ [⟨role.agentName, text⟩]
    rw [h.outputs_eq, hagent]
  · show p.context.entries ++ [⟨agent.name, text⟩] = _
    rw [h.entries_eq, hagent]
    simp [Standing.worked, Context.behind, StageOutput.entry]
  · rw [Consultations.ofOthers_append, h.asked_decided, hconverses.ofOthers hrole]
    rfl
  · simp [Standing.worked, h.given_eq]

/-- The math agent may be called in every round. -/
theorem Stands.math (h : Stands settings answers context st p log)
    (hrounds : st.rounds < settings.maxRounds)
    (hanswers : answers = st.given ++ call.answer :: (talk.map (·.answer) ++ rest))
    (hcall : call.Asks .math context.request)
    (hconverses : Converses settings .math (context.behind st.outputs) talk (.ok (.reply text))) :
    ∃ p' log', Stands settings answers context
      (st.worked (.mathCalled true) call talk ⟨Role.math.agentName, text⟩) p' log' := by
  refine h.called hrounds hanswers hcall (by decide) hconverses ?_ (by decide)
  intro r p' s s' response q hname _ hcalled
  exact .math hname hcalled

/-- The poet may be called where the phase allows it. -/
theorem Stands.poet (h : Stands settings answers context st p log)
    (hrounds : st.rounds < settings.maxRounds)
    (hanswers : answers = st.given ++ call.answer :: (talk.map (·.answer) ++ rest))
    (hcall : call.Asks .poet context.request) (hallows : st.phase.allowsPoetry)
    (hconverses : Converses settings .poet (context.behind st.outputs) talk (.ok (.reply text))) :
    ∃ p' log', Stands settings answers context
      (st.worked .poetCalled call talk ⟨Role.poet.agentName, text⟩) p' log' := by
  refine h.called hrounds hanswers hcall (by decide) hconverses ?_ (by decide)
  intro r p' s s' response q hname hphase hcalled
  have hpoet : Called (playing settings answers).poet r p'.toProgress s response true q s' :=
    hcalled
  exact .poet hname (hphase ▸ hallows) hpoet

/-- What the narrator is shown when the controller hands over without a note. -/
theorem follow_of_silent {q : LedProgress} {s s' : Consultations}
    (ho : (decision reply).HandsOver)
    (hsilent : ∀ note, reply = .answer note → Text.isBlank note)
    (hf : (playing settings answers).follow (decision reply) p s = (q, s')) :
    q.context.request = p.context.request ∧ q.context.entries = p.context.entries := by
  cases reply with
  | answer note =>
    have hover : handOver (playing settings answers).controller.name note p = q :=
      congrArg Prod.fst hf
    rw [handOver, if_pos (hsilent note rfl)] at hover
    subst hover
    exact ⟨rfl, rfl⟩
  | toolCall call =>
    obtain ⟨r, hr, -⟩ := exists_decision_toolCall call
    rw [hr] at ho hf
    have hhandled : (playing settings answers).handleCall r p s = (q, s') := hf
    obtain ⟨hkept, -⟩ :=
      (responds_respond (playing settings answers) r (announced p r) s).of_handsOver ho
    have hrequest := congrArg (·.context.request) hkept
    have hentries := congrArg (·.context.entries) hkept
    exact ⟨(congrArg (·.1.context.request) hhandled.symm).trans hrequest,
      (congrArg (·.1.context.entries) hhandled.symm).trans hentries⟩

/-- **The handover.** A handover without a note asks the narrator what it is asked in a run in a
    fixed order, and the run ends with what it says. -/
theorem Stands.finished (h : Stands settings answers context st p log)
    (hrounds : st.rounds < settings.maxRounds)
    (hanswers : answers = st.given ++ .ok reply :: (talk.map (·.answer) ++ rest))
    (ho : (decision reply).HandsOver) (hsilent : ∀ note, reply = .answer note → Text.isBlank note)
    (hconverses : Converses settings .narrator (context.behind st.outputs) talk
      (.ok (.reply text))) :
    ∃ report, ((playing settings answers).run context []).1.outcome = .ok report ∧
      report.outputs = st.outputs ++ [⟨Role.narrator.agentName, text⟩] ∧
      report.finalResponse = text ∧
      ((playing settings answers).run context []).2.ofOthers = st.asked ++ talk := by
  have hdecides := h.decides hanswers
  let log₁ := log ++ [⟨.controller, controllerQuery settings p.context, .ok reply⟩]
  cases hf : (playing settings answers).follow (decision reply)
      ((playing settings answers).decided p (decision reply)) log₁ with
  | mk q s =>
    obtain ⟨hstate, houtputs, -⟩ := follow_of_handsOver ho hf
    obtain ⟨hrequest, hentries⟩ := follow_of_silent ho hsilent hf
    have hsame : Converses settings .narrator q.context talk (.ok (.reply text)) :=
      hconverses.congr (by decide) (hrequest.trans h.request_eq) (hentries.trans h.entries_eq)
    subst hstate
    have hinvoke := Script.invoke_of_converses hsame
      (h.gives hanswers (controllerQuery settings p.context))
    rw [h.reaches.run_of_handsOver hrounds hdecides ho hf, narrate_of_ok hinvoke]
    refine ⟨_, rfl, ?_, rfl, ?_⟩
    · show q.outputs ++ [⟨Role.narrator.agentName, text⟩] = _
      rw [houtputs]
      exact congrArg (· ++ _) h.outputs_eq
    · rw [Consultations.ofOthers_append, h.asked_decided, hconverses.ofOthers (by decide)]

end DelegatingCrew

namespace SequentialCrew

open Agent

/-- A run in a fixed order that succeeds on listed answers, and gives each agent its own share of
    them: what the agents ask, and what they say. -/
theorem talks_of_ok {settings : CrewSettings} {context : Context} {math poet narrator : List Answer}
    {report : Report} {ending : Ending} {log : Consultations}
    (hrun : (ofProviders (fun _ => settings)
      (Script.play (math ++ poet ++ narrator)).provider).run context [] = (ending, log))
    (hok : ending.outcome = .ok report) (hmath : (log.of .math).length = math.length)
    (hpoet : (log.of .poet).length = poet.length)
    (hnarrator : (log.of .narrator).length = narrator.length) :
    log = log.of .math ++ (log.of .poet ++ log.of .narrator) ∧
    (log.of .math).map (·.answer) = math ∧ (log.of .poet).map (·.answer) = poet ∧
    (log.of .narrator).map (·.answer) = narrator ∧
    ∃ sum poem story,
      Converses settings .math context (log.of .math) (.ok (.reply sum)) ∧
      Converses settings .poet (context.behind [⟨Role.math.agentName, sum⟩]) (log.of .poet)
        (.ok (.reply poem)) ∧
      Converses settings .narrator
        (context.behind [⟨Role.math.agentName, sum⟩, ⟨Role.poet.agentName, poem⟩])
        (log.of .narrator) (.ok (.reply story)) ∧
      report.outputs = [⟨Role.math.agentName, sum⟩, ⟨Role.poet.agentName, poem⟩,
        ⟨Role.narrator.agentName, story⟩] ∧
      report.finalResponse = story := by
  obtain ⟨outputs, failure, haccount, hgives⟩ :=
    exists_account (fun _ => settings) (Script.play (math ++ poet ++ narrator)) context
  rw [hrun] at haccount hgives
  have houtcome := haccount.outcome_eq
  rw [hok] at houtcome
  cases failure with
  | some failure => cases houtcome
  | none =>
    have hlog : log = log.of .math ++ (log.of .poet ++ log.of .narrator) := by
      simpa [Stage.ahead] using haccount.works.log_eq (by decide)
    -- each agent has been given its own share of the answers
    have hplayed : (Script.play ([] ++ (math ++ poet ++ narrator) ++ [])).Gives [] log := by
      simpa using hgives
    have hlength : log.length = (math ++ poet ++ narrator).length := by
      rw [hlog]
      simp [hmath, hpoet, hnarrator]
    have hanswers := Script.answers_of_gives hplayed rfl hlength
    have hshares : (log.of .math).map (·.answer) ++
        ((log.of .poet).map (·.answer) ++ (log.of .narrator).map (·.answer)) =
        math ++ (poet ++ narrator) := by
      rw [← List.map_append, ← List.map_append, ← hlog, hanswers, List.append_assoc]
    obtain ⟨hmathShare, hrest⟩ := List.append_inj hshares (by simpa using hmath)
    obtain ⟨hpoetShare, hnarratorShare⟩ := List.append_inj hrest (by simpa using hpoet)
    obtain ⟨sum, poem, story, hsum, hpoem, hstory, -, hreported⟩ := haccount.report_of_finished
    have hreport := Except.ok.inj (hok.symm.trans hreported)
    refine ⟨hlog, hmathShare, hpoetShare, hnarratorShare, sum, poem, story, hsum, ?_, ?_, ?_, ?_⟩
    · simpa [Context.behind_cons] using hpoem
    · simpa [Context.behind_cons] using hstory
    · rw [hreport]
    · rw [hreport]

/-- A run in a fixed order has the conversations of its agents, if the script gives them. -/
theorem run_of_converses {settings : CrewSettings} {script : Script} {context : Context}
    {mathTalk poetTalk narratorTalk : Consultations} {sum poem story : String}
    (hsum : Converses settings .math context mathTalk (.ok (.reply sum)))
    (hpoem : Converses settings .poet (context.push Role.math.agentName sum) poetTalk
      (.ok (.reply poem)))
    (hstory : Converses settings .narrator
      ((context.push Role.math.agentName sum).push Role.poet.agentName poem) narratorTalk
      (.ok (.reply story)))
    (hgives : script.Gives [] (mathTalk ++ (poetTalk ++ narratorTalk))) :
    ∃ report ending,
      (ofProviders (fun _ => settings) script.provider).run context [] =
        (ending, mathTalk ++ poetTalk ++ narratorTalk) ∧ ending.outcome = .ok report := by
  obtain ⟨hmath, hrest⟩ := Script.gives_append.mp hgives
  obtain ⟨hpoet, hnarrator⟩ := Script.gives_append.mp hrest
  rw [run, runFrom_of_ok rfl (Script.invoke_of_converses hsum hmath),
    runFrom_of_ok rfl (Script.invoke_of_converses hpoem hpoet),
    runFrom_of_ok rfl (Script.invoke_of_converses hstory hnarrator), runFrom_of_none rfl]
  exact ⟨_, _, rfl, rfl⟩

end SequentialCrew

namespace CommonPlan

open Agent DelegatingCrew

/-- **Runs on the plan.** A run that the controller leads on the plan has the conversations of a run
    in a fixed order, where it is given their answers, and it reports what is said in them. -/
theorem report_of_converses {settings : CrewSettings} {context : Context}
    (plan : CommonPlan context.request) (hrounds : plan.rounds ≤ settings.maxRounds)
    {mathTalk poetTalk narratorTalk : Consultations} {sum poem story : String}
    (hsum : Converses settings .math context mathTalk (.ok (.reply sum)))
    (hpoem : Converses settings .poet (context.behind [⟨Role.math.agentName, sum⟩]) poetTalk
      (.ok (.reply poem)))
    (hstory : Converses settings .narrator
      (context.behind [⟨Role.math.agentName, sum⟩, ⟨Role.poet.agentName, poem⟩]) narratorTalk
      (.ok (.reply story))) :
    let led := (playing settings (plan.answers (mathTalk.map (·.answer)) (poetTalk.map (·.answer))
      (narratorTalk.map (·.answer)))).run context []
    (∃ report, led.1.outcome = .ok report ∧
      report.outputs = [⟨Role.math.agentName, sum⟩, ⟨Role.poet.agentName, poem⟩,
        ⟨Role.narrator.agentName, story⟩] ∧
      report.finalResponse = story) ∧
    led.2.ofOthers = mathTalk ++ (poetTalk ++ narratorTalk) := by
  intro led
  have hcount : plan.early.length + 1 + plan.middle.length + 1 + plan.late.length + 1 ≤
    settings.maxRounds := hrounds
  -- the answers that have been given in front of each call of an agent and of the handover
  let early := plan.early.map (·.answer)
  let untilMath := early ++ plan.math.answer :: mathTalk.map (·.answer)
  let untilPoet :=
    untilMath ++ plan.middle.map (·.answer) ++ plan.poet.answer :: poetTalk.map (·.answer)
  let handover : List Answer := .ok plan.final :: (narratorTalk.map (·.answer) ++ [])
  let afterPoet := plan.late.map (·.answer) ++ handover
  let afterMath := plan.middle.map (·.answer) ++
    plan.poet.answer :: (poetTalk.map (·.answer) ++ afterPoet)
  have hmath : plan.answers (mathTalk.map (·.answer)) (poetTalk.map (·.answer))
      (narratorTalk.map (·.answer)) =
        early ++ plan.math.answer :: (mathTalk.map (·.answer) ++ afterMath) := by
    simp [answers, early, handover, afterPoet, afterMath]
  have hpoet : plan.answers (mathTalk.map (·.answer)) (poetTalk.map (·.answer))
      (narratorTalk.map (·.answer)) = untilMath ++ plan.middle.map (·.answer) ++
        plan.poet.answer :: (poetTalk.map (·.answer) ++ afterPoet) := by
    rw [hmath]
    simp [untilMath, early, afterMath]
  have hhandover : plan.answers (mathTalk.map (·.answer)) (poetTalk.map (·.answer))
      (narratorTalk.map (·.answer)) = untilPoet ++ plan.late.map (·.answer) ++ handover := by
    rw [hpoet]
    simp [untilPoet, afterPoet]
  -- the rounds of the plan, one after the other
  obtain ⟨_, _, h⟩ := (stands_start settings _ context).idles (by simp; omega) hmath
    plan.early_idle
  have hfirst : Converses settings .math (context.behind []) mathTalk (.ok (.reply sum)) := by
    rw [Context.behind_nil]
    exact hsum
  obtain ⟨_, _, h⟩ := h.math (by simp; omega) hmath plan.math_asks hfirst
  obtain ⟨_, _, h⟩ := h.idles (by simp; omega) hpoet plan.middle_idle
  obtain ⟨_, _, h⟩ := h.poet (by simp; omega) hpoet plan.poet_asks rfl hpoem
  obtain ⟨_, _, h⟩ := h.idles (by simp; omega) hhandover plan.late_idle
  obtain ⟨report, hok, houtputs, hfinal, hasked⟩ := h.finished (by simp; omega) hhandover
    plan.final_handsOver plan.final_silent hstory
  exact ⟨⟨report, hok, houtputs, hfinal⟩, hasked.trans (List.append_assoc _ _ _)⟩

/-- **The two kinds of runs agree.** Take any answers on which a run in a fixed order succeeds, with
    a share of them for each agent.  A led run on the same settings and context, whose controller
    takes the common plan within its rounds and whose other agents are given those answers, succeeds
    with the same outputs and the same answer.  What its agents ask, the controller apart, is what
    is asked in the run in a fixed order, query by query. -/
theorem runs_agree (settings : CrewSettings) (context : Context)
    (math poet narrator : List Answer) (plan : CommonPlan context.request) (report : Report) :
    let fixed := (SequentialCrew.ofProviders (fun _ => settings)
      (Script.play (math ++ poet ++ narrator)).provider).run context []
    let led := (DelegatingCrew.ofProviders settings.maxRounds (fun _ => settings)
      (Script.play (plan.answers math poet narrator)).provider).run context []
    fixed.1.outcome = .ok report →
    (fixed.2.of .math).length = math.length →
    (fixed.2.of .poet).length = poet.length →
    (fixed.2.of .narrator).length = narrator.length →
    plan.rounds ≤ settings.maxRounds →
    (∃ report', led.1.outcome = .ok report' ∧ report'.outputs = report.outputs ∧
      report'.finalResponse = report.finalResponse) ∧
    led.2.ofOthers = fixed.2 := by
  intro fixed led hok hmath hpoet hnarrator hrounds
  obtain ⟨hlog, hmathShare, hpoetShare, hnarratorShare, sum, poem, story, hsum, hpoem, hstory,
    houtputs, hfinal⟩ := SequentialCrew.talks_of_ok rfl hok hmath hpoet hnarrator
  have hled := plan.report_of_converses hrounds hsum hpoem hstory
  rw [hmathShare, hpoetShare, hnarratorShare] at hled
  obtain ⟨⟨report', hok', houtputs', hfinal'⟩, hasked⟩ := hled
  refine ⟨⟨report', hok', ?_, ?_⟩, ?_⟩
  · rw [houtputs', houtputs]
  · rw [hfinal', hfinal]
  · exact hasked.trans hlog.symm

/-- A plan with one refused call and a handover by a blank text. -/
def plain : CommonPlan "1" where
  early := [⟨"0", "unknown_tool", ""⟩]
  math := ⟨"1", Role.math.agentName, plainArguments⟩
  middle := []
  poet := ⟨"2", Role.poet.agentName, plainArguments⟩
  late := []
  final := .answer ""
  early_idle := by
    rintro call hcall
    obtain rfl := List.mem_singleton.mp hcall
    refine ⟨by decide, by decide, ?_⟩
    rintro ⟨hname, -⟩
    exact absurd hname (by decide)
  math_asks := exists_decision_plain "1" Role.math.agentName
  middle_idle := by simp
  poet_asks := exists_decision_plain "2" Role.poet.agentName
  late_idle := by simp
  final_handsOver := trivial
  final_silent := by
    rintro note hnote
    obtain rfl := Chat.Reply.answer.inj hnote
    rfl

/-- On that plan the math agent and the poet are asked as in a run in a fixed order. -/
theorem runs_agree_plain :
    let settings : CrewSettings := ⟨0, 4, 1⟩
    let context : Context := { sessionId := "s", userId := "u", request := "1" }
    let fixed := (SequentialCrew.ofProviders (fun _ => settings)
      (Script.play [.ok (.answer "1"), .ok (.answer "one"), .ok (.answer "end")]).provider).run
        context []
    let led := (DelegatingCrew.ofProviders settings.maxRounds (fun _ => settings)
      (Script.play (plain.answers [.ok (.answer "1")] [.ok (.answer "one")]
        [.ok (.answer "end")])).provider).run context []
    ∃ report, fixed.1.outcome = .ok report ∧
      (∃ report', led.1.outcome = .ok report' ∧ report'.outputs = report.outputs ∧
        report'.finalResponse = report.finalResponse) ∧
      led.2.ofOthers = fixed.2 := by
  intro settings context fixed led
  have hsum : Converses settings .math context [⟨.math, _, _⟩] (.ok (.reply "1")) :=
    .math .concluded
  have hpoem : Converses settings .poet (context.push Role.math.agentName "1")
      [⟨.poet, _, .ok (.answer "one")⟩] (.ok (.reply "one")) := .poet
  have hstory : Converses settings .narrator
      ((context.push Role.math.agentName "1").push Role.poet.agentName "one")
      [⟨.narrator, _, .ok (.answer "end")⟩] (.ok (.reply "end")) := .narrator
  let script := Script.play [.ok (.answer "1"), .ok (.answer "one"), .ok (.answer "end")]
  obtain ⟨report, ending, hrun, hok⟩ := SequentialCrew.run_of_converses hsum hpoem hstory
    (show script.Gives [] _ from ⟨rfl, rfl, rfl, trivial⟩)
  have hreported : fixed.1.outcome = .ok report := (congrArg (·.1.outcome) hrun).trans hok
  have hmath : (fixed.2.of .math).length = 1 := congrArg (fun run => (run.2.of .math).length) hrun
  have hpoet : (fixed.2.of .poet).length = 1 := congrArg (fun run => (run.2.of .poet).length) hrun
  have hnarrator : (fixed.2.of .narrator).length = 1 :=
    congrArg (fun run => (run.2.of .narrator).length) hrun
  exact ⟨report, hreported, runs_agree settings context [_] [_] [_] plain report hreported hmath
    hpoet hnarrator (by decide)⟩

end CommonPlan

end MathAgents
