import MathAgents.Agent.Transcriber
import MathAgents.Proofs.Outcome
import MathAgents.Run.Crew

namespace MathAgents

/-!
# What agents ask their providers

The providers of a run may answer by everything that was asked before, so the general provider is a
*script*: a function of the consultations so far and of the present query.  This file runs agents on
a script that notes who asks what, and says what one invocation of an agent asks.

* `Agent.consult_eq`, `Agent.controller_eq` — an agent that asks once, over any provider.
* `Script.provider` — the provider of an agent that answers by a script and notes the consultation.
* `Agent.Converses` — the conversations of an agent, whoever answers.
* `Script.invoke_of_converses`, `Script.exists_converses` — an invocation on a script is exactly a
  conversation that the script answers, so it depends on nothing else.
* `Script.transcriber_eq` — what the transcriber asks, and what it keeps.
* `Script.play` — the script that gives listed answers, one after the other.
-/

/-- What a provider answers to a query. -/
abbrev Answer := Except Chat.ProviderError Chat.Reply

/-- A query of an agent to its provider, with the answer. -/
structure Consultation where
  role : Role
  query : Chat.Query
  answer : Answer

/-- The consultations of a run, the first one first. -/
abbrev Consultations := List Consultation

namespace Consultations

/-- The consultations of the agent with a role. -/
def of (role : Role) (log : Consultations) : Consultations := log.filter (·.role = role)

variable {role : Role} {log talk : Consultations}

@[simp] theorem of_append (role : Role) (log talk : Consultations) :
    of role (log ++ talk) = of role log ++ of role talk := List.filter_append log talk

/-- A conversation of the agent is found in full. -/
theorem of_eq_self (h : ∀ x ∈ talk, x.role = role) : of role talk = talk := by
  rw [of, List.filter_eq_self]
  intro x hx
  exact decide_eq_true (h x hx)

/-- Nothing is found of an agent that was not asked. -/
theorem of_eq_nil (h : ∀ x ∈ talk, x.role ≠ role) : of role talk = [] := by
  rw [of, List.filter_eq_nil_iff]
  intro x hx hrole
  exact h x hx (of_decide_eq_true hrole)

end Consultations

/-- What providers answer, given the consultations so far, who asks, and the query. -/
abbrev Script := Consultations → Role → Chat.Query → Answer

namespace Script

/-- The provider of the agent with a role: it answers by the script and notes the consultation. -/
def provider (script : Script) (role : Role) : Chat.Provider Consultations :=
  fun query log => (script log role query, log ++ [⟨role, query, script log role query⟩])

/-- The agent with a role in a run on a script. -/
def agent (script : Script) (settings : CrewSettings) (role : Role) : Agent Consultations :=
  Crew.agentFor settings (script.provider role) role

/-- Whether the script answers these consultations in this way, one after the other. -/
def Gives (script : Script) (log : Consultations) : Consultations → Prop
  | [] => True
  | x :: rest => x.answer = script log x.role x.query ∧ script.Gives (log ++ [x]) rest

/-- A longer conversation is given piece by piece. -/
theorem gives_append {script : Script} {log a b : Consultations} :
    script.Gives log (a ++ b) ↔ script.Gives log a ∧ script.Gives (log ++ a) b := by
  induction a generalizing log with
  | nil => simp [Gives]
  | cons x rest ih => simp [Gives, ih, and_assoc]

end Script

/-! ### Conversations -/

/-- What an agent tells its model. -/
def Role.instructions : Role → String
  | .math => Agent.mathInstructions
  | .poet => Agent.poetInstructions
  | .narrator => Agent.narratorInstructions
  | .transcriber => Agent.transcriberInstructions
  | .controller => Agent.controllerInstructions

namespace Agent

/-- What an agent makes of the answer where no tools were offered. -/
def heard (answer : Answer) : Except AgentError Output :=
  (answer.mapError .invocation).map fun reply => .reply reply.text

@[simp] theorem heard_error (cause : Chat.ProviderError) :
    heard (.error cause) = .error (.invocation cause) := rfl

@[simp] theorem heard_ok (reply : Chat.Reply) : heard (.ok reply) = .ok (.reply reply.text) := rfl

/-- An agent that asks once fails with the failure of its provider. -/
theorem heard_eq_error_iff {answer : Answer} {e : AgentError} :
    heard answer = .error e ↔ ∃ cause, answer = .error cause ∧ e = .invocation cause := by
  cases answer <;> simp [eq_comm]

/-- What the controller makes of the answer of its provider. -/
def decided (answer : Answer) : Except AgentError Output :=
  (answer.mapError .invocation).map decision

@[simp] theorem decided_error (cause : Chat.ProviderError) :
    decided (.error cause) = .error (.invocation cause) := rfl

@[simp] theorem decided_ok (reply : Chat.Reply) :
    decided (.ok reply) = .ok (decision reply) := rfl

/-- The controller fails with the failure of its provider. -/
theorem decided_eq_error_iff {answer : Answer} {e : AgentError} :
    decided answer = .error e ↔ ∃ cause, answer = .error cause ∧ e = .invocation cause := by
  cases answer <;> simp [eq_comm]

/-- The controller decides on the reply of its provider. -/
theorem decided_eq_ok_iff {answer : Answer} {output : Output} :
    decided answer = .ok output ↔ ∃ reply, answer = .ok reply ∧ output = decision reply := by
  cases answer <;> simp [eq_comm]

/-- The controller decides on a tool call as its model wrote it, if the arguments can be read. -/
theorem decision_of_parse {call : Chat.ToolCall} {arguments : Fields}
    (hblank : ¬ Text.isBlank call.arguments)
    (h : Json.parse call.arguments = .ok (.obj arguments)) :
    decision (.toolCall call) = .toolCall ⟨call.name, arguments⟩ := by
  simp only [decision, ToolRequest.ofText, h]
  rw [if_neg hblank]

/-- The arguments of a call that hands a plain request on. -/
def plainArguments : String := "\x7b\"request\":\"1\"\x7d"

/-- The request is read from the arguments. -/
theorem exists_decision_plain (id name : String) :
    ∃ r, decision (.toolCall ⟨id, name, plainArguments⟩) = .toolCall r ∧ r.name = name ∧
      r.argument requestArgument = .ok "1" := by
  have hread : ((Json.parse plainArguments).toOption.bind (·.get? requestArgument)).bind
      Json.asString? = some "1" := by decide +kernel
  have hblank : ¬ Text.isBlank plainArguments := by decide
  cases h : Json.parse plainArguments with
  | error e =>
    rw [h] at hread
    cases hread
  | ok j =>
    rw [h] at hread
    cases j with
    | obj arguments =>
      have hgiven : (ToolRequest.mk name arguments).argument requestArgument = .ok "1" := by
        have hfound : (ToolRequest.mk name arguments).argument? requestArgument = some "1" := hread
        rw [ToolRequest.argument, hfound]
      exact ⟨_, decision_of_parse hblank h, rfl, hgiven⟩
    | _ => cases hread

/-- What the controller asks its provider. -/
def controllerQuery (settings : CrewSettings) (c : Context) : Chat.Query :=
  { messages := transcript c, temperature := settings.temperature, tools := controllerTools }

/-- What the narrator asks its provider. -/
def narratorQuery (settings : CrewSettings) (c : Context) : Chat.Query :=
  { messages := c.messages narratorInstructions, temperature := settings.temperature }

/-- What the transcriber asks its provider about the images from a source. -/
def transcriberQuery (temperature : Float) (request : String) (source : ImageCache.Source) :
    Option Chat.Query :=
  (transcriberMessages request source).map fun messages => { messages, temperature }

section

variable {σ : Type} (provider : Chat.Provider σ) (settings : CrewSettings) (c : Context) (s : σ)

/-- An agent that asks once makes its output of the one answer. -/
theorem consult_eq (messages : List Chat.Message) (temperature : Float) :
    consult provider messages temperature s =
      (heard (provider { messages, temperature } s).1,
        (provider { messages, temperature } s).2) := by
  rw [consult, bind_apply]
  cases (provider { messages, temperature } s).1 <;> rfl

/-- The controller makes its decision of the one answer. -/
theorem controller_eq :
    (Crew.agentFor settings provider .controller).invoke c s =
      (decided (provider (controllerQuery settings c) s).1,
        (provider (controllerQuery settings c) s).2) := by
  show (provider (controllerQuery settings c) >>= _) s = _
  rw [bind_apply]
  cases (provider (controllerQuery settings c) s).1 <;> rfl

/-- The narrator makes its reply of the one answer. -/
theorem narrator_eq :
    (Crew.agentFor settings provider .narrator).invoke c s =
      (heard (provider (narratorQuery settings c) s).1,
        (provider (narratorQuery settings c) s).2) :=
  consult_eq provider s (c.messages narratorInstructions) settings.temperature

end

/-- The conversations of the math agent with its provider, from some messages on.  It asks until it
    gets an answer that is no tool call, or until it has no calls left. -/
inductive MathConverses (temperature : Float) (limit : Nat) :
    (remaining : Nat) → List Chat.Message → (last : Option ToolResponse) →
      Consultations → Except AgentError Output → Prop
  | exhausted {messages : List Chat.Message} {last : Option ToolResponse} :
      MathConverses temperature limit 0 messages last [] (.error (.iterationLimit limit))
  | failed {remaining : Nat} {messages : List Chat.Message} {last : Option ToolResponse}
      {e : Chat.ProviderError} :
      MathConverses temperature limit (remaining + 1) messages last
        [⟨.math, mathQuery temperature messages, .error e⟩] (.error (.invocation e))
  | concluded {remaining : Nat} {messages : List Chat.Message} {last : Option ToolResponse}
      {content : String} :
      MathConverses temperature limit (remaining + 1) messages last
        [⟨.math, mathQuery temperature messages, .ok (.answer content)⟩] (concludeMath last content)
  | called {remaining : Nat} {messages : List Chat.Message} {last : Option ToolResponse}
      {call : Chat.ToolCall} {talk : Consultations} {outcome : Except AgentError Output}
      (h : MathConverses temperature limit remaining
        (messages ++ callMessages call (answerMathCall call)) (some (answerMathCall call)) talk
        outcome) :
      MathConverses temperature limit (remaining + 1) messages last
        (⟨.math, mathQuery temperature messages, .ok (.toolCall call)⟩ :: talk) outcome

/-- The conversations of an agent with its provider in one invocation, and what the agent makes of
    them. -/
inductive Converses (settings : CrewSettings) :
    Role → Context → Consultations → Except AgentError Output → Prop
  | math {c : Context} {talk : Consultations} {outcome : Except AgentError Output}
      (h : MathConverses settings.temperature settings.maxIterations settings.maxIterations
        (c.messages mathInstructions) none talk outcome) : Converses settings .math c talk outcome
  | poet {c : Context} {answer : Answer} :
      Converses settings .poet c
        [⟨.poet, { messages := c.messages poetInstructions
                   temperature := poetTemperature settings.temperature }, answer⟩] (heard answer)
  | narrator {c : Context} {answer : Answer} :
      Converses settings .narrator c
        [⟨.narrator, { messages := c.messages narratorInstructions
                       temperature := settings.temperature }, answer⟩] (heard answer)
  | controller {c : Context} {answer : Answer} :
      Converses settings .controller c
        [⟨.controller, controllerQuery settings c, answer⟩] (decided answer)

variable {settings : CrewSettings} {role : Role} {c c' : Context} {talk : Consultations}
  {outcome : Except AgentError Output} {temperature : Float} {limit remaining : Nat}
  {messages : List Chat.Message} {last : Option ToolResponse}

theorem MathConverses.role_eq (h : MathConverses temperature limit remaining messages last talk
    outcome) : ∀ x ∈ talk, x.role = .math := by
  induction h with
  | exhausted => simp
  | failed | concluded => simp
  | called _ ih => simpa using ih

/-- An agent talks for itself only. -/
theorem Converses.role_eq (h : Converses settings role c talk outcome) :
    ∀ x ∈ talk, x.role = role := by
  cases h with
  | math h => exact h.role_eq
  | poet | narrator | controller => simp

/-- Nothing is found of another agent in a conversation. -/
theorem Converses.of_ne (h : Converses settings role c talk outcome) {other : Role}
    (hne : other ≠ role) : Consultations.of other talk = [] :=
  Consultations.of_eq_nil fun x hx heq => hne (heq.symm.trans (h.role_eq x hx))

/-- A conversation is found in full. -/
theorem Converses.of_self (h : Converses settings role c talk outcome) :
    Consultations.of role talk = talk :=
  Consultations.of_eq_self h.role_eq

theorem MathConverses.messages_head (h : MathConverses temperature limit remaining messages last
    talk outcome) {x : Consultation} (hx : talk.head? = some x) : x.query.messages = messages := by
  cases h with
  | exhausted => simp at hx
  | failed | concluded | called =>
    obtain rfl := Option.some.inj hx
    rfl

/-- The first thing that an agent asks shows its instructions, the request and the entries, unless
    it is the controller. -/
theorem Converses.messages_head (h : Converses settings role c talk outcome)
    (hrole : role ≠ .controller) {x : Consultation} (hx : talk.head? = some x) :
    x.query.messages = c.messages role.instructions := by
  cases h with
  | math h => exact h.messages_head hx
  | poet | narrator =>
    obtain rfl := Option.some.inj hx
    rfl
  | controller => exact absurd rfl hrole

/-- All but the controller see of a context its request and its entries only. -/
theorem Converses.congr (h : Converses settings role c talk outcome) (hrole : role ≠ .controller)
    (hrequest : c'.request = c.request) (hentries : c'.entries = c.entries) :
    Converses settings role c' talk outcome := by
  have hmessages (instructions : String) : c.messages instructions = c'.messages instructions := by
    rw [Context.messages, Context.messages, hrequest, hentries]
  cases h with
  | math h =>
    rw [hmessages] at h
    exact .math h
  | poet =>
    rw [hmessages]
    exact .poet
  | narrator =>
    rw [hmessages]
    exact .narrator
  | controller => exact absurd rfl hrole

/-- The math agent replies unless its last tool call failed. -/
theorem concludeMath_eq_ok_iff {content : String} {output : Output} :
    concludeMath last content = .ok output ↔
      output = .reply content ∧ ∀ response ∈ last, ¬ response.isError := by
  cases last with
  | none =>
    show Except.ok (Output.reply content) = _ ↔ _
    simp [@eq_comm _ output]
  | some response =>
    by_cases herror : response.isError
    · simp [concludeMath, herror]
    · simp [concludeMath, herror, @eq_comm _ output]

/-- The math agent fails with the payload of its last tool call if that failed. -/
theorem concludeMath_eq_error_iff {content : String} {e : AgentError} :
    concludeMath last content = .error e ↔
      ∃ response ∈ last, response.isError ∧ e = .toolFailure response.response := by
  cases last with
  | none => simp [concludeMath]
  | some response =>
    by_cases herror : response.isError
    · simp [concludeMath, herror, @eq_comm _ e]
    · simp [concludeMath, herror]

theorem MathConverses.reply {output : Output} (h : MathConverses temperature limit remaining
    messages last talk (.ok output)) : ∃ text, output = .reply text := by
  generalize hok : Except.ok output = outcome at h
  induction h with
  | exhausted | failed => cases hok
  | concluded =>
    obtain ⟨rfl, -⟩ := concludeMath_eq_ok_iff.mp hok.symm
    exact ⟨_, rfl⟩
  | called _ ih => exact ih hok

/-- All but the controller reply with a text if they succeed. -/
theorem Converses.reply {output : Output} (h : Converses settings role c talk (.ok output))
    (hrole : role ≠ .controller) : ∃ text, output = .reply text := by
  generalize hok : Except.ok output = outcome at h
  cases h with
  | math h =>
    subst hok
    exact h.reply
  | poet | narrator =>
    rename_i answer
    cases answer with
    | error e => cases hok
    | ok reply => exact ⟨reply.text, Except.ok.inj hok⟩
  | controller => exact absurd rfl hrole

theorem MathConverses.failure {e : AgentError} (h : MathConverses temperature limit remaining
    messages last talk (.error e)) :
    (∃ cause, e = .invocation cause ∧ talk.getLast?.map (·.answer) = some (.error cause)) ∨
      (∃ payload, e = .toolFailure payload) ∨ e = .iterationLimit limit := by
  generalize herror : Except.error e = outcome at h
  induction h with
  | exhausted => exact .inr (.inr (Except.error.inj herror))
  | failed => exact .inl ⟨_, Except.error.inj herror, rfl⟩
  | concluded =>
    obtain ⟨_, -, -, rfl⟩ := concludeMath_eq_error_iff.mp herror.symm
    exact .inr (.inl ⟨_, rfl⟩)
  | called _ ih =>
    rcases ih herror with ⟨cause, he, hlast⟩ | htool | hlimit
    · refine .inl ⟨cause, he, ?_⟩
      rw [List.getLast?_cons]
      obtain ⟨x, hx, hanswer⟩ := Option.map_eq_some_iff.mp hlast
      rw [hx]
      exact congrArg some hanswer
    · exact .inr (.inl htool)
    · exact .inr (.inr hlimit)

/-- An agent fails because its provider does, which is the last it hears, or because a tool does, or
    because it has no calls left. -/
theorem Converses.failure {e : AgentError} (h : Converses settings role c talk (.error e)) :
    (∃ cause, e = .invocation cause ∧ talk.getLast?.map (·.answer) = some (.error cause)) ∨
      (∃ payload, e = .toolFailure payload) ∨ e = .iterationLimit settings.maxIterations := by
  generalize herror : Except.error e = outcome at h
  cases h with
  | math h =>
    subst herror
    exact h.failure
  | poet | narrator | controller =>
    rename_i answer
    cases answer with
    | error cause => exact .inl ⟨cause, Except.error.inj herror, rfl⟩
    | ok reply => cases herror

end Agent

/-! ### Invocations on a script -/

namespace Script

open Agent

variable {script : Script} {settings : CrewSettings} {role : Role} {c : Context}
  {log talk : Consultations} {outcome : Except AgentError Output} {temperature : Float}
  {limit remaining : Nat} {messages : List Chat.Message} {last : Option ToolResponse}

/-- A consultation of a provider that offers no tools. -/
theorem consult_eq (script : Script) (role : Role) (messages : List Chat.Message)
    (temperature : Float) (log : Consultations) :
    consult (script.provider role) messages temperature log =
      (heard (script log role { messages, temperature }),
        log ++ [⟨role, { messages, temperature },
          script log role { messages, temperature }⟩]) :=
  Agent.consult_eq (script.provider role) log messages temperature

/-- A decision of the controller. -/
theorem controller_eq (script : Script) (settings : CrewSettings) (c : Context)
    (log : Consultations) :
    (script.agent settings .controller).invoke c log =
      (decided (script log .controller (controllerQuery settings c)),
        log ++ [⟨.controller, controllerQuery settings c,
          script log .controller (controllerQuery settings c)⟩]) :=
  Agent.controller_eq (script.provider .controller) settings c log

/-- The controller decides on what its provider answers. -/
theorem controller_of_ok {reply : Chat.Reply}
    (h : script log .controller (controllerQuery settings c) = .ok reply) :
    (script.agent settings .controller).invoke c log =
      (.ok (decision reply), log ++ [⟨.controller, controllerQuery settings c, .ok reply⟩]) := by
  rw [controller_eq, h]
  rfl

/-- The math agent's loop on a script is a conversation. -/
theorem exists_mathConverses (script : Script) (temperature : Float) (limit remaining : Nat)
    (messages : List Chat.Message) (last : Option ToolResponse) (log : Consultations) :
    ∃ talk outcome, MathConverses temperature limit remaining messages last talk outcome ∧
      script.Gives log talk ∧
      mathLoop (script.provider .math) temperature limit remaining messages last log =
        (outcome, log ++ talk) := by
  -- by induction on the calls that are left: a tool call goes on with one less on a longer log
  induction remaining generalizing messages last log with
  | zero => exact ⟨[], _, .exhausted, trivial, by simp [mathLoop]; rfl⟩
  | succ remaining ih =>
    simp only [mathLoop, bind, StateT.bind, provider]
    cases h : script log .math (mathQuery temperature messages) with
    | error e => exact ⟨_, _, .failed, ⟨h.symm, trivial⟩, rfl⟩
    | ok reply =>
      cases reply with
      | answer content => exact ⟨_, _, .concluded, ⟨h.symm, trivial⟩, rfl⟩
      | toolCall call =>
        obtain ⟨talk, outcome, hconverses, hgives, hloop⟩ :=
          ih (messages ++ callMessages call (answerMathCall call)) (some (answerMathCall call))
            (log ++ [⟨.math, mathQuery temperature messages, .ok (.toolCall call)⟩])
        refine ⟨_, outcome, .called hconverses, ⟨h.symm, hgives⟩, ?_⟩
        rw [List.append_assoc] at hloop
        exact hloop

/-- A conversation of the math agent that the script answers is what its loop comes to. -/
theorem mathLoop_of_converses
    (h : MathConverses temperature limit remaining messages last talk outcome)
    (hgives : script.Gives log talk) :
    mathLoop (script.provider .math) temperature limit remaining messages last log =
      (outcome, log ++ talk) := by
  -- by induction on the conversation, each query of which the script answers as noted
  induction h generalizing log with
  | exhausted =>
    simp [mathLoop]
    rfl
  | failed | concluded =>
    obtain ⟨h, -⟩ := hgives
    simp only at h
    simp only [mathLoop, bind, StateT.bind, provider, ← h]
    rfl
  | called _ ih =>
    obtain ⟨h, hrest⟩ := hgives
    simp only at h
    have hloop := ih hrest
    rw [List.append_assoc] at hloop
    simp only [mathLoop, bind, StateT.bind, provider, ← h]
    exact hloop

/-- An invocation of an agent on a script is a conversation. -/
theorem exists_converses (script : Script) (settings : CrewSettings) (hrole : role ≠ .transcriber)
    (c : Context) (log : Consultations) :
    ∃ talk outcome, Converses settings role c talk outcome ∧ script.Gives log talk ∧
      (script.agent settings role).invoke c log = (outcome, log ++ talk) := by
  cases role with
  | math =>
    obtain ⟨talk, outcome, hconverses, hgives, hloop⟩ :=
      exists_mathConverses script settings.temperature settings.maxIterations
        settings.maxIterations (c.messages mathInstructions) none log
    exact ⟨talk, outcome, .math hconverses, hgives, hloop⟩
  | poet => exact ⟨_, _, .poet, ⟨rfl, trivial⟩, consult_eq script .poet _ _ log⟩
  | narrator => exact ⟨_, _, .narrator, ⟨rfl, trivial⟩, consult_eq script .narrator _ _ log⟩
  | controller => exact ⟨_, _, .controller, ⟨rfl, trivial⟩, controller_eq script settings c log⟩
  | transcriber => exact absurd rfl hrole

/-- A conversation of an agent that the script answers is what an invocation comes to. -/
theorem invoke_of_converses (h : Converses settings role c talk outcome)
    (hgives : script.Gives log talk) :
    (script.agent settings role).invoke c log = (outcome, log ++ talk) := by
  cases h with
  | math h => exact mathLoop_of_converses h hgives
  | poet =>
    obtain ⟨h, -⟩ := hgives
    simp only at h
    subst h
    exact consult_eq script .poet _ _ log
  | narrator =>
    obtain ⟨h, -⟩ := hgives
    simp only at h
    subst h
    exact consult_eq script .narrator _ _ log
  | controller =>
    obtain ⟨h, -⟩ := hgives
    simp only at h
    subst h
    exact controller_eq script settings c log

/-! ### Transcriptions -/

/-- The transcriber asks at most once, about the images that there are for its turn; what it keeps
    for sessions does not depend on what its provider answers. -/
theorem transcriber_eq (script : Script) (temperature : Float) (c : Context) (log : Consultations)
    (store : StateStore) :
    let source := (ImageCache.resolve store c.sessionId c.images).1
    let query? := transcriberQuery temperature c.request source
    (transcriber (script.provider .transcriber) temperature).invoke c (log, store) =
      (query?.elim (.ok (.reply uploadRequest)) fun query => heard (script log .transcriber query),
        log ++ query?.toList.map fun query =>
          ⟨.transcriber, query, script log .transcriber query⟩,
        (ImageCache.resolve store c.sessionId c.images).2) := by
  simp only [transcriber, transcriberQuery]
  cases transcriberMessages c.request (ImageCache.resolve store c.sessionId c.images).1 with
  | none => simp
  | some messages =>
    simp only [consult_eq]
    rfl

/-! ### Listed answers -/

/-- The script that gives listed answers, one a consultation, whoever asks; behind the last one it
    fails. -/
def play (answers : List Answer) : Script :=
  fun log _ _ => answers[log.length]?.getD (.error (.unknown "script exhausted"))

/-- A conversation is given where its answers are listed. -/
theorem gives_play {front answers behind : List Answer} (hlog : log.length = front.length)
    (htalk : talk.map (·.answer) = answers) :
    (play (front ++ answers ++ behind)).Gives log talk := by
  induction talk generalizing front answers log with
  | nil => trivial
  | cons x rest ih =>
    subst htalk
    constructor
    · simp [play, hlog]
    · have hfront : (log ++ [x]).length = (front ++ [x.answer]).length := by simp [hlog]
      have hnext := @ih (log ++ [x]) (front ++ [x.answer]) (rest.map (·.answer)) hfront rfl
      simpa using hnext

/-- The answers of a conversation are those that are listed. -/
theorem answers_of_gives {front answers behind : List Answer}
    (h : (play (front ++ answers ++ behind)).Gives log talk) (hlog : log.length = front.length)
    (htalk : talk.length = answers.length) : talk.map (·.answer) = answers := by
  induction talk generalizing front answers log with
  | nil => exact (List.eq_nil_of_length_eq_zero htalk.symm).symm
  | cons x rest ih =>
    cases answers with
    | nil => simp at htalk
    | cons answer answers =>
      obtain ⟨hx, hrest⟩ := h
      have hanswer : x.answer = answer := by simpa [play, hlog] using hx
      have hanswers : rest.map (·.answer) = answers := by
        have hfront : (log ++ [x]).length = (front ++ [answer]).length := by simp [hlog]
        refine @ih (log ++ [x]) (front ++ [answer]) answers ?_ hfront (by simpa using htalk)
        simpa using hrest
      simp [hanswer, hanswers]

end Script

end MathAgents
