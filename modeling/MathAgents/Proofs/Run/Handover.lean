import MathAgents.Proofs.Run.Consultation
import MathAgents.Proofs.Run.Rounds
import MathAgents.Proofs.Tool.Arguments

namespace MathAgents

/-!
# How a led run ends

A run that the controller leads is a list of tool calls, none of which hands the turn over, and then
one of three things: a decision that hands over to the narrator, a failure of the controller, or the
end of the rounds.  This file says which of them it is, and what the run reports.

* `Output.HandsOver` — the decisions that hand over.
* `DelegatingCrew.Leads`, `DelegatingCrew.TakesOver` — the tool calls of a run up to a round, and up
  to the handover.
* `DelegatingCrew.Leads.made` — what the user is shown of the tool calls.
* `DelegatingCrew.TakesOver.run_eq` — from the handover on, only the narrator works.
* `DelegatingCrew.run_ends` — the outcomes of a run, and the report of one that succeeds.
-/

/-- Whether a decision of the controller hands the turn over: a transfer to the narrator does, and
    so does any text. -/
def Output.HandsOver : Output → Prop
  | .toolCall r =>
    r.name = Agent.transferTool ∧
      r.argument? Agent.targetArgument = some Role.narrator.agentName
  | .delegate _ | .reply _ => True

/-- The tool call that a decision is, if it is one. -/
def Output.call? : Output → Option ToolRequest
  | .toolCall r => some r
  | .delegate _ | .reply _ => none

/-- The events that show an exchange: the call, and then the response under the same name. -/
def Exchange.events (e : Exchange) : List Event :=
  [.toolCall e.request.name (.obj e.request.arguments),
   .toolResponse e.request.name e.response.response]

namespace Agent

/-- A call whose arguments cannot be read is a call without arguments. -/
theorem decision_of_error {call : Chat.ToolCall} {e : ToolError}
    (h : ToolRequest.ofText call.name call.arguments = .error e) :
    decision (.toolCall call) = .toolCall { name := call.name } := by
  simp only [decision, h]

/-- The decision on a tool call is a call of that name. -/
theorem exists_decision_toolCall (call : Chat.ToolCall) :
    ∃ r, decision (.toolCall call) = .toolCall r ∧ r.name = call.name := by
  cases h : ToolRequest.ofText call.name call.arguments with
  | error e => exact ⟨_, decision_of_error h, rfl⟩
  | ok r =>
    obtain ⟨hname, -⟩ := ToolRequest.ofText_eq_ok_iff.mp h
    exact ⟨r, by simp only [decision, h], hname⟩

/-- Only a readable transfer hands over. -/
theorem not_handsOver_toolCall {call : Chat.ToolCall}
    (h : call.name ≠ transferTool ∨ ∃ e, ToolRequest.ofText call.name call.arguments = .error e) :
    ¬ (decision (.toolCall call)).HandsOver := by
  rcases h with hother | ⟨e, hunreadable⟩
  · obtain ⟨r, hr, hsame⟩ := exists_decision_toolCall call
    rw [hr]
    rintro ⟨hname, -⟩
    exact hother (hsame.symm.trans hname)
  · rw [decision_of_error hunreadable]
    rintro ⟨-, htarget⟩
    cases htarget

/-- A note is what the model answered. -/
theorem answer_of_decision {reply : Chat.Reply} {note : String}
    (h : Output.delegate note = decision reply) : reply = .answer note := by
  cases reply with
  | toolCall call =>
    obtain ⟨r, hr, -⟩ := exists_decision_toolCall call
    cases h.trans hr
  | answer content => rw [Output.delegate.inj h]

end Agent

namespace DelegatingCrew

variable {σ : Type} {crew : DelegatingCrew σ} {agent : Agent σ} {r : ToolRequest}
  {p p' q : LedProgress} {s s' s'' s₀ : σ} {response : ToolResponse} {ok : Bool}
  {output : Output} {context : Context} {rs : List ToolRequest} {n : Nat}

/-! ### What a tool call adds -/

/-- A called agent answers under the name that was called, and it shows the user nothing itself. -/
theorem Called.shown {q q' : Progress} (h : Called agent r q s response ok q' s') :
    response.name = r.name ∧ q'.events = q.events := by
  cases h <;> exact ⟨rfl, rfl⟩

/-- A tool call is answered under its name, and shows the user nothing before it is answered. -/
theorem Responds.shown (h : Responds crew r p s response p' s') :
    response.name = r.name ∧ p'.events = p.events := by
  cases h with
  | math _ hcall | poet _ _ hcall => exact hcall.shown
  | early | transfer | misdirected | unknown => exact ⟨rfl, rfl⟩

/-- A tool call is shown to the user, and is kept as an exchange. -/
theorem handleCall_shown (crew : DelegatingCrew σ) (r : ToolRequest) (p : LedProgress) (s : σ) :
    let response := (crew.respond r (announced p r) s).1.1.response
    (crew.handleCall r p s).1.events =
        p.events ++ [.toolCall r.name (.obj r.arguments), .toolResponse r.name response] ∧
      (crew.handleCall r p s).1.context.exchanges = p.context.exchanges ++
        [⟨s!"call_{p.context.exchanges.length + 1}", r, ⟨r.name, response⟩⟩] := by
  intro response
  obtain ⟨hname, hevents⟩ := (responds_respond crew r (announced p r) s).shown
  have hresponse : (crew.respond r (announced p r) s).1.1 = ⟨r.name, response⟩ := by
    rw [← hname]
  refine ⟨?_, by rw [handleCall_exchanges, hresponse]⟩
  rw [handleCall_eq, answered]
  simp only [hresponse, hevents]
  exact List.append_assoc p.events _ _

/-- A tool call adds one exchange, and the events that show it. -/
theorem handleCall_made (crew : DelegatingCrew σ) (r : ToolRequest) (p : LedProgress) (s : σ) :
    ∃ e : Exchange, e.request = r ∧
      (crew.handleCall r p s).1.context.exchanges = p.context.exchanges ++ [e] ∧
      (crew.handleCall r p s).1.events = p.events ++ e.events := by
  obtain ⟨hevents, hexchanges⟩ := crew.handleCall_shown r p s
  exact ⟨_, rfl, hexchanges, hevents⟩

/-- A tool call hands over exactly if it is a transfer to the narrator. -/
theorem Responds.handedOver_iff (h : Responds crew r p s response p' s')
    (hp : p.phase ≠ .handedOver) : p'.phase = .handedOver ↔ (Output.toolCall r).HandsOver := by
  -- only the transfer closes the phase, and no other tool has its name
  cases h with
  | math hr =>
    refine iff_of_false (by simp) ?_
    rintro ⟨ht, -⟩
    exact absurd (hr.symm.trans ht) (by decide)
  | @poet _ ok _ _ hr =>
    refine iff_of_false ?_ ?_
    · cases ok with
      | true => simp
      | false => exact hp
    · rintro ⟨ht, -⟩
      exact absurd (hr.symm.trans ht) (by decide)
  | early hr =>
    refine iff_of_false hp ?_
    rintro ⟨ht, -⟩
    exact absurd (hr.symm.trans ht) (by decide)
  | transfer hr ht => exact iff_of_true rfl ⟨hr, ht⟩
  | misdirected hr ht => exact iff_of_false hp fun h => ht h.2
  | unknown _ _ ht => exact iff_of_false hp fun h => ht h.1

/-- **Handovers.** Carrying out a decision ends the rounds exactly if the decision hands over. -/
theorem follow_handedOver_iff (hp : p.phase ≠ .handedOver)
    (hf : crew.follow output p s = (p', s')) : p'.phase = .handedOver ↔ output.HandsOver := by
  cases output with
  | toolCall r =>
    have hphase : p'.phase = (crew.respond r (announced p r) s).1.2.phase :=
      congrArg (·.1.phase) hf.symm
    rw [hphase]
    exact (responds_respond crew r (announced p r) s).handedOver_iff hp
  | delegate note | reply note => exact iff_of_true (congrArg (·.1.phase) hf.symm) trivial

/-- A transfer to the narrator asks no provider and changes nothing but the phase. -/
theorem Responds.of_handsOver (h : Responds crew r p s response p' s')
    (hr : (Output.toolCall r).HandsOver) : p' = { p with phase := .handedOver } ∧ s' = s := by
  obtain ⟨ht, htarget⟩ := hr
  cases h with
  | transfer => exact ⟨rfl, rfl⟩
  | math hname | poet hname | early hname => exact absurd (hname.symm.trans ht) (by decide)
  | misdirected _ hother => exact absurd htarget hother
  | unknown _ _ hother => exact absurd ht hother

/-- Carrying out a handover asks no provider, adds no output, and shows at most the call. -/
theorem follow_of_handsOver (ho : output.HandsOver) (hf : crew.follow output p s = (q, s')) :
    s' = s ∧ q.outputs = p.outputs ∧
      ∃ made : List Exchange, made.map (·.request) = output.call?.toList ∧
        q.context.exchanges = p.context.exchanges ++ made ∧
        q.events = p.events ++ made.flatMap Exchange.events := by
  cases output with
  | toolCall r =>
    have hhandled : crew.handleCall r p s = (q, s') := hf
    obtain ⟨hkept, hstate⟩ := (responds_respond crew r (announced p r) s).of_handsOver ho
    have houtputs := congrArg (·.outputs) hkept
    obtain ⟨e, hrequest, hexchanges, hevents⟩ := crew.handleCall_made r p s
    rw [hhandled] at hexchanges hevents
    refine ⟨?_, ?_, [e], by simp [hrequest, Output.call?], hexchanges, by simpa using hevents⟩
    · exact (congrArg Prod.snd hhandled.symm).trans hstate
    · exact (congrArg (·.1.outputs) hhandled.symm).trans houtputs
  | delegate note | reply note =>
    have hover : handOver crew.controller.name note p = q := congrArg Prod.fst hf
    have hstate : s = s' := congrArg Prod.snd hf
    subst hover hstate
    unfold handOver
    split
    · exact ⟨rfl, rfl, [], rfl, by simp, by simp⟩
    · exact ⟨rfl, rfl, [], rfl, by simp [Progress.tell, Context.push], by simp [Progress.tell]⟩

/-! ### The tool calls of a run -/

/-- The controller's first decisions in a run are these tool calls, none of which hands over; the
    progress and the state in which it decides next. -/
inductive Leads (crew : DelegatingCrew σ) (context : Context) (s₀ : σ) :
    List ToolRequest → LedProgress → σ → Prop
  | start : Leads crew context s₀ [] { context } s₀
  | call {rs : List ToolRequest} {p p' : LedProgress} {s s' s'' : σ} {r : ToolRequest}
      (h : Leads crew context s₀ rs p s)
      (hi : crew.controller.invoke p.context s = (.ok (.toolCall r), s'))
      (hr : ¬ (Output.toolCall r).HandsOver)
      (hc : crew.handleCall r (crew.decided p (.toolCall r)) s' = (p', s'')) :
      Leads crew context s₀ (rs ++ [r]) p' s''

/-- The tool calls take a round each. -/
theorem Leads.reaches (h : Leads crew context s₀ rs p s) (hlength : rs.length ≤ crew.maxRounds) :
    Reaches crew context s₀ rs.length p s := by
  -- by induction on the calls: the phase is open in front of each, and it does not hand over
  induction h with
  | start => exact .start
  | @call rs p p' s s' s'' r h hi hr hc ih =>
    rw [List.length_append] at hlength ⊢
    have hn : rs.length < crew.maxRounds := hlength
    have hreaches := ih (Nat.le_of_lt hn)
    have hphase : (crew.decided p (.toolCall r)).phase ≠ .handedOver := hreaches.phase_ne
    have hf : crew.follow (.toolCall r) (crew.decided p (.toolCall r)) s' = (p', s'') := hc
    exact .round hreaches hn hi hf (mt (follow_handedOver_iff hphase hf).mp hr)

/-- Every round starts behind such tool calls. -/
theorem Reaches.leads (h : Reaches crew context s₀ n p s) :
    ∃ rs, rs.length = n ∧ Leads crew context s₀ rs p s := by
  induction h with
  | start => exact ⟨[], rfl, .start⟩
  | @round n p p' s s' s'' output h _ hi hf hp ih =>
    obtain ⟨rs, hlength, hleads⟩ := ih
    have hphase : (crew.decided p output).phase ≠ .handedOver := h.phase_ne
    -- the round went on, so its decision was a tool call that does not hand over
    have houtput : ¬ output.HandsOver := mt (follow_handedOver_iff hphase hf).mpr hp
    cases output with
    | toolCall r => exact ⟨rs ++ [r], by simp [hlength], .call hleads hi houtput hf⟩
    | delegate note | reply note => exact absurd trivial houtput

/-- The user is shown the tool calls, each with its response. -/
theorem Leads.made (h : Leads crew context s₀ rs p s) :
    ∃ made : List Exchange, made.map (·.request) = rs ∧
      p.context.exchanges = context.exchanges ++ made ∧
      p.events = made.flatMap Exchange.events := by
  induction h with
  | start => exact ⟨[], rfl, by simp, rfl⟩
  | @call rs p p' s s' s'' r _ _ _ hc ih =>
    obtain ⟨made, hrequests, hexchanges, hevents⟩ := ih
    obtain ⟨e, hrequest, hadded, hshown⟩ := crew.handleCall_made r (crew.decided p (.toolCall r)) s'
    rw [hc] at hadded hshown
    refine ⟨made ++ [e], ?_, ?_, ?_⟩
    · simp [hrequests, hrequest]
    · rw [hadded, decided, Progress.recorded, hexchanges, List.append_assoc]
    · rw [hshown, decided, Progress.recorded, hevents]
      simp

/-- The narrator takes over in a run: behind some tool calls the controller decides in the progress
    `p` on a handover, and the narrator starts with the progress `q`. -/
inductive TakesOver (crew : DelegatingCrew σ) (context : Context) (s₀ : σ) (rs : List ToolRequest)
    (p : LedProgress) (output : Output) : LedProgress → σ → Prop
  | intro {q : LedProgress} {s s' s'' : σ} (h : Leads crew context s₀ rs p s)
      (hlength : rs.length < crew.maxRounds)
      (hi : crew.controller.invoke p.context s = (.ok output, s')) (ho : output.HandsOver)
      (hf : crew.follow output (crew.decided p output) s' = (q, s'')) :
      TakesOver crew context s₀ rs p output q s''

/-- From a handover on, only the narrator works. -/
theorem Reaches.run_of_handsOver (h : Reaches crew context s₀ n p s) (hn : n < crew.maxRounds)
    (hi : crew.controller.invoke p.context s = (.ok output, s')) (ho : output.HandsOver)
    (hf : crew.follow output (crew.decided p output) s' = (q, s'')) :
    crew.run context s₀ = crew.narrate q.toProgress s'' := by
  have hphase : (crew.decided p output).phase ≠ .handedOver := h.phase_ne
  have hleft : crew.maxRounds - n = crew.maxRounds - (n + 1) + 1 := by omega
  rw [h.run_eq, hleft, runRounds_of_ok hi, bind_apply, hf]
  exact congrFun (afterRound_of_handedOver ((follow_handedOver_iff hphase hf).mpr ho)) s''

/-- When the narrator has taken over, the run is what it does. -/
theorem TakesOver.run_eq (h : TakesOver crew context s₀ rs p output q s) :
    crew.run context s₀ = crew.narrate q.toProgress s := by
  cases h with
  | intro h hlength hi ho hf =>
    exact (h.reaches (Nat.le_of_lt hlength)).run_of_handsOver hlength hi ho hf

/-- When the narrator takes over, the user has been shown the tool calls, and nothing has been added
    to the outputs since the decision. -/
theorem TakesOver.made (h : TakesOver crew context s₀ rs p output q s) :
    q.outputs = p.outputs ∧
      ∃ made : List Exchange, made.map (·.request) = rs ++ output.call?.toList ∧
        q.context.exchanges = context.exchanges ++ made ∧
        q.events = made.flatMap Exchange.events := by
  cases h with
  | intro h hlength hi ho hf =>
    obtain ⟨made, hrequests, hexchanges, hevents⟩ := h.made
    obtain ⟨-, houtputs, last, hrequest, hexchange, hevent⟩ := follow_of_handsOver ho hf
    refine ⟨houtputs, made ++ last, ?_, ?_, ?_⟩
    · rw [List.map_append, hrequests, hrequest]
    · rw [hexchange, decided, Progress.recorded, hexchanges, List.append_assoc]
    · rw [hevent, decided, Progress.recorded, hevents, List.flatMap_append]

/-- A note is shown to nobody but the narrator, as an entry of its context unless it is blank. -/
theorem TakesOver.of_note {note : String}
    (h : TakesOver crew context s₀ rs p (.delegate note) q s) :
    q.events = p.events ∧ q.context =
      if Text.isBlank note then p.context else p.context.push crew.controller.name note := by
  cases h with
  | intro h hlength hi ho hf =>
    have hover : handOver crew.controller.name note (crew.decided p (.delegate note)) = q :=
      congrArg Prod.fst hf
    subst hover
    unfold handOver
    split <;> exact ⟨rfl, rfl⟩

/-- Every run goes one of three ways: the narrator takes over, the controller fails, or the rounds
    are over. -/
theorem Ends.course {ending : Ending} (h : Ends crew context s₀ ending s) :
    (∃ rs p output q s, TakesOver crew context s₀ rs p output q s) ∨
      (∃ rs p s e s', Leads crew context s₀ rs p s ∧ rs.length < crew.maxRounds ∧
        crew.controller.invoke p.context s = (.error e, s')) ∨
      ∃ rs p s, Leads crew context s₀ rs p s ∧ rs.length = crew.maxRounds := by
  cases h with
  | exhausted h =>
    obtain ⟨rs, hlength, hleads⟩ := h.leads
    exact .inr (.inr ⟨rs, _, _, hleads, hlength⟩)
  | failed h hn hi =>
    obtain ⟨rs, rfl, hleads⟩ := h.leads
    exact .inr (.inl ⟨rs, _, _, _, _, hleads, hn, hi⟩)
  | @narrated n p p' s s' s'' output h hn hi hf hp =>
    obtain ⟨rs, rfl, hleads⟩ := h.leads
    have hphase : (crew.decided p output).phase ≠ .handedOver := h.phase_ne
    exact .inl ⟨rs, _, _, _, _, hleads, hn, hi, (follow_handedOver_iff hphase hf).mp hp, hf⟩

/-! ### Outcomes -/

section

open Agent

variable {maxRounds : Nat} {settings : Role → CrewSettings} {provider : Role → Chat.Provider σ}
  {cause : Chat.ProviderError} {reply : Chat.Reply}

/-- The controller of a run makes its decision of the one answer. -/
theorem controller_invoke (maxRounds : Nat) (settings : Role → CrewSettings)
    (provider : Role → Chat.Provider σ) (c : Context) (s : σ) :
    (ofProviders maxRounds settings provider).controller.invoke c s =
      (Agent.decided (provider .controller (controllerQuery (settings .controller) c) s).1,
        (provider .controller (controllerQuery (settings .controller) c) s).2) :=
  controller_eq (provider .controller) (settings .controller) c s

/-- The narrator of a run makes its reply of the one answer. -/
theorem narrator_invoke (maxRounds : Nat) (settings : Role → CrewSettings)
    (provider : Role → Chat.Provider σ) (c : Context) (s : σ) :
    (ofProviders maxRounds settings provider).narrator.invoke c s =
      (heard (provider .narrator (narratorQuery (settings .narrator) c) s).1,
        (provider .narrator (narratorQuery (settings .narrator) c) s).2) :=
  narrator_eq (provider .narrator) (settings .narrator) c s

/-- The controller fails the run if its provider fails in a round. -/
theorem Leads.outcome_failed
    (h : Leads (ofProviders maxRounds settings provider) context s₀ rs p s)
    (hlength : rs.length < maxRounds)
    (hanswer : (provider .controller (controllerQuery (settings .controller) p.context) s).1 =
      .error cause) :
    ((ofProviders maxRounds settings provider).run context s₀).1.outcome =
      .error (.invocation Role.controller.agentName cause.message) := by
  have hinvoke := controller_invoke maxRounds settings provider p.context s
  rw [hanswer] at hinvoke
  have hleft : maxRounds - rs.length = maxRounds - (rs.length + 1) + 1 := by omega
  rw [(h.reaches (Nat.le_of_lt hlength)).run_eq]
  show ((runRounds _ (maxRounds - rs.length) p s).1).outcome = _
  rw [hleft, runRounds_of_error hinvoke]
  rfl

/-- The rounds fail the run if as many tool calls have been made. -/
theorem Leads.outcome_exhausted
    (h : Leads (ofProviders maxRounds settings provider) context s₀ rs p s)
    (hlength : rs.length = maxRounds) :
    ((ofProviders maxRounds settings provider).run context s₀).1.outcome =
      .error (.roundsExceeded maxRounds) := by
  rw [(h.reaches (Nat.le_of_eq hlength)).run_eq]
  show ((runRounds _ (maxRounds - rs.length) p s).1).outcome = _
  rw [hlength, Nat.sub_self]
  rfl

/-- The narrator fails the run if its provider fails when it has taken over. -/
theorem TakesOver.outcome_failed
    (h : TakesOver (ofProviders maxRounds settings provider) context s₀ rs p output q s)
    (hanswer : (provider .narrator (narratorQuery (settings .narrator) q.context) s).1 =
      .error cause) :
    ((ofProviders maxRounds settings provider).run context s₀).1.outcome =
      .error (.invocation Role.narrator.agentName cause.message) := by
  have hinvoke := narrator_invoke maxRounds settings provider q.context s
  rw [hanswer] at hinvoke
  rw [h.run_eq, narrate_of_error hinvoke]
  rfl

/-- The run succeeds if the narrator has taken over and its provider answers. -/
theorem TakesOver.outcome_ok
    (h : TakesOver (ofProviders maxRounds settings provider) context s₀ rs p output q s)
    (hanswer : (provider .narrator (narratorQuery (settings .narrator) q.context) s).1 =
      .ok reply) :
    ∃ report, ((ofProviders maxRounds settings provider).run context s₀).1.outcome = .ok report ∧
      report.finalResponse = reply.text ∧
      report.events = q.events ++ [.message Role.narrator.agentName reply.text] ∧
      report.outputs = q.outputs ++ [⟨Role.narrator.agentName, reply.text⟩] := by
  have hinvoke := narrator_invoke maxRounds settings provider q.context s
  rw [hanswer] at hinvoke
  rw [h.run_eq, narrate_of_ok hinvoke]
  exact ⟨_, rfl, rfl, rfl, rfl⟩

/-- What a run reports that succeeds: the tool calls with their responses, the narrator's message,
    and its text as the last output and as the final response. -/
theorem TakesOver.report {report : Report}
    (h : TakesOver (ofProviders maxRounds settings provider) context s₀ rs p output q s)
    (hok : ((ofProviders maxRounds settings provider).run context s₀).1.outcome = .ok report) :
    report.events = q.events ++ [.message Role.narrator.agentName report.finalResponse] ∧
      report.outputs = p.outputs ++ [⟨Role.narrator.agentName, report.finalResponse⟩] ∧
      ∃ reply, (provider .narrator (narratorQuery (settings .narrator) q.context) s).1 =
        .ok reply ∧ report.finalResponse = reply.text := by
  cases hanswer : (provider .narrator (narratorQuery (settings .narrator) q.context) s).1 with
  | error cause => cases (h.outcome_failed hanswer).symm.trans hok
  | ok reply =>
    obtain ⟨given, hgiven, hfinal, hevents, houtputs⟩ := h.outcome_ok hanswer
    obtain rfl := Except.ok.inj (hgiven.symm.trans hok)
    refine ⟨?_, ?_, reply, rfl, hfinal⟩
    · rw [hevents, hfinal]
    · rw [houtputs, h.made.1, hfinal]

/-- The last word of a run is the narrator's, whether or not its provider answers. -/
theorem TakesOver.state_eq
    (h : TakesOver (ofProviders maxRounds settings provider) context s₀ rs p output q s) :
    ((ofProviders maxRounds settings provider).run context s₀).2 =
      (provider .narrator (narratorQuery (settings .narrator) q.context) s).2 := by
  have hinvoke := narrator_invoke maxRounds settings provider q.context s
  rw [h.run_eq]
  cases hanswer : (provider .narrator (narratorQuery (settings .narrator) q.context) s).1 with
  | error cause =>
    rw [hanswer] at hinvoke
    rw [narrate_of_error hinvoke]
  | ok reply =>
    rw [hanswer] at hinvoke
    rw [narrate_of_ok hinvoke]

/-- A run that succeeds has been taken over by the narrator, whose provider has answered; any other
    run fails in one of these ways. -/
theorem outcome_cases (maxRounds : Nat) (settings : Role → CrewSettings)
    (provider : Role → Chat.Provider σ) (context : Context) (s₀ : σ) :
    let crew := ofProviders maxRounds settings provider
    (∃ rs p output q s reply, crew.TakesOver context s₀ rs p output q s ∧
        (provider .narrator (narratorQuery (settings .narrator) q.context) s).1 = .ok reply) ∨
      (∃ rs p s cause, crew.Leads context s₀ rs p s ∧ rs.length < maxRounds ∧
        (provider .controller (controllerQuery (settings .controller) p.context) s).1 =
          .error cause) ∨
      (∃ rs p output q s cause, crew.TakesOver context s₀ rs p output q s ∧
        (provider .narrator (narratorQuery (settings .narrator) q.context) s).1 = .error cause) ∨
      ∃ rs p s, crew.Leads context s₀ rs p s ∧ rs.length = maxRounds := by
  intro crew
  rcases (crew.ends_run context s₀).course with
    ⟨rs, p, output, q, s, h⟩ | ⟨rs, p, s, e, s', h, hlength, hi⟩ | ⟨rs, p, s, h, hlength⟩
  · cases hanswer : (provider .narrator (narratorQuery (settings .narrator) q.context) s).1 with
    | ok reply => exact .inl ⟨rs, p, output, q, s, reply, h, hanswer⟩
    | error cause => exact .inr (.inr (.inl ⟨rs, p, output, q, s, cause, h, hanswer⟩))
  · have hinvoke := (controller_invoke maxRounds settings provider p.context s).symm.trans hi
    obtain ⟨cause, hanswer, -⟩ := decided_eq_error_iff.mp (congrArg Prod.fst hinvoke)
    exact .inr (.inl ⟨rs, p, s, cause, h, hlength, hanswer⟩)
  · exact .inr (.inr (.inr ⟨rs, p, s, h, hlength⟩))

/-- A run succeeds exactly if the narrator takes over and its provider answers. -/
theorem exists_report_iff (maxRounds : Nat) (settings : Role → CrewSettings)
    (provider : Role → Chat.Provider σ) (context : Context) (s₀ : σ) :
    let crew := ofProviders maxRounds settings provider
    (∃ report, (crew.run context s₀).1.outcome = .ok report) ↔
      ∃ rs p output q s reply, crew.TakesOver context s₀ rs p output q s ∧
        (provider .narrator (narratorQuery (settings .narrator) q.context) s).1 = .ok reply := by
  intro crew
  constructor
  · rintro ⟨report, hok⟩
    rcases outcome_cases maxRounds settings provider context s₀ with
      hover | ⟨rs, p, s, cause, h, hlength, hanswer⟩ |
        ⟨rs, p, output, q, s, cause, h, hanswer⟩ | ⟨rs, p, s, h, hlength⟩
    · exact hover
    · cases (h.outcome_failed hlength hanswer).symm.trans hok
    · cases (h.outcome_failed hanswer).symm.trans hok
    · cases (h.outcome_exhausted hlength).symm.trans hok
  · rintro ⟨rs, p, output, q, s, reply, h, hanswer⟩
    obtain ⟨report, hok, -⟩ := h.outcome_ok hanswer
    exact ⟨report, hok⟩

/-- A run fails exactly with the controller's provider, with the narrator's, or with its rounds. -/
theorem outcome_eq_error_iff (maxRounds : Nat) (settings : Role → CrewSettings)
    (provider : Role → Chat.Provider σ) (context : Context) (s₀ : σ) (e : TurnError) :
    let crew := ofProviders maxRounds settings provider
    (crew.run context s₀).1.outcome = .error e ↔
      (∃ rs p s cause, crew.Leads context s₀ rs p s ∧ rs.length < maxRounds ∧
        (provider .controller (controllerQuery (settings .controller) p.context) s).1 =
          .error cause ∧
        e = .invocation Role.controller.agentName cause.message) ∨
      (∃ rs p output q s cause, crew.TakesOver context s₀ rs p output q s ∧
        (provider .narrator (narratorQuery (settings .narrator) q.context) s).1 = .error cause ∧
        e = .invocation Role.narrator.agentName cause.message) ∨
      ((∃ rs p s, crew.Leads context s₀ rs p s ∧ rs.length = maxRounds) ∧
        e = .roundsExceeded maxRounds) := by
  intro crew
  constructor
  · intro herror
    rcases outcome_cases maxRounds settings provider context s₀ with
      ⟨rs, p, output, q, s, reply, h, hanswer⟩ | ⟨rs, p, s, cause, h, hlength, hanswer⟩ |
        ⟨rs, p, output, q, s, cause, h, hanswer⟩ | ⟨rs, p, s, h, hlength⟩
    · obtain ⟨report, hok, -⟩ := h.outcome_ok hanswer
      cases hok.symm.trans herror
    · have he := Except.error.inj ((h.outcome_failed hlength hanswer).symm.trans herror)
      exact .inl ⟨rs, p, s, cause, h, hlength, hanswer, he.symm⟩
    · have he := Except.error.inj ((h.outcome_failed hanswer).symm.trans herror)
      exact .inr (.inl ⟨rs, p, output, q, s, cause, h, hanswer, he.symm⟩)
    · have he := Except.error.inj ((h.outcome_exhausted hlength).symm.trans herror)
      exact .inr (.inr ⟨⟨rs, p, s, h, hlength⟩, he.symm⟩)
  · rintro (⟨rs, p, s, cause, h, hlength, hanswer, rfl⟩ |
      ⟨rs, p, output, q, s, cause, h, hanswer, rfl⟩ | ⟨⟨rs, p, s, h, hlength⟩, rfl⟩)
    · exact h.outcome_failed hlength hanswer
    · exact h.outcome_failed hanswer
    · exact h.outcome_exhausted hlength

/-- A tool call that does not hand over leads to the next round, whatever it comes to. -/
theorem Leads.leads_on (h : Leads (ofProviders maxRounds settings provider) context s₀ rs p s)
    (hlength : rs.length < maxRounds) {call : Chat.ToolCall}
    (hanswer : provider .controller (controllerQuery (settings .controller) p.context) s =
      (.ok (.toolCall call), s'))
    (hcall : ¬ (decision (.toolCall call)).HandsOver) :
    ∃ r p' s'', decision (.toolCall call) = .toolCall r ∧
      Leads (ofProviders maxRounds settings provider) context s₀ (rs ++ [r]) p' s'' ∧
      (ofProviders maxRounds settings provider).run context s₀ =
        (ofProviders maxRounds settings provider).runRounds (maxRounds - (rs.length + 1)) p'
          s'' := by
  obtain ⟨r, hr, -⟩ := exists_decision_toolCall call
  rw [hr] at hcall
  have hinvoke := controller_invoke maxRounds settings provider p.context s
  rw [hanswer] at hinvoke
  have hi : (ofProviders maxRounds settings provider).controller.invoke p.context s =
      (.ok (.toolCall r), s') := by
    rw [hinvoke, ← hr]
    rfl
  have hleads := Leads.call h hi hcall rfl
  have hrounds : (rs ++ [r]).length ≤ maxRounds := by
    rw [List.length_append]
    exact hlength
  have hrun := (hleads.reaches hrounds).run_eq
  rw [List.length_append] at hrun
  exact ⟨r, _, _, hr, hleads, hrun⟩

/-- A note is what the controller's provider answered right before the narrator is asked. -/
theorem TakesOver.asked {note : String}
    (h : TakesOver (ofProviders maxRounds settings provider) context s₀ rs p (.delegate note) q s) :
    ∃ s₁, Leads (ofProviders maxRounds settings provider) context s₀ rs p s₁ ∧
      provider .controller (controllerQuery (settings .controller) p.context) s₁ =
        (.ok (.answer note), s) := by
  cases h with
  | intro h hlength hi ho hf =>
    obtain ⟨hstate, -⟩ := follow_of_handsOver ho hf
    have hinvoke := (controller_invoke maxRounds settings provider p.context _).symm.trans hi
    obtain ⟨reply, hreply, hdecision⟩ := decided_eq_ok_iff.mp (congrArg Prod.fst hinvoke)
    rw [answer_of_decision hdecision] at hreply
    exact ⟨_, h, Prod.ext hreply ((congrArg Prod.snd hinvoke).trans hstate.symm)⟩

/-- **Endings.** For all providers, settings and contexts, a run that the controller leads ends as
    follows.
    It succeeds exactly if, within its rounds, the controller makes tool calls that do not hand
    over, then decides on a transfer to the narrator or a plain text, and then the narrator's
    provider answers.  It fails exactly with the failure of the controller's provider in a round,
    with that of the narrator's behind a handover, or because as many tool calls as it has rounds
    were made.  Every other tool call leads on to the next round, whatever it comes to; so do all
    those of other tools than the transfer and all those with arguments that cannot be read.
    A run that succeeds has shown its tool calls in order, each with its response, and at the end
    one message of the narrator with the final response, which is also the last output.
    A plain text of the controller is no event and no output; right behind it the narrator alone is
    asked, on a context that shows it unless it is blank. -/
theorem run_ends (maxRounds : Nat) (settings : Role → CrewSettings)
    (provider : Role → Chat.Provider σ) (context : Context) (s₀ : σ) :
    let crew := ofProviders maxRounds settings provider
    let outcome := (crew.run context s₀).1.outcome
    let askController (p : LedProgress) :=
      provider .controller (controllerQuery (settings .controller) p.context)
    let askNarrator (q : LedProgress) :=
      provider .narrator (narratorQuery (settings .narrator) q.context)
    let narrator := Role.narrator.agentName
    ((∃ report, outcome = .ok report) ↔
      ∃ rs p output q s reply, crew.TakesOver context s₀ rs p output q s ∧
        (askNarrator q s).1 = .ok reply) ∧
    (∀ e, outcome = .error e ↔
      (∃ rs p s cause, crew.Leads context s₀ rs p s ∧ rs.length < maxRounds ∧
        (askController p s).1 = .error cause ∧
        e = .invocation Role.controller.agentName cause.message) ∨
      (∃ rs p output q s cause, crew.TakesOver context s₀ rs p output q s ∧
        (askNarrator q s).1 = .error cause ∧ e = .invocation narrator cause.message) ∨
      ((∃ rs p s, crew.Leads context s₀ rs p s ∧ rs.length = maxRounds) ∧
        e = .roundsExceeded maxRounds)) ∧
    (∀ rs p s call s', crew.Leads context s₀ rs p s → rs.length < maxRounds →
      askController p s = (.ok (.toolCall call), s') → ¬ (decision (.toolCall call)).HandsOver →
      ∃ r p' s'', decision (.toolCall call) = .toolCall r ∧
        crew.Leads context s₀ (rs ++ [r]) p' s'' ∧
        crew.run context s₀ = crew.runRounds (maxRounds - (rs.length + 1)) p' s'') ∧
    (∀ call : Chat.ToolCall,
      call.name ≠ transferTool ∨ (∃ e, ToolRequest.ofText call.name call.arguments = .error e) →
      ¬ (decision (.toolCall call)).HandsOver) ∧
    (∀ rs p output q s report, crew.TakesOver context s₀ rs p output q s →
      outcome = .ok report →
      (∃ made : List Exchange, made.map (·.request) = rs ++ output.call?.toList ∧
        q.context.exchanges = context.exchanges ++ made ∧
        report.events =
          made.flatMap Exchange.events ++ [.message narrator report.finalResponse]) ∧
      report.outputs = p.outputs ++ [⟨narrator, report.finalResponse⟩] ∧
      ∃ reply, (askNarrator q s).1 = .ok reply ∧ report.finalResponse = reply.text) ∧
    (∀ rs p note q s, crew.TakesOver context s₀ rs p (.delegate note) q s →
      (∃ s₁, crew.Leads context s₀ rs p s₁ ∧ askController p s₁ = (.ok (.answer note), s)) ∧
      (crew.run context s₀).2 = (askNarrator q s).2 ∧
      (q.context =
        if Text.isBlank note then p.context else p.context.push Role.controller.agentName note) ∧
      ∀ report, outcome = .ok report →
        report.events = p.events ++ [.message narrator report.finalResponse]) := by
  intro crew outcome askController askNarrator narrator
  -- the two kinds of outcomes, what leads on, what a run reports, and what a note comes to
  refine ⟨exists_report_iff maxRounds settings provider context s₀,
    outcome_eq_error_iff maxRounds settings provider context s₀, ?_,
    fun call => not_handsOver_toolCall, ?_, ?_⟩
  · intro rs p s call s' h hlength hanswer hcall
    exact h.leads_on hlength hanswer hcall
  · intro rs p output q s report h hok
    obtain ⟨hevents, houtputs, hfinal⟩ := h.report hok
    obtain ⟨-, made, hrequests, hexchanges, hshown⟩ := h.made
    rw [hshown] at hevents
    exact ⟨⟨made, hrequests, hexchanges, hevents⟩, houtputs, hfinal⟩
  · intro rs p note q s h
    refine ⟨h.asked, h.state_eq, h.of_note.2, fun report hok => ?_⟩
    rw [(h.report hok).1, h.of_note.1]

end

end DelegatingCrew

end MathAgents
