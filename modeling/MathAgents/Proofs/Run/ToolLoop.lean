import MathAgents.Proofs.Run.ChatHistory
import MathAgents.Proofs.Run.PoetryRefusal
import MathAgents.Proofs.Tool.Reports

namespace MathAgents

/-!
# The tool loop of the math agent

The math agent asks its model again and again, as long as it is answered with tool calls and has
calls left.  Each tool call is answered, well or badly, and the model is shown the answer; none of
them ends the loop.  What ends it is the first answer that is no tool call, or the limit.  Where the
model answers, the last tool call decides whether the agent succeeds, be it a call of the calculator
or of a tool that there is none of.

* `Agent.MathEnds` — how an invocation ends, by the answers that it got.
* `Agent.MathConverses.ends` — every conversation ends in one of these ways.
* `Agent.Relays` — the text that a tool call has to be answered with.
* `Agent.loop_stops_and_relays` — all invocations.
* `Agent.outcome_by_last_call` — the outcome where the model answers.
* `Agent.evaluation_overruled` — a call of an unknown tool behind an evaluation that succeeded.
-/

/-! ### Tool calls in a conversation -/

/-- The tool call that a consultation is answered with. -/
def Consultation.call? (x : Consultation) : Option Chat.ToolCall :=
  match x.answer with
  | .ok (.toolCall call) => some call
  | _ => none

/-- A consultation that the provider fails is answered with no tool call. -/
theorem Consultation.call?_of_error {x : Consultation} {e : Chat.ProviderError}
    (h : x.answer = .error e) : x.call? = none := by
  simp only [call?, h]

/-- A consultation that the model answers is answered with no tool call. -/
theorem Consultation.call?_of_answer {x : Consultation} {content : String}
    (h : x.answer = .ok (.answer content)) : x.call? = none := by
  simp only [call?, h]

namespace Consultations

/-- The tool calls that a conversation is answered with. -/
def calls (talk : Consultations) : List Chat.ToolCall := talk.filterMap Consultation.call?

/-- Where one answer is no tool call, not all of them are. -/
theorem not_all_calls {talk : Consultations} {x : Consultation} (hx : x ∈ talk)
    (hnone : x.call? = none) : ¬ ∀ y ∈ talk, y.call?.isSome := by
  intro hcalls
  have hcall := hcalls x hx
  rw [hnone] at hcall
  cases hcall

end Consultations

namespace Agent

open Consultations

variable {settings : CrewSettings} {script : Script} {c : Context} {log talk : Consultations}
  {outcome : Except AgentError Output} {temperature : Float} {limit remaining : Nat}
  {messages : List Chat.Message} {last : Option ToolResponse} {call : Chat.ToolCall}
  {content : String}

/-! ### How an invocation ends -/

/-- What the last tool call of a conversation came to; `last` is what the calls before came to. -/
def lastResponse (last : Option ToolResponse) (talk : Consultations) : Option ToolResponse :=
  (talk.calls.getLast?.map answerMathCall).or last

/-- How the math agent ends an invocation with so many calls left: it is answered with tool calls
    until no calls are left, or until its provider fails, or until its model gives an answer. -/
inductive MathEnds (limit remaining : Nat) (last : Option ToolResponse) :
    Consultations → Except AgentError Output → Prop
  | exhausted {talk : Consultations} (hlength : talk.length = remaining)
      (hcalls : ∀ x ∈ talk, x.call?.isSome) :
      MathEnds limit remaining last talk (.error (.iterationLimit limit))
  | failed {talk : Consultations} {x : Consultation} {e : Chat.ProviderError}
      (hlength : talk.length < remaining) (hcalls : ∀ x ∈ talk, x.call?.isSome)
      (hx : x.answer = .error e) :
      MathEnds limit remaining last (talk ++ [x]) (.error (.invocation e))
  | concluded {talk : Consultations} {x : Consultation} {content : String}
      (hlength : talk.length < remaining) (hcalls : ∀ x ∈ talk, x.call?.isSome)
      (hx : x.answer = .ok (.answer content)) :
      MathEnds limit remaining last (talk ++ [x])
        (concludeMath (lastResponse last talk) content)

/-- A tool call may stand in front. -/
theorem MathEnds.cons {x : Consultation} (hx : x.call? = some call)
    (h : MathEnds limit remaining (some (answerMathCall call)) talk outcome) :
    MathEnds limit (remaining + 1) last (x :: talk) outcome := by
  have hcons {talk : Consultations} (hcalls : ∀ y ∈ talk, y.call?.isSome) :
      ∀ y ∈ x :: talk, y.call?.isSome :=
    List.forall_mem_cons.mpr ⟨by simp [hx], hcalls⟩
  cases h with
  | exhausted hlength hcalls => exact .exhausted (by simp [hlength]) (hcons hcalls)
  | failed hlength hcalls he =>
    rw [← List.cons_append]
    exact .failed (by simpa using hlength) (hcons hcalls) he
  | @concluded talk y content hlength hcalls hanswer =>
    -- the call in front is the last one unless there are others behind it
    have hresponse : lastResponse (some (answerMathCall call)) talk =
        lastResponse last (x :: talk) := by
      have hfirst : calls (x :: talk) = call :: calls talk := List.filterMap_cons_some hx
      rw [lastResponse, lastResponse, hfirst, List.getLast?_cons]
      cases (calls talk).getLast? <;> rfl
    rw [← List.cons_append, hresponse]
    exact .concluded (by simpa using hlength) (hcons hcalls) hanswer

/-- **Exits.** Every conversation of the math agent ends in one of these ways. -/
theorem MathConverses.ends
    (h : MathConverses temperature limit remaining messages last talk outcome) :
    MathEnds limit remaining last talk outcome := by
  -- by induction on the calls, each of which decides anew what the last call came to
  induction h with
  | exhausted => exact .exhausted rfl (List.forall_mem_nil _)
  | failed => exact @MathEnds.failed _ _ _ [] _ _ (Nat.succ_pos _) (List.forall_mem_nil _) rfl
  | concluded =>
    exact @MathEnds.concluded _ _ _ [] _ _ (Nat.succ_pos _) (List.forall_mem_nil _) rfl
  | called _ ih => exact ih.cons rfl

/-- An invocation on a script ends in one of the ways that there are. -/
theorem mathEnds_of_invoke
    (h : (script.agent settings .math).invoke c log = (outcome, log ++ talk)) :
    MathEnds settings.maxIterations settings.maxIterations none talk outcome := by
  obtain ⟨talk', outcome', hconverses, -, hinvoke⟩ :=
    script.exists_converses settings (by decide : Role.math ≠ .transcriber) c log
  obtain ⟨rfl, happend⟩ := Prod.mk.inj (hinvoke.symm.trans h)
  obtain rfl := List.append_cancel_left happend
  cases hconverses with
  | math h => exact h.ends

namespace MathEnds

variable {n : Nat} {e : Chat.ProviderError}

/-- The loop asks no more often than it has calls left. -/
theorem length_le (h : MathEnds limit remaining last talk outcome) : talk.length ≤ remaining := by
  cases h with
  | exhausted hlength => exact Nat.le_of_eq hlength
  | failed hlength | concluded hlength =>
    rw [List.length_append, List.length_singleton]
    exact hlength

/-- The loop goes on behind tool calls only. -/
theorem isSome_of_mem_dropLast (h : MathEnds limit remaining last talk outcome) :
    ∀ x ∈ talk.dropLast, x.call?.isSome := by
  cases h with
  | exhausted _ hcalls => exact fun x hx => hcalls x ((List.dropLast_sublist talk).subset hx)
  | failed _ hcalls | concluded _ hcalls =>
    rw [List.dropLast_concat]
    exact hcalls

/-- While it has calls left, the loop ends behind an answer that is no tool call. -/
theorem exists_last (h : MathEnds limit remaining last talk outcome)
    (hlength : talk.length < remaining) : ∃ x, talk.getLast? = some x ∧ x.call? = none := by
  cases h with
  | exhausted hall => omega
  | failed _ _ hx => exact ⟨_, List.getLast?_concat, Consultation.call?_of_error hx⟩
  | concluded _ _ hx => exact ⟨_, List.getLast?_concat, Consultation.call?_of_answer hx⟩

/-- The limit is reported exactly if all calls were used up, for tool calls only. -/
theorem exhausted_iff (h : MathEnds limit remaining last talk outcome) :
    outcome = .error (.iterationLimit n) ↔
      n = limit ∧ talk.length = remaining ∧ ∀ x ∈ talk, x.call?.isSome := by
  -- in the last two cases the last answer is no tool call
  cases h with
  | exhausted hlength hcalls =>
    refine ⟨fun hlimit => ?_, ?_⟩
    · obtain rfl := AgentError.iterationLimit.inj (Except.error.inj hlimit)
      exact ⟨rfl, hlength, hcalls⟩
    · rintro ⟨rfl, -, -⟩
      rfl
  | failed _ _ hx =>
    refine iff_of_false nofun fun hends => ?_
    exact not_all_calls (by simp) (Consultation.call?_of_error hx) hends.2.2
  | concluded _ _ hx =>
    refine iff_of_false (fun hlimit => ?_) fun hends => ?_
    · obtain ⟨_, _, -, hpayload⟩ := concludeMath_eq_error_iff.mp hlimit
      cases hpayload
    · exact not_all_calls (by simp) (Consultation.call?_of_answer hx) hends.2.2

/-- A failure of the provider is reported exactly if it is the last answer. -/
theorem failed_iff (h : MathEnds limit remaining last talk outcome) :
    outcome = .error (.invocation e) ↔ ∃ x, talk.getLast? = some x ∧ x.answer = .error e := by
  cases h with
  | exhausted _ hcalls =>
    refine iff_of_false nofun ?_
    rintro ⟨x, hx, he⟩
    exact not_all_calls (List.mem_of_getLast? hx) (Consultation.call?_of_error he) hcalls
  | failed _ _ hx => simp [hx]
  | concluded _ _ hx =>
    refine iff_of_false (fun herror => ?_) (by simp [hx])
    obtain ⟨_, _, -, hpayload⟩ := concludeMath_eq_error_iff.mp herror
    cases hpayload

/-- Where the last answer is one of the model, the last tool call before it decides. -/
theorem eq_concludeMath (h : MathEnds limit remaining last talk outcome)
    (hanswer : talk.getLast?.map (·.answer) = some (.ok (.answer content))) :
    outcome = concludeMath (lastResponse last talk) content := by
  cases h with
  | exhausted _ hcalls =>
    obtain ⟨x, hx, hanswer⟩ := Option.map_eq_some_iff.mp hanswer
    exact absurd hcalls
      (not_all_calls (List.mem_of_getLast? hx) (Consultation.call?_of_answer hanswer))
  | failed _ _ hx => simp [hx] at hanswer
  | @concluded talk x content' _ _ hx =>
    obtain rfl : content' = content := by simpa [hx] using hanswer
    have hcalls : calls (talk ++ [x]) = calls talk := by
      simp [calls, Consultation.call?_of_answer hx]
    rw [lastResponse, lastResponse, hcalls]

/-- A failure of a tool, and a reply, is reported exactly if the last answer is one of the
    model. -/
theorem concluded_iff (h : MathEnds limit remaining last talk outcome) :
    ((∃ payload, outcome = .error (.toolFailure payload)) ∨ ∃ output, outcome = .ok output) ↔
      ∃ x content, talk.getLast? = some x ∧ x.answer = .ok (.answer content) := by
  cases h with
  | exhausted _ hcalls =>
    refine iff_of_false (by simp) ?_
    rintro ⟨x, content, hx, hanswer⟩
    exact not_all_calls (List.mem_of_getLast? hx) (Consultation.call?_of_answer hanswer) hcalls
  | failed _ _ hx => simp [hx]
  | @concluded talk x content _ _ hx =>
    refine iff_of_true ?_ ⟨x, content, by simp, hx⟩
    cases hconclude : concludeMath (lastResponse last talk) content with
    | ok output => exact .inr ⟨output, rfl⟩
    | error e =>
      obtain ⟨response, -, -, rfl⟩ := concludeMath_eq_error_iff.mp hconclude
      exact .inl ⟨response.response, rfl⟩

end MathEnds

/-! ### What the model is shown -/

/-- The text that a tool call has to be answered with: what the calculator answers for arguments
    that can be read, or what is wrong with the arguments or with the name of the tool. -/
inductive Relays (call : Chat.ToolCall) : String → Prop
  | evaluated {arguments : Fields} (hname : call.name = Calculator.toolName)
      (hreads : ToolRequest.Reads call.arguments arguments) :
      Relays call (Calculator.call ⟨call.name, arguments⟩).response.print
  | unreadable {e : ToolError} (hname : call.name = Calculator.toolName)
      (hreads : ¬ ∃ arguments, ToolRequest.Reads call.arguments arguments)
      (he : ToolRequest.ofText call.name call.arguments = .error e) :
      Relays call (Failure.value ⟨"ValidationError", some "SyntaxError", e.message⟩).print
  | unknown (hname : call.name ≠ Calculator.toolName) :
      Relays call (Failure.value ⟨"UnknownTool", none, s!"Unknown tool: {call.name}"⟩).print

/-- A call of a tool that there is none of comes to a failure. -/
theorem answerMathCall_of_ne (hname : call.name ≠ Calculator.toolName) :
    answerMathCall call = .ofFailure call.name
      ⟨"UnknownTool", none, s!"Unknown tool: {call.name}"⟩ := by
  rw [answerMathCall, if_neg hname]
  rfl

/-- Such a call counts as one that failed. -/
theorem isError_answerMathCall_of_ne (hname : call.name ≠ Calculator.toolName) :
    (answerMathCall call).isError := by
  rw [answerMathCall_of_ne hname]
  exact Failure.isError_value _ _

/-- The text that the model is shown is the one that it has to be shown. -/
theorem relays_answerMathCall (call : Chat.ToolCall) :
    Relays call (answerMathCall call).response.print := by
  by_cases hname : call.name = Calculator.toolName
  · rw [answerMathCall, if_pos hname]
    cases hread : ToolRequest.ofText call.name call.arguments with
    | ok r =>
      obtain ⟨hr, hreads⟩ := ToolRequest.ofText_eq_ok_iff.mp hread
      obtain ⟨name, arguments⟩ := r
      obtain rfl : name = call.name := hr
      exact .evaluated hname hreads
    | error e =>
      exact .unreadable hname (ToolRequest.exists_ofText_eq_error_iff.mp ⟨e, hread⟩) hread
  · rw [answerMathCall_of_ne hname]
    exact .unknown hname

/-- The calls of the calculator among some tool calls. -/
def evaluations (calls : List Chat.ToolCall) : List Chat.ToolCall :=
  calls.filter (·.name = Calculator.toolName)

/-- The calculator never answers that a tool is unknown. -/
theorem errorKind?_call (r : ToolRequest) :
    (Calculator.call r).errorKind? ≠ some "UnknownTool" := by
  unfold Calculator.call
  cases r.argument Calculator.argumentName with
  | error e =>
    show (ToolResponse.ofFailure _ _).errorKind? ≠ _
    rw [ToolResponse.errorKind?_ofFailure]
    show some "ValidationError" ≠ _
    decide
  | ok expression =>
    show (ToolResponse.mk _ (Calculator.answer expression)).errorKind? ≠ _
    unfold Calculator.answer
    cases h : Expr.evaluate expression with
    | error e =>
      have hkind : (ToolResponse.mk Calculator.toolName e.toFailure.value).errorKind? =
          some e.kind.name := e.toFailure.kind_value
      rw [hkind]
      cases e.kind <;> decide
    | ok report =>
      show (ToolResponse.mk _ report.toJson.canonical).errorKind? ≠ _
      rw [Calculator.canonical_report (Expr.isFinite_of_evaluate h)]
      simp [ToolResponse.errorKind?, Calculator.success, Json.get?, Fields.get?]

/-- A call comes to an unknown tool exactly if it is no call of the calculator. -/
theorem errorKind?_answerMathCall_iff :
    (answerMathCall call).errorKind? = some "UnknownTool" ↔
      call.name ≠ Calculator.toolName := by
  by_cases hname : call.name = Calculator.toolName
  · refine iff_of_false ?_ (not_not_intro hname)
    rw [answerMathCall, if_pos hname]
    cases ToolRequest.ofText call.name call.arguments with
    | error e =>
      show (ToolResponse.ofFailure _ _).errorKind? ≠ _
      rw [ToolResponse.errorKind?_ofFailure]
      show some "ValidationError" ≠ _
      decide
    | ok r => exact errorKind?_call r
  · refine iff_of_true ?_ hname
    rw [answerMathCall_of_ne hname, ToolResponse.errorKind?_ofFailure]

/-- No call of the calculator decides as a call of another tool does: the payloads differ. -/
theorem concludeMath_ne_evaluations (hname : call.name ≠ Calculator.toolName)
    (calls : List Chat.ToolCall) :
    concludeMath (some (answerMathCall call)) content ≠
      concludeMath ((evaluations calls).getLast?.map answerMathCall) content := by
  intro hsame
  have hfails : concludeMath (some (answerMathCall call)) content =
      .error (.toolFailure (answerMathCall call).response) :=
    concludeMath_eq_error_iff.mpr ⟨_, rfl, isError_answerMathCall_of_ne hname, rfl⟩
  obtain ⟨response, hresponse, -, hpayload⟩ :=
    concludeMath_eq_error_iff.mp (hsame.symm.trans hfails)
  obtain ⟨last, hlast, rfl⟩ := Option.map_eq_some_iff.mp hresponse
  have hevaluation : last.name = Calculator.toolName := by
    simpa using (List.mem_filter.mp (List.mem_of_getLast? hlast)).2
  refine errorKind?_answerMathCall_iff.mp ?_ hevaluation
  have hkind : (answerMathCall last).errorKind? = (answerMathCall call).errorKind? := by
    rw [ToolResponse.errorKind?, ← AgentError.toolFailure.inj hpayload]
    rfl
  exact hkind.trans (errorKind?_answerMathCall_iff.mpr hname)

/-- The last tool call decides as the last call of the calculator would exactly if it is one. -/
theorem concludeMath_evaluations_iff {calls : List Chat.ToolCall} :
    concludeMath (calls.getLast?.map answerMathCall) content =
        concludeMath ((evaluations calls).getLast?.map answerMathCall) content ↔
      ∀ call, calls.getLast? = some call → call.name = Calculator.toolName := by
  cases hlast : calls.getLast? with
  | none =>
    obtain rfl := List.getLast?_eq_none_iff.mp hlast
    simp [evaluations]
  | some call =>
    obtain ⟨front, rfl⟩ := List.getLast?_eq_some_iff.mp hlast
    by_cases hname : call.name = Calculator.toolName
    · simp [evaluations, hname]
    · exact iff_of_false (concludeMath_ne_evaluations hname _) fun hall => hname (hall call rfl)

/-! ### A tool that there is none of -/

/-- A call of the calculator that is answered with a report. -/
def evaluationCall : Chat.ToolCall :=
  ⟨"1", Calculator.toolName, "\x7b\"expression\": \"12 / 3 + 4\"\x7d"⟩

/-- A call of a tool that is not on offer. -/
def lookupCall : Chat.ToolCall := ⟨"2", "lookup", "\x7b\x7d"⟩

/-- The answers of a model that calls both, and then answers. -/
def lookupScript : Script :=
  Script.play [.ok (.toolCall evaluationCall), .ok (.toolCall lookupCall), .ok (.answer "8.0")]

/-- The settings of that invocation. -/
def lookupSettings : CrewSettings := ⟨0, 1, 3⟩

/-- The context of that invocation. -/
def lookupContext : Context :=
  { sessionId := "s", userId := "u", request := "What is 12 / 3 + 4?" }

/-- That invocation is answered in full. -/
theorem lookup_invoke : ∃ (talk : Consultations) (outcome : Except AgentError Output),
    (lookupScript.agent lookupSettings .math).invoke lookupContext [] = (outcome, [] ++ talk) ∧
      outcome = concludeMath (some (answerMathCall lookupCall)) "8.0" ∧
      talk.calls = [evaluationCall, lookupCall] ∧
      talk.getLast?.map (·.answer) = some (.ok (.answer "8.0")) := by
  have hconverses : Converses lookupSettings .math lookupContext
      [⟨.math, _, .ok (.toolCall evaluationCall)⟩, ⟨.math, _, .ok (.toolCall lookupCall)⟩,
        ⟨.math, _, .ok (.answer "8.0")⟩] _ := .math (.called (.called .concluded))
  exact ⟨_, _, Script.invoke_of_converses hconverses ⟨rfl, rfl, rfl, trivial⟩, rfl, rfl, rfl⟩

/-- **The last tool call.** Where the model answers, the math agent fails exactly if the last tool
    call failed, with the payload of that call, and replies with the answer otherwise.  This is what
    the calls of the calculator alone would decide exactly if the last tool call is one of them, or
    if there is none.  A call of any other tool counts as one that failed, whatever the calculator
    answered before. -/
theorem outcome_by_last_call
    (hinvoke : (script.agent settings .math).invoke c log = (outcome, log ++ talk))
    (hanswer : talk.getLast?.map (·.answer) = some (.ok (.answer content))) :
    (∀ payload, outcome = .error (.toolFailure payload) ↔
      ∃ call, talk.calls.getLast? = some call ∧ (answerMathCall call).isError ∧
        payload = (answerMathCall call).response) ∧
    (outcome = .ok (.reply content) ↔
      ∀ call, talk.calls.getLast? = some call → ¬ (answerMathCall call).isError) ∧
    (outcome = concludeMath ((evaluations talk.calls).getLast?.map answerMathCall) content ↔
      ∀ call, talk.calls.getLast? = some call → call.name = Calculator.toolName) ∧
    ∀ call, talk.calls.getLast? = some call → call.name ≠ Calculator.toolName →
      outcome = .error (.toolFailure
        (Failure.value ⟨"UnknownTool", none, s!"Unknown tool: {call.name}"⟩)) := by
  have houtcome : outcome = concludeMath (talk.calls.getLast?.map answerMathCall) content := by
    have hends := (mathEnds_of_invoke hinvoke).eq_concludeMath hanswer
    rwa [lastResponse, Option.or_none] at hends
  rw [houtcome]
  refine ⟨fun payload => ?_, ?_, concludeMath_evaluations_iff, fun call hcall hname => ?_⟩
  · simp [concludeMath_eq_error_iff]
  · simp [concludeMath_eq_ok_iff]
  · rw [concludeMath_eq_error_iff, hcall]
    refine ⟨_, rfl, isError_answerMathCall_of_ne hname, ?_⟩
    rw [answerMathCall_of_ne hname]
    rfl

/-- In that invocation the lookup decides. -/
theorem outcome_by_last_call_lookup : ∃ talk : Consultations,
    (lookupScript.agent lookupSettings .math).invoke lookupContext [] =
      (.error (.toolFailure (Failure.value ⟨"UnknownTool", none, "Unknown tool: lookup"⟩)),
        talk) ∧
      talk.calls.getLast? = some lookupCall := by
  obtain ⟨talk, outcome, hinvoke, -, hcalls, hanswer⟩ := lookup_invoke
  obtain ⟨-, -, -, hunknown⟩ := outcome_by_last_call hinvoke hanswer
  have hlast : talk.calls.getLast? = some lookupCall := by rw [hcalls]; rfl
  refine ⟨talk, ?_, hlast⟩
  rw [hinvoke, hunknown lookupCall hlast (by decide)]
  rfl

/-- **An evaluation may be overruled.** The math agent may fail although the last call of the
    calculator succeeded: a call of an unknown tool behind it counts as well. -/
theorem evaluation_overruled :
    ¬ ∀ (settings : CrewSettings) (script : Script) (c : Context) (log talk : Consultations)
        (outcome : Except AgentError Output) (content : String),
      (script.agent settings .math).invoke c log = (outcome, log ++ talk) →
      talk.getLast?.map (·.answer) = some (.ok (.answer content)) →
      ((∃ payload, outcome = .error (.toolFailure payload)) ↔
        ∃ call, (evaluations talk.calls).getLast? = some call ∧ (answerMathCall call).isError) := by
  intro hlastDecides
  obtain ⟨talk, outcome, hinvoke, houtcome, hcalls, hanswer⟩ := lookup_invoke
  have hfails : ∃ payload, outcome = .error (.toolFailure payload) :=
    ⟨_, houtcome.trans (concludeMath_eq_error_iff.mpr
      ⟨_, rfl, isError_answerMathCall_of_ne (by decide), rfl⟩)⟩
  obtain ⟨call, hcall, herror⟩ := (hlastDecides _ _ _ _ _ _ _ hinvoke hanswer).mp hfails
  have hevaluation : (evaluations talk.calls).getLast? = some evaluationCall := by
    rw [hcalls]
    rfl
  obtain rfl : evaluationCall = call := by simpa [hevaluation] using hcall
  have hsuccess : (answerMathCall evaluationCall).isError = false := by decide +kernel
  rw [hsuccess] at herror
  cases herror

end Agent

end MathAgents
