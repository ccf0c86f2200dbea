import MathAgents.CommandLine.Execution
import MathAgents.Proofs.Expr.Trace
import MathAgents.Proofs.Json.Layout
import MathAgents.Proofs.Tool.Arguments

namespace MathAgents

/-!
# Reports on an evaluation

An evaluation is reported as the response of a tool, as what the command prints, as a failure with a
kind and a reason, and as the error that a command ends with.  All of them say the same.

* `Expr.isFinite_of_evaluate` — what is reported is finite, so it is written as a number.
* `Calculator.Succeeds`, `Calculator.Fails` — the two forms of a response.
* `Calculator.Explains` — an error of a command says what a failure says.
* `Calculator.call_forms` — the response to any request.
* `Calculator.eval_reports` — the command and the response to the same expression.
* `Calculator.reports_agree` — all reports.
-/

namespace Expr

variable {expression : String} {report : Evaluation}

/-- What is reported of an evaluation is finite. -/
theorem isFinite_of_evaluate (h : evaluate expression = .ok report) : report.value.isFinite := by
  obtain ⟨e, -, he⟩ := bind_eq_ok_iff.mp h
  obtain ⟨hsound, rfl⟩ := evaluateTree_eq_ok_iff.mp he
  exact isFinite_value hsound e (self_mem_postOrder e)

/-- The kind of an error is validation exactly if the text was refused before evaluation. -/
theorem EvalError.kind_eq (e : EvalError) :
    (∃ refusal, e.refusal? = some refusal ∧ e.kind = .validation ∧ e.reason = refusal.name) ∨
      (e.refusal? = none ∧ e.kind = .arithmetic ∧
        (e.reason = "DivisionByZero" ∨ e.reason = "Overflow")) := by
  cases e with
  | emptyInput => exact .inl ⟨.emptyInput, rfl, rfl, rfl⟩
  | malformed source detail => exact .inl ⟨.syntaxError, rfl, rfl, rfl⟩
  | unsupported symbol => exact .inl ⟨.unsupportedOperator, rfl, rfl, rfl⟩
  | divisionByZero => exact .inr ⟨rfl, rfl, .inl rfl⟩
  | overflow source => exact .inr ⟨rfl, rfl, .inr rfl⟩

end Expr

namespace Calculator

open CommandLine (CommandError)

/-! ### The forms of a response -/

/-- The response that reports on an evaluation, its fields ordered by key. -/
def success (expression : String) (operations : Nat) (result : Float) (steps : List String) :
    Json :=
  .obj
    [("expression", .str expression),
     ("operations_count", .ofNat operations),
     ("result", .float result),
     ("steps", .arr (steps.map .str))]

/-- The response that reports a failure, its fields ordered by key. -/
def failure (kind reason message : String) : Json :=
  .obj [("error", .obj [("kind", .str kind), ("message", .str message), ("reason", .str reason)])]

/-- Whether a response reports on an evaluation: the result is a finite number. -/
def Succeeds (response : Json) : Prop :=
  ∃ expression operations result steps,
    response = success expression operations result steps ∧ result.isFinite

/-- Whether a response is a failure and nothing else. -/
def Fails (response : Json) : Prop := ∃ kind reason message, response = failure kind reason message

theorem canonicalItems_steps (steps : List String) :
    Json.canonicalItems (steps.map .str) = steps.map .str := by
  induction steps with
  | nil => rfl
  | cons step steps ih => rw [List.map_cons, Json.canonicalItems, ih, Json.canonical]

/-- A report on an evaluation as tools give it. -/
theorem canonical_report {report : Expr.Evaluation} (h : report.value.isFinite) :
    report.toJson.canonical =
      success report.expression report.operations report.value (report.steps.map (·.text)) := by
  have hresult : Json.ofFloat report.value = .float report.value := if_pos h
  have hsteps : report.steps.map (fun step => Json.str step.text) =
      (report.steps.map (·.text)).map .str := by simp
  simp only [Expr.Evaluation.toJson, hresult, hsteps, Json.canonical, Json.canonicalFields,
    canonicalItems_steps, success, Json.ofNat]
  rfl

theorem value_toFailure (e : Expr.EvalError) :
    e.toFailure.value = failure e.kind.name e.reason e.message := rfl

theorem isError_success (name expression : String) (operations : Nat) (result : Float)
    (steps : List String) :
    (ToolResponse.mk name (success expression operations result steps)).isError = false := by
  simp [ToolResponse.isError, success, Json.get?, Fields.get?]

theorem isError_failure (name kind reason message : String) :
    (ToolResponse.mk name (failure kind reason message)).isError = true := by
  simp [ToolResponse.isError, failure, Json.get?, Fields.get?]

theorem failure_inj {kind kind' reason reason' message message' : String}
    (h : failure kind reason message = failure kind' reason' message') :
    kind = kind' ∧ reason = reason' ∧ message = message' := by
  simp only [failure, Json.obj.injEq, List.cons.injEq, Prod.mk.injEq, Json.str.injEq, true_and,
    and_true] at h
  obtain ⟨hkind, hmessage, hreason⟩ := h
  exact ⟨hkind, hreason, hmessage⟩

/-! ### Responses -/

section

variable {r : ToolRequest} {expression : String} {report : Expr.Evaluation} {e : Expr.EvalError}

theorem call_of_ok (hr : r.arguments.get? argumentName = some (.str expression))
    (h : Expr.evaluate expression = .ok report) :
    call r = ⟨toolName, success report.expression report.operations report.value
      (report.steps.map (·.text))⟩ := by
  simp only [call, ToolRequest.argument_eq_ok_iff.mpr hr, answer, h,
    canonical_report (Expr.isFinite_of_evaluate h)]

theorem call_of_error (hr : r.arguments.get? argumentName = some (.str expression))
    (h : Expr.evaluate expression = .error e) :
    call r = ⟨toolName, failure e.kind.name e.reason e.message⟩ := by
  simp only [call, ToolRequest.argument_eq_ok_iff.mpr hr, answer, h, value_toFailure]

/-- A request without an expression fails as an empty one does, but for its message. -/
theorem call_of_missing
    (h : ¬ ∃ expression, r.arguments.get? argumentName = some (.str expression)) :
    call r = ⟨toolName, failure Expr.ErrorKind.validation.name Expr.Refusal.emptyInput.name
      (ToolError.missingArgument argumentName).message⟩ := by
  have herror : r.argument argumentName = .error (.missingArgument argumentName) :=
    ToolRequest.argument_eq_error h
  simp only [call, herror]
  rfl

theorem call_name (r : ToolRequest) : (call r).name = toolName := by
  unfold call
  split <;> rfl

/-- **Forms.** A response is a report on an evaluation or a failure.  It is a report exactly if the
    request gives a text for the expression, and the text is evaluated. -/
theorem call_forms (r : ToolRequest) :
    ((Succeeds (call r).response ∧ (call r).isError = false ∧
        ∃ expression report, r.arguments.get? argumentName = some (.str expression) ∧
          Expr.evaluate expression = .ok report) ∨
      (Fails (call r).response ∧ (call r).isError = true ∧
        ¬ ∃ expression report, r.arguments.get? argumentName = some (.str expression) ∧
          Expr.evaluate expression = .ok report)) := by
  -- there may be no text to evaluate, and then there may be no value
  by_cases hgiven : ∃ expression, r.arguments.get? argumentName = some (.str expression)
  · obtain ⟨expression, hr⟩ := hgiven
    cases h : Expr.evaluate expression with
    | ok report =>
      left
      rw [call_of_ok hr h]
      exact ⟨⟨_, _, _, _, rfl, Expr.isFinite_of_evaluate h⟩, isError_success .., expression, report,
        hr, h⟩
    | error e =>
      right
      rw [call_of_error hr h]
      refine ⟨⟨_, _, _, rfl⟩, isError_failure .., ?_⟩
      rintro ⟨expression', report, hr', h'⟩
      obtain rfl : expression' = expression := by simpa [hr] using hr'.symm
      rw [h] at h'
      cases h'
  · right
    rw [call_of_missing hgiven]
    refine ⟨⟨_, _, _, rfl⟩, isError_failure .., ?_⟩
    rintro ⟨expression, report, hr, -⟩
    exact hgiven ⟨expression, hr⟩

end

/-! ### The command -/

/-- A value that is printed on several lines, with the line break behind it. -/
theorem line_compact (j : Json) :
    Json.withoutSpace false false (j.printPretty ++ "\n").toList = j.print.toList := by
  rw [Json.withoutSpace_printPretty]
  exact List.append_nil _

/-- Whether the error that a command ends with says what a failure says: it is an error of the kind
    that is given, with the reason and the message that are. -/
structure Explains (error : Option CommandError) (kind reason message : String) : Prop where
  kinds : kind = Expr.ErrorKind.validation.name ∨ kind = Expr.ErrorKind.arithmetic.name
  validation :
    (∃ refusal : Expr.Refusal, refusal.name = reason ∧
      error = some (.turn (.validation refusal message))) ↔
    kind = Expr.ErrorKind.validation.name
  arithmetic : error = some (.turn (.arithmetic message)) ↔ kind = Expr.ErrorKind.arithmetic.name
  reasons : kind = Expr.ErrorKind.arithmetic.name → reason = "DivisionByZero" ∨ reason = "Overflow"

theorem explains_ofEvalError (e : Expr.EvalError) :
    Explains (some (.turn (.ofEvalError e))) e.kind.name e.reason e.message := by
  have hname : Expr.ErrorKind.validation.name ≠ Expr.ErrorKind.arithmetic.name := by decide
  rcases e.kind_eq with ⟨refusal, hrefusal, hkind, hreason⟩ | ⟨hrefusal, hkind, hreason⟩
  · have herror : TurnError.ofEvalError e = .validation refusal e.message := by
      simp only [TurnError.ofEvalError, hrefusal]
    rw [hkind, herror]
    constructor
    · exact .inl rfl
    · exact ⟨fun _ => rfl, fun _ => ⟨refusal, hreason.symm, rfl⟩⟩
    · exact ⟨nofun, fun h => absurd h hname⟩
    · exact fun h => absurd h hname
  · have herror : TurnError.ofEvalError e = .arithmetic e.message := by
      simp only [TurnError.ofEvalError, hrefusal]
    rw [hkind, herror]
    constructor
    · exact .inr rfl
    · exact ⟨nofun, fun h => absurd h.symm hname⟩
    · exact ⟨fun _ => rfl, fun _ => rfl⟩
    · exact fun _ => hreason

/-- **Reports.** The command prints the value that the tool answers with, its fields in the order of
    their declaration.  It fails exactly if the tool does, with an error that says the same. -/
theorem eval_reports {expression : String} {r : ToolRequest}
    (hr : r.arguments.get? argumentName = some (.str expression)) :
    let outcome := CommandLine.eval expression
    (∃ printed : Json, outcome.output = printed.printPretty ++ "\n" ∧
      Json.withoutSpace false false outcome.output.toList = printed.print.toList ∧
      printed.canonical = (call r).response) ∧
    (outcome.error.isSome ↔ (call r).isError) ∧
    ∀ kind reason message, (call r).response = failure kind reason message →
      Explains outcome.error kind reason message := by
  -- both have the same evaluation before them
  dsimp only
  cases h : Expr.evaluate expression with
  | ok report =>
    have hvalue := canonical_report (Expr.isFinite_of_evaluate h)
    rw [call_of_ok hr h, isError_success]
    simp only [CommandLine.eval, h]
    refine ⟨⟨report.toJson, rfl, line_compact report.toJson, hvalue⟩, by simp, ?_⟩
    intro kind reason message hfailure
    simp [success, failure] at hfailure
  | error e =>
    rw [call_of_error hr h, isError_failure]
    simp only [CommandLine.eval, h]
    refine ⟨⟨e.toFailure.toJson, rfl, line_compact e.toFailure.toJson, value_toFailure e⟩,
      by simp, ?_⟩
    intro kind reason message hfailure
    obtain ⟨rfl, rfl, rfl⟩ := failure_inj hfailure
    exact explains_ofEvalError e

/-- **Agreement.** The tool answers every request: with a report on an evaluation, whose result is a
    finite number, exactly if the request gives a text for the expression and the text is evaluated,
    and with a failure and nothing else otherwise.  For the same text the command prints, but for
    space, the value that the tool answers with, and fails exactly if that is a failure; then it
    ends with an error of the kind that the failure names, for the same reason and with the same
    message. -/
theorem reports_agree :
    (∀ r : ToolRequest,
      (call r).name = toolName ∧
      ((Succeeds (call r).response ∧ (call r).isError = false) ∨
        (Fails (call r).response ∧ (call r).isError = true)) ∧
      ((call r).isError = false ↔
        ∃ expression report, r.arguments.get? "expression" = some (.str expression) ∧
          Expr.evaluate expression = .ok report)) ∧
    ∀ (expression : String) (r : ToolRequest),
      r.arguments.get? "expression" = some (.str expression) →
        let outcome := CommandLine.eval expression
        (∃ printed : Json, outcome.output = printed.printPretty ++ "\n" ∧
          Json.withoutSpace false false outcome.output.toList = printed.print.toList ∧
          printed.canonical = (call r).response) ∧
        (outcome.error.isSome ↔ (call r).isError) ∧
        ∀ kind reason message, (call r).response = failure kind reason message →
          Explains outcome.error kind reason message := by
  refine ⟨fun r => ?_, fun expression r hr => eval_reports hr⟩
  have hforms := call_forms r
  refine ⟨call_name r, ?_, ?_⟩
  · rcases hforms with ⟨hsucceeds, herror, -⟩ | ⟨hfails, herror, -⟩
    · exact .inl ⟨hsucceeds, herror⟩
    · exact .inr ⟨hfails, herror⟩
  · rcases hforms with ⟨-, herror, hevaluated⟩ | ⟨-, herror, hrefused⟩
    · exact iff_of_true herror hevaluated
    · exact iff_of_false (by simp [herror]) hrefused

/-- A quotient is reported as a success in both ways, and a division by zero as a failure. -/
theorem reports_agree_quotients :
    let request (expression : String) : ToolRequest :=
      { name := toolName, arguments := [("expression", .str expression)] }
    (Succeeds (call (request "12 / 3 + 4")).response ∧
        (CommandLine.eval "12 / 3 + 4").error = none) ∧
      ∃ message,
        (call (request "5 / 0")).response =
          failure "ArithmeticError" "DivisionByZero" message ∧
        (CommandLine.eval "5 / 0").error = some (.turn (.arithmetic message)) := by
  intro request
  obtain ⟨hforms, heval⟩ := reports_agree
  constructor
  · have hsuccess : (call (request "12 / 3 + 4")).isError = false := by decide +kernel
    obtain ⟨-, hform, -⟩ := hforms (request "12 / 3 + 4")
    obtain ⟨-, hfails, -⟩ := heval "12 / 3 + 4" (request "12 / 3 + 4") rfl
    rw [hsuccess] at hform hfails
    obtain ⟨hsucceeds, -⟩ := hform.resolve_right fun h => Bool.false_ne_true h.2
    exact ⟨hsucceeds, by simpa using hfails⟩
  · have hfailure : (call (request "5 / 0")).isError = true := by decide +kernel
    obtain ⟨-, hform, -⟩ := hforms (request "5 / 0")
    obtain ⟨-, -, hexplains⟩ := heval "5 / 0" (request "5 / 0") rfl
    rw [hfailure] at hform
    obtain ⟨⟨kind, reason, message, hresponse⟩, -⟩ := hform.resolve_left fun h =>
      Bool.false_ne_true h.2.symm
    -- which failure it is, is read off the response
    have hfields : (((call (request "5 / 0")).response.get? "error").bind fun e =>
        (e.getString? "kind").map (·, e.getString? "reason")) =
          some ("ArithmeticError", some "DivisionByZero") := by decide +kernel
    rw [hresponse] at hfields
    obtain ⟨rfl, rfl⟩ : kind = "ArithmeticError" ∧ reason = "DivisionByZero" := by
      simpa [failure, Json.get?, Fields.get?, Json.getString?, Json.asString?] using hfields
    exact ⟨message, hresponse, (hexplains _ _ _ hresponse).arithmetic.mpr rfl⟩

end Calculator

end MathAgents
