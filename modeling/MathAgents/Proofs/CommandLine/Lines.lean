import MathAgents.CommandLine.Execution
import MathAgents.Proofs.Json.Layout
import MathAgents.Proofs.Run.Handover
import MathAgents.Proofs.Run.Watching

namespace MathAgents

/-!
# The lines that events are printed on

Every event is printed with a line break behind it.  The JSON values of an event hold no line break
of their own, and neither do the names of agents; but the text of a message is only trimmed, and the
name of a called tool is printed as the model gave it.  So there is one line for each event exactly
if these have no line break in them.

* `Event.free` — what of an event is printed as it is; `Event.count_render` — the control characters
  of the printed event are those of that text.
* `printedLines` — the lines of a printed text; `length_printedLines`, `printedLines_eq_iff` — the
  lines of printed events.
* `Event.Signed` — the messages of agents; `Crew.signed_run` — what a run shows is signed by agents.
* `CommandLine.Shown` — the events of reports and of transcriptions; `CommandLine.shows_carryOut` —
  commands print such events and nothing else.
* `CommandLine.one_line_each_iff` — when every event of a report has a line of its own.
* `CommandLine.line_imitated` — a model that imitates a line.
-/

open Json (Unbroken)

/-! ### Printed events -/

namespace Event

/-- The part of an event that is printed as it is, where nothing escapes a line break: a text
    without the blanks around it, or the name of a tool. -/
def free : Event → String
  | message _ text => Text.trim text
  | toolCall name _ => name
  | toolResponse name _ => name

/-- Whether the message of an event is one of an agent. -/
def Signed : Event → Prop
  | message author _ => ∃ role : Role, author = role.agentName
  | toolCall _ _ | toolResponse _ _ => True

end Event

theorem Role.unbroken_agentName (role : Role) : Unbroken role.agentName.toList := by
  cases role <;> decide

namespace Event

theorem render_message (author text : String) :
    (message author text).render = author ++ " " ++ Text.trim text := rfl

theorem render_toolCall (name : String) (arguments : Json) :
    (toolCall name arguments).render =
      "[tool-call] " ++ name ++ "(" ++ arguments.print ++ ")" := rfl

theorem render_toolResponse (name : String) (response : Json) :
    (toolResponse name response).render =
      "[tool-response] " ++ name ++ ": " ++ response.print := rfl

/-- **Control characters.** The control characters of a printed event are those of its free part:
    JSON values escape them, and there are none in the names of agents. -/
theorem count_render {e : Event} (he : e.Signed) {c : Char} (hc : c.toNat < 0x20) :
    e.render.toList.count c = e.free.toList.count c := by
  have hword (s : String) (hs : Unbroken s.toList) : s.toList.count c = 0 := hs.count_eq_zero hc
  have hjson (j : Json) : j.print.toList.count c = 0 := by
    apply hword
    rw [Json.print, String.toList_ofList]
    exact Json.unbroken_printChars j
  cases e with
  | message author text =>
    obtain ⟨role, rfl⟩ : ∃ role : Role, author = role.agentName := he
    have hauthor := hword role.agentName role.unbroken_agentName
    have hspace := hword " " (by decide)
    simp only [render_message, String.toList_append, List.count_append, hauthor, hspace]
    exact Nat.zero_add _
  | toolCall name arguments =>
    have hstart := hword "[tool-call] " (by decide)
    have hopening := hword "(" (by decide)
    have hclosing := hword ")" (by decide)
    simp only [render_toolCall, String.toList_append, List.count_append, hstart, hopening,
      hclosing, hjson]
    exact Nat.zero_add _
  | toolResponse name response =>
    have hstart := hword "[tool-response] " (by decide)
    have hcolon := hword ": " (by decide)
    simp only [render_toolResponse, String.toList_append, List.count_append, hstart, hcolon, hjson]
    exact Nat.zero_add _

/-- A signed event breaks its line exactly if its free part does. -/
theorem break_mem_render_iff {e : Event} (he : e.Signed) :
    '\n' ∈ e.render.toList ↔ '\n' ∈ e.free.toList := by
  rw [← List.count_pos_iff, ← List.count_pos_iff, count_render he (by decide)]

end Event

/-! ### The lines of a text -/

/-- The lines of a printed text: its pieces between line breaks, but for the one behind the last
    break. -/
def printedLines (text : String) : List String :=
  ((text.toList.splitOn '\n').dropLast).map String.ofList

/-- A text has one piece more than line breaks. -/
theorem length_splitOn (cs : List Char) : (cs.splitOn '\n').length = cs.count '\n' + 1 := by
  induction cs with
  | nil => rfl
  | cons c cs ih =>
    unfold List.splitOn at ih ⊢
    rw [List.splitOnP_cons_eq_if_modifyHead]
    by_cases hc : c = '\n'
    · subst hc
      simp [ih]
    · simp [hc, ih]

/-- A text is split at every line break. -/
theorem splitOn_line (cs ds : List Char) :
    (cs ++ '\n' :: ds).splitOn '\n' = cs.splitOn '\n' ++ ds.splitOn '\n' :=
  List.splitOnP_append_cons cs ds (by decide)

/-- The lines of a text in front of which a further one is printed. -/
theorem printedLines_append (line text : String) :
    printedLines (line ++ "\n" ++ text) =
      (line.toList.splitOn '\n').map String.ofList ++ printedLines text := by
  have hsplit : (line ++ "\n" ++ text).toList.splitOn '\n' =
      line.toList.splitOn '\n' ++ text.toList.splitOn '\n' := by
    have htext : (line ++ "\n" ++ text).toList = line.toList ++ '\n' :: text.toList := by
      simp [String.toList_append]
    rw [htext, splitOn_line]
  -- what is dropped is the piece behind the last break, which the text in front does not change
  have hne : text.toList.splitOn '\n' ≠ [] := by
    apply List.ne_nil_of_length_pos
    rw [length_splitOn]
    omega
  rw [printedLines, hsplit, List.dropLast_append_of_ne_nil hne, List.map_append, printedLines]

theorem printEvents_cons (e : Event) (events : List Event) :
    CommandLine.printEvents (e :: events) =
      e.render ++ "\n" ++ CommandLine.printEvents events := by
  simp [CommandLine.printEvents, String.join_cons]

/-- Events take one line each, and one more for every line break in them. -/
theorem printedLines_printEvents (events : List Event) :
    printedLines (CommandLine.printEvents events) =
      events.flatMap fun e => (e.render.toList.splitOn '\n').map String.ofList := by
  induction events with
  | nil => rfl
  | cons e events ih => rw [printEvents_cons, printedLines_append, ih, List.flatMap_cons]

/-- There are no fewer lines than events, and as many exactly if no event breaks its line. -/
theorem length_printedLines (events : List Event) :
    events.length ≤ (printedLines (CommandLine.printEvents events)).length ∧
      ((printedLines (CommandLine.printEvents events)).length = events.length ↔
        ∀ e ∈ events, '\n' ∉ e.render.toList) := by
  rw [printedLines_printEvents]
  induction events with
  | nil => simp
  | cons e events ih =>
    obtain ⟨hleast, hequal⟩ := ih
    rw [List.flatMap_cons, List.length_append, List.length_map, length_splitOn, List.length_cons,
      List.forall_mem_cons, ← hequal, ← List.count_eq_zero]
    omega

/-- The lines are the events exactly if no event breaks its line. -/
theorem printedLines_eq_iff (events : List Event) :
    printedLines (CommandLine.printEvents events) = events.map Event.render ↔
      ∀ e ∈ events, '\n' ∉ e.render.toList := by
  constructor
  · intro h
    rw [← (length_printedLines events).2, h, List.length_map]
  · intro h
    rw [printedLines_printEvents]
    induction events with
    | nil => rfl
    | cons e events ih =>
      obtain ⟨he, hevents⟩ := List.forall_mem_cons.mp h
      rw [List.flatMap_cons, ih hevents, List.splitOn_eq_singleton he]
      simp

/-! ### What runs show -/

section

variable {σ : Type}

theorem Exchange.signed_events (made : List Exchange) :
    ∀ e ∈ made.flatMap Exchange.events, e.Signed := by
  intro e he
  obtain ⟨x, -, hx⟩ := List.mem_flatMap.mp he
  simp only [Exchange.events, List.mem_cons, List.not_mem_nil, or_false] at hx
  rcases hx with rfl | rfl <;> trivial

/-- Whether the messages that a run has shown when it succeeds are signed by agents. -/
def Ending.Signed (ending : Ending) : Prop :=
  ∀ report, ending.outcome = .ok report → ∀ e ∈ report.events, e.Signed

theorem Progress.signed_fail (p : Progress) (lines : List String) (cause : TurnError) :
    (p.fail lines cause).Signed := nofun

theorem Progress.signed_succeed {p : Progress} (hp : ∀ e ∈ p.events, e.Signed) (answer : String) :
    (p.succeed answer).Signed := by
  intro report hreport
  obtain rfl := Except.ok.inj hreport
  exact hp

/-- An agent signs what it says. -/
theorem Progress.signed_emit {p : Progress} (hp : ∀ e ∈ p.events, e.Signed) (agent : Agent σ)
    (text : String) : ∀ e ∈ (p.emit (.message agent.name text)).events, e.Signed := by
  intro e he
  rcases List.mem_append.mp he with he | he
  · exact hp e he
  · obtain rfl := List.mem_singleton.mp he
    exact ⟨agent.role, rfl⟩

namespace SequentialCrew

theorem exists_agent (crew : SequentialCrew σ) {stage : Stage} {role : Role}
    (h : stage.role? = some role) : ∃ agent, crew.agent? stage = some agent := by
  cases stage with
  | math | poetry | narration => exact ⟨_, rfl⟩
  | done => cases h

/-- The agents of a run in a fixed order sign what they say. -/
theorem signed_runFrom (crew : SequentialCrew σ) (stage : Stage) (p : Progress) (s : σ)
    (hp : ∀ e ∈ p.events, e.Signed) : (crew.runFrom stage p s).1.Signed := by
  -- by induction on the stages that are left: each of them adds at most one event
  induction stage using Stage.backward_induction generalizing p s with
  | done =>
    rw [runFrom_of_none rfl]
    exact Progress.signed_succeed hp _
  | step stage role hrole ih =>
    obtain ⟨agent, hagent⟩ := crew.exists_agent hrole
    cases hi : agent.invoke p.context s with
    | mk outcome s' =>
      cases outcome with
      | error e =>
        rw [runFrom_of_error hagent hi]
        exact Progress.signed_fail _ _ _
      | ok output =>
        rw [runFrom_of_ok hagent hi]
        have hrecorded : ∀ e ∈ (p.recorded agent p.context (.ok output)).events, e.Signed := hp
        exact ih _ s' (Progress.signed_emit hrecorded agent output.text)

end SequentialCrew

namespace DelegatingCrew

variable {crew : DelegatingCrew σ} {context : Context} {s₀ s : σ} {ending : Ending}

/-- The narrator signs its answer. -/
theorem signed_narrate (crew : DelegatingCrew σ) (p : Progress) (s : σ)
    (hp : ∀ e ∈ p.events, e.Signed) : (crew.narrate p s).1.Signed := by
  cases hi : crew.narrator.invoke p.context s with
  | mk outcome s' =>
    cases outcome with
    | error e =>
      rw [narrate_of_error hi]
      exact Progress.signed_fail _ _ _
    | ok output =>
      rw [narrate_of_ok hi]
      have hrecorded : ∀ e ∈ (p.recorded crew.narrator p.context (.ok output)).events, e.Signed :=
        hp
      refine Progress.signed_succeed ?_ _
      exact Progress.signed_emit hrecorded crew.narrator output.text

/-- A run that the controller leads shows tool calls, and what the narrator says. -/
theorem Ends.signed (h : Ends crew context s₀ ending s) : ending.Signed := by
  cases h with
  | exhausted | failed => exact Progress.signed_fail _ _ _
  | @narrated n p p' s s' s'' output h hn hi hf hp =>
    apply signed_narrate
    obtain ⟨rs, rfl, hleads⟩ := h.leads
    have hphase : (crew.decided p output).phase ≠ .handedOver := h.phase_ne
    have ho : output.HandsOver := (follow_handedOver_iff hphase hf).mp hp
    -- so far nothing but tool calls and their responses has been shown
    obtain ⟨-, made, -, -, hevents⟩ := (TakesOver.intro hleads hn hi ho hf).made
    rw [hevents]
    exact Exchange.signed_events made

end DelegatingCrew

/-- **Signatures.** Every message that a run shows is signed by the agent that says it. -/
theorem Crew.signed_run (crew : Crew σ) (context : Context) (s : σ) :
    (crew.run context s).1.Signed := by
  cases crew with
  | sequential crew => exact crew.signed_runFrom .math { context } s (List.forall_mem_nil _)
  | delegating crew => exact (crew.ends_run context s).signed

end

/-! ### What commands print -/

namespace CommandLine

section

variable {σ : Type}

theorem pure_apply {α : Type} (a : α) (s : σ) : (pure a : StateM σ α) s = (a, s) := rfl

/-- The events that commands print: those of the report on a run, that of a transcription, or
    none. -/
inductive Shown (σ : Type) : List Event → Prop
  | nothing : Shown σ []
  | report {crew : Crew σ} {context : Context} {s : σ} {report : Report}
      (h : (crew.run context s).1.outcome = .ok report) : Shown σ report.events
  | transcription (text : String) : Shown σ [.message Role.transcriber.agentName text]

/-- Agents sign what commands print of them. -/
theorem Shown.signed {events : List Event} (h : Shown σ events) : ∀ e ∈ events, e.Signed := by
  cases h with
  | nothing => exact List.forall_mem_nil _
  | @report crew context s report h => exact crew.signed_run context s report h
  | transcription text => exact List.forall_mem_singleton.mpr ⟨.transcriber, rfl⟩

/-- Whether an outcome prints such events. -/
def Outcome.Shows (σ : Type) (outcome : Outcome) : Prop :=
  ∃ events, Shown σ events ∧ outcome.output = printEvents events

theorem Outcome.shows_silent {outcome : Outcome} (h : outcome.output = "") : outcome.Shows σ :=
  ⟨[], .nothing, h⟩

theorem shows_runPrompt (t : Endpoint.Transport σ) (settings : Settings)
    (prompt session user : String) (kind : Option PipelineKind) (s : σ) :
    (runPrompt t settings prompt session user kind s).1.Shows σ := by
  unfold runPrompt
  cases endpoint settings with
  | error e => exact Outcome.shows_silent rfl
  | ok endpoint =>
    dsimp only
    rw [bind_apply, SessionService.runTurn, bind_apply]
    generalize Crew.build (kind.getD settings.run.kind) settings.crew (endpoint.provider t) = crew
    generalize SessionService.turnContext session user (.user prompt) = context
    cases houtcome : (crew.run context s).1.outcome with
    | ok report =>
      simp only [pure_apply, houtcome]
      exact ⟨report.events, .report houtcome, rfl⟩
    | error e =>
      simp only [pure_apply, houtcome]
      exact Outcome.shows_silent rfl

theorem shows_transcribe (t : Endpoint.Transport σ) (host : Host) (settings : Settings)
    (prompt session user : String) (images : List String) (s : σ) :
    (transcribe t host settings prompt session user images s).1.Shows σ := by
  unfold transcribe
  cases host.attachments images with
  | error e => exact Outcome.shows_silent rfl
  | ok attachments =>
    cases endpoint settings with
    | error e => exact Outcome.shows_silent rfl
    | ok endpoint =>
      dsimp only
      rw [bind_apply]
      generalize (Agent.transcriber (endpoint.provider t) settings.model.temperature).invoke _ _ =
        invoked
      obtain ⟨outcome, s', store⟩ := invoked
      dsimp only
      rw [bind_apply]
      cases outcome with
      | ok output => exact ⟨_, .transcription output.text, rfl⟩
      | error e => exact Outcome.shows_silent rfl

/-- **Commands.** The commands that let agents work print events and nothing else. -/
theorem shows_carryOut (t : Endpoint.Transport σ) (host : Host) (i : Invocation) (s : σ)
    (h : ∀ expression, i.command ≠ .eval expression) : (i.carryOut t host s).1.Shows σ := by
  unfold Invocation.carryOut
  cases hcommand : i.command with
  | eval expression => exact absurd hcommand (h expression)
  | run prompt session user kind =>
    cases settings host i.config with
    | error e => exact Outcome.shows_silent rfl
    | ok settings => exact shows_runPrompt t settings prompt session user kind s
  | transcribe prompt session user images =>
    cases settings host i.config with
    | error e => exact Outcome.shows_silent rfl
    | ok settings => exact shows_transcribe t host settings prompt session user images s

end

/-! ### One line for each event -/

/-- **Lines.** Whatever the models say and call, a control character gets into the line of an event
    only by way of a message, which is trimmed, or of the name of a tool; JSON values have none.  So
    what is printed of a report, or of a transcription, has one line for each event, and no other
    line, exactly if no message has a line break inside it and no tool a line break in its name.
    The commands that let agents work print nothing else. -/
theorem one_line_each_iff (σ : Type) :
    (∀ events, Shown σ events →
      (∀ e ∈ events, ∀ c : Char, c.toNat < 0x20 →
        e.render.toList.count c = e.free.toList.count c) ∧
      (printedLines (printEvents events) = events.map Event.render ↔
        ∀ e ∈ events, '\n' ∉ e.free.toList) ∧
      ((printedLines (printEvents events)).length = events.length ↔
        ∀ e ∈ events, '\n' ∉ e.free.toList)) ∧
    (∀ (t : Endpoint.Transport σ) (host : Host) (i : Invocation) (s : σ),
      (∀ expression, i.command ≠ .eval expression) →
        ∃ events, Shown σ events ∧ (i.carryOut t host s).1.output = printEvents events) := by
  refine ⟨fun events hshown => ?_, fun t host i s hi => shows_carryOut t host i s hi⟩
  have hsigned := hshown.signed
  have hfree : (∀ e ∈ events, '\n' ∉ e.render.toList) ↔ ∀ e ∈ events, '\n' ∉ e.free.toList :=
    forall₂_congr fun e he => not_congr (Event.break_mem_render_iff (hsigned e he))
  refine ⟨fun e he c hc => e.count_render (hsigned e he) hc, ?_, ?_⟩
  · exact (printedLines_eq_iff events).trans hfree
  · exact (length_printedLines events).2.trans hfree

/-- A text that goes on with what looks like a tool call. -/
def imitation : String := "It is 8.0.\n[tool-call] math_agent(\x7b\x7d)"

/-- **A line imitated.** A run in a fixed order shows the messages of three agents.  Where the model
    answers with such a text, they take more than three lines, and among them is that of a tool call
    which nobody made. -/
theorem line_imitated :
    let provider : Chat.Provider Unit := fun _ => pure (.ok (.answer imitation))
    let context : Context := { sessionId := "s", userId := "u", request := "What is 12 / 3 + 4?" }
    let run := (Crew.build .sequential ⟨0, 1, 1⟩ provider).run context ()
    ∃ report, run.1.outcome = .ok report ∧
      report.events = [.message Role.math.agentName imitation,
        .message Role.poet.agentName imitation, .message Role.narrator.agentName imitation] ∧
      (∀ e ∈ report.events, '\n' ∈ e.render.toList) ∧
      report.events.length < (printedLines (printEvents report.events)).length ∧
      (Event.toolCall Role.math.agentName (.obj [])).render ∈
        printedLines (printEvents report.events) := by
  intro provider context run
  let events : List Event := [.message Role.math.agentName imitation,
    .message Role.poet.agentName imitation, .message Role.narrator.agentName imitation]
  -- the agents ask different things, but the model gives all of them the same answer
  have hreply (role : Role) (hrole : role ≠ .controller) (c : Context) :
      (Crew.agentFor ⟨0, 1, 1⟩ provider role).invoke c () = (.ok (.reply imitation), ()) := by
    cases role with
    | controller => exact absurd rfl hrole
    | math | poet | narrator | transcriber => rfl
  have hrun : run = (SequentialCrew.ofProviders (fun _ => ⟨0, 1, 1⟩) fun _ => provider).runFrom
      .math { context } () := rfl
  have hreport : ∃ report, run.1.outcome = .ok report ∧ report.events = events := by
    rw [hrun, SequentialCrew.runFrom_of_ok rfl (hreply .math (by decide) _),
      SequentialCrew.runFrom_of_ok rfl (hreply .poet (by decide) _),
      SequentialCrew.runFrom_of_ok rfl (hreply .narrator (by decide) _),
      SequentialCrew.runFrom_of_none rfl]
    exact ⟨_, rfl, rfl⟩
  obtain ⟨report, hok, hevents⟩ := hreport
  have hbreak : ∀ e ∈ events, '\n' ∈ e.render.toList := by decide +kernel
  have hline : "[tool-call] math_agent(\x7b\x7d)" ∈ printedLines (printEvents events) := by
    rw [printedLines_printEvents, List.mem_flatMap]
    exact ⟨_, List.mem_cons_self, by decide +kernel⟩
  refine ⟨report, hok, hevents, ?_, ?_, ?_⟩
  · rw [hevents]
    exact hbreak
  · rw [hevents]
    obtain ⟨hleast, hequal⟩ := length_printedLines events
    refine Nat.lt_of_le_of_ne hleast fun hsame => ?_
    exact hequal.mp hsame.symm _ List.mem_cons_self (hbreak _ List.mem_cons_self)
  · rw [hevents]
    exact hline

end CommandLine

end MathAgents
