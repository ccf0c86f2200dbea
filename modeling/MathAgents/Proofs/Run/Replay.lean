import MathAgents.Proofs.Json.RoundTrip
import MathAgents.Proofs.Run.ChatHistory

namespace MathAgents

/-!
# Arguments are replayed as they were read

A model writes the arguments of a tool call as a text.  What was read is written anew when the call
is replayed, and reading that gives the same request again.  A text that cannot be read stands for
no arguments: the call is replayed with an empty object, and the run goes on.

* `ToolRequest.ofText_print`, `ToolRequest.ofText_given` — arguments that are read back.
* `ToolRequest.ofText_blank`, `ToolRequest.ofText_other` — texts that hold no arguments.
* `DelegatingCrew.Ends.last_question` — the last question of a run.
* `DelegatingCrew.Replays` — calls that all later questions show.
* `DelegatingCrew.arguments_replayed` — the arguments of the calls in a run.
-/

namespace ToolRequest

open Json (FloatFree Within Canonical)

variable {r : ToolRequest} {name text key : String} {given : List (String × String)}

/-! ### Arguments that are read back -/

/-- Arguments in canonical form are read back from their compact text, if their numbers are
    integers and they are within the bounds of the reader. -/
theorem ofText_print_of_within (hwithin : Within Json.maxNesting (.obj r.arguments))
    (hcanonical : Canonical (.obj r.arguments)) (hfree : FloatFree (.obj r.arguments)) :
    ofText r.name (Json.obj r.arguments).print = .ok r := by
  refine ofText_eq_ok_iff.mpr ⟨rfl, .inr ⟨?_, Json.parse_print hwithin hcanonical hfree⟩⟩
  -- the text of an object starts with a brace, which is not blank
  have hbrace : Text.isBlankChar '{' = false := by decide
  simp [Text.isBlank, Json.print, Json.printChars, hbrace]

/-- Whether all arguments of a request are texts, ordered by name. -/
structure HoldsTexts (r : ToolRequest) : Prop where
  ordered : r.arguments.Ordered
  texts : ∀ field ∈ r.arguments, ∃ text, field.2 = .str text

theorem holdsTexts_of_nil (h : r.arguments = []) : HoldsTexts r := by
  constructor
  · rw [h]
    exact List.Pairwise.nil
  · rw [h]
    exact List.forall_mem_nil _

/-- What is true of all texts is true of all such arguments. -/
theorem HoldsTexts.forall {p : Json → Prop} (h : HoldsTexts r) (hp : ∀ text, p (.str text)) :
    ∀ field ∈ r.arguments, p field.2 := by
  intro field hfield
  obtain ⟨text, htext⟩ := h.texts field hfield
  rw [htext]
  exact hp text

theorem HoldsTexts.ofText_print (h : HoldsTexts r) :
    ofText r.name (Json.obj r.arguments).print = .ok r :=
  ofText_print_of_within (.obj (h.forall fun text => .str text))
    (.obj h.ordered (h.forall fun text => .str text)) (.obj (h.forall fun text => .str text))

/-- **Reading back.** Arguments that were read are read back from their compact text, if their
    numbers are integers. -/
theorem ofText_print (h : ofText name text = .ok r) (hfree : FloatFree (.obj r.arguments)) :
    ofText name (Json.obj r.arguments).print = .ok r := by
  obtain ⟨rfl, hreads⟩ := ofText_eq_ok_iff.mp h
  rcases hreads with ⟨-, hnone⟩ | ⟨-, hparse⟩
  · exact (holdsTexts_of_nil hnone).ofText_print
  · obtain ⟨hwithin, hcanonical⟩ := Json.of_parse hparse
    exact ofText_print_of_within hwithin hcanonical hfree

theorem HoldsTexts.withArgument (h : HoldsTexts r) (key text : String) :
    HoldsTexts (r.withArgument key (.str text)) := by
  refine ⟨h.ordered.insert key (.str text), fun field hfield => ?_⟩
  rcases Fields.eq_or_mem_of_mem_insert hfield with rfl | hmem
  · exact ⟨text, rfl⟩
  · exact h.texts field hmem

/-- The request with some more arguments, which are texts. -/
def withTexts (r : ToolRequest) (given : List (String × String)) : ToolRequest :=
  given.foldl (fun r argument => r.withArgument argument.1 (.str argument.2)) r

theorem HoldsTexts.withTexts (h : HoldsTexts r) (given : List (String × String)) :
    HoldsTexts (r.withTexts given) ∧ (r.withTexts given).name = r.name := by
  induction given generalizing r with
  | nil => exact ⟨h, rfl⟩
  | cons argument given ih => exact ih (h.withArgument argument.1 argument.2)

/-- Arguments that were given as texts are read back. -/
theorem ofText_given (name : String) (given : List (String × String)) :
    ofText name (Json.obj (withTexts { name } given).arguments).print =
      .ok (withTexts { name } given) := by
  have hnone : HoldsTexts { name } := holdsTexts_of_nil rfl
  obtain ⟨htexts, hname⟩ := hnone.withTexts given
  have hread := htexts.ofText_print
  rwa [hname] at hread

/-! ### Texts that hold no arguments -/

/-- A blank text stands for no arguments. -/
theorem ofText_blank (hblank : Text.isBlank text) : ofText name text = .ok { name } :=
  ofText_eq_ok_iff.mpr ⟨rfl, .inl ⟨hblank, rfl⟩⟩

/-- Any other text than that of an object is rejected. -/
theorem ofText_other (hblank : ¬ Text.isBlank text)
    (hother : ¬ ∃ fields, Json.parse text = .ok (.obj fields)) :
    ∃ detail, ofText name text = .error (.invalidArguments detail) := by
  rw [ofText, if_neg hblank]
  cases hparse : Json.parse text with
  | error fault => exact ⟨_, rfl⟩
  | ok j =>
    cases j with
    | obj fields => exact absurd ⟨fields, hparse⟩ hother
    | null | bool | int | float | str | arr => exact ⟨_, rfl⟩

end ToolRequest

namespace DelegatingCrew

open Agent

variable {settings : Role → CrewSettings} {script : Script} {maxRounds k : Nat} {context : Context}
  {ending : Ending} {log asked : Consultations} {x y : Consultation} {call : Chat.ToolCall}

/-! ### The end of a run -/

/-- The last question of a run is answered with a handover or not at all, unless the rounds are
    over. -/
theorem Ends.last_question
    (h : Ends (scripted maxRounds settings script) context [] ending log) :
    ((log.of .controller).length = maxRounds ∧
        ending.outcome = .error (.roundsExceeded maxRounds)) ∨
      ∃ front z, log.of .controller = front ++ [z] ∧
        ∀ output, Agent.decided z.answer = .ok output → output.HandsOver := by
  cases h with
  | @exhausted p _ h =>
    left
    obtain ⟨rs, hlength, hleads⟩ := h.leads
    obtain ⟨made, htracks⟩ := hleads.tracks
    obtain ⟨made', hrequests, hexchanges, -⟩ := hleads.made
    obtain rfl : made = made' :=
      List.append_cancel_left (htracks.exchanges_eq.symm.trans hexchanges)
    refine ⟨?_, rfl⟩
    rw [htracks.decides.length_eq, ← List.length_map (·.request), hrequests, hlength]
    rfl
  | @failed n p _ _ e h _ hi =>
    right
    obtain ⟨rs, -, hleads⟩ := h.leads
    obtain ⟨made, htracks⟩ := hleads.tracks
    obtain ⟨z, hlog, -, hdecided⟩ := htracks.decide hi
    refine ⟨_, z, hlog, fun output houtput => ?_⟩
    cases hdecided.trans houtput
  | @narrated n p p' log₁ log₂ log₃ output h _ hi hf hp =>
    right
    obtain ⟨rs, -, hleads⟩ := h.leads
    obtain ⟨made, htracks⟩ := hleads.tracks
    obtain ⟨z, hlog, -, hdecided⟩ := htracks.decide hi
    have hphase : ((scripted maxRounds settings script).decided p output).phase ≠ .handedOver :=
      h.phase_ne
    have hover : output.HandsOver := (follow_handedOver_iff hphase hf).mp hp
    obtain ⟨rfl, -⟩ := follow_of_handsOver hover hf
    obtain ⟨-, -, hasked⟩ := narrate_of_controller maxRounds settings script p'.toProgress log₃
    refine ⟨_, z, hasked.trans hlog, fun output' houtput => ?_⟩
    obtain rfl := Except.ok.inj (hdecided.trans houtput)
    exact hover

/-- A tool call that does not hand over is followed by another question, unless the rounds are
    over. -/
theorem Ends.goes_on (h : Ends (scripted maxRounds settings script) context [] ending log)
    (hx : (log.of .controller)[k]? = some x) (hanswer : x.answer = .ok (.toolCall call))
    (hcall : ¬ (decision (.toolCall call)).HandsOver) :
    (∃ y, (log.of .controller)[k + 1]? = some y) ∨
      (k + 1 = maxRounds ∧ ending.outcome = .error (.roundsExceeded maxRounds)) := by
  have hk : k < (log.of .controller).length := (List.getElem?_eq_some_iff.mp hx).1
  rcases Nat.lt_or_ge (k + 1) (log.of .controller).length with hlt | hge
  · exact .inl ⟨_, List.getElem?_eq_getElem hlt⟩
  right
  rcases h.last_question with ⟨hlength, houtcome⟩ | ⟨front, z, hlog, hlast⟩
  · exact ⟨by omega, houtcome⟩
  · exfalso
    -- the call would be the last question
    rw [hlog] at hx hge hk
    rw [List.length_append, List.length_singleton] at hge hk
    obtain rfl : k = front.length := by omega
    obtain rfl : z = x := by simpa using hx
    exact hcall (hlast _ (by rw [hanswer, decided_ok]))

/-! ### Replays -/

/-- Whether a call, with some response, stands in every later question right behind what the
    question at `k` shows. -/
def Replays (asked : Consultations) (k : Nat) (call : Chat.ToolCall) : Prop :=
  ∀ x l y, asked[k]? = some x → k < l → asked[l]? = some y → ∃ response,
    x.query.messages ++ [.assistantCall call, .toolResult response call.id] <+: y.query.messages

/-- What is added to the next question stays in all later ones. -/
theorem Concludes.replays (h : Concludes context ending log) {r : ToolRequest}
    (hx : (log.of .controller)[k]? = some x) (hanswer : x.answer = .ok (.toolCall call))
    (hdecision : decision (.toolCall call) = .toolCall r) :
    Replays (log.of .controller) k
      ⟨s!"call_{context.exchanges.length + k + 1}", r.name, (Json.obj r.arguments).print⟩ := by
  obtain ⟨-, hgrows⟩ := h.grows
  intro x' l y hx' hkl hy
  obtain rfl : x = x' := Option.some.inj (hx.symm.trans hx')
  -- by induction on the later questions: the next one adds the call, and the others go on from it
  induction l, hkl using Nat.le_induction generalizing y with
  | base =>
    obtain ⟨call', r', response, hanswer', hdecision', -, hmessages⟩ := hgrows k x y hx hy
    obtain rfl : call = call' := by simpa using hanswer.symm.trans hanswer'
    obtain rfl : r = r' := by simpa using hdecision.symm.trans hdecision'
    exact ⟨response.print, hmessages ▸ List.prefix_rfl⟩
  | succ l hkl ih =>
    have hl : l < (log.of .controller).length :=
      Nat.lt_of_succ_lt (List.getElem?_eq_some_iff.mp hy).1
    obtain ⟨response, hshown⟩ := ih _ (List.getElem?_eq_getElem hl)
    obtain ⟨_, _, _, -, -, -, hmessages⟩ := hgrows l _ y (List.getElem?_eq_getElem hl) hy
    exact ⟨response, hshown.trans (hmessages ▸ List.prefix_append _ _)⟩

end DelegatingCrew

namespace Crew

open Agent DelegatingCrew ToolRequest

/-- Arguments with a field that is written twice. -/
def repeatedArguments : String := "\x7b\"b\":1,\"a\":[-7,\"\\n\"],\"b\":2\x7d"

/-- They are read without doubles. -/
theorem ofText_repeatedArguments : ∃ r, ofText "f" repeatedArguments = .ok r ∧
    Json.FloatFree (.obj r.arguments) := by
  have hfree : ((ofText "f" repeatedArguments).toOption.any fun r =>
      Json.FloatFree (.obj r.arguments)) := by decide +kernel
  obtain ⟨r, hr, hfree⟩ := (Option.any_eq_true _ _).mp hfree
  exact ⟨r, toOption_eq_some_iff.mp hr, of_decide_eq_true hfree⟩

/-- A call whose arguments cannot be read. -/
def unreadableCall : Chat.ToolCall := ⟨"1", "lookup", "oops"⟩

theorem ofText_unreadableCall :
    ∃ e, ofText unreadableCall.name unreadableCall.arguments = .error e := by
  have hnone : (ofText unreadableCall.name unreadableCall.arguments).toOption.isNone := by
    decide +kernel
  cases hread : ofText unreadableCall.name unreadableCall.arguments with
  | error e => exact ⟨e, rfl⟩
  | ok r =>
    rw [hread] at hnone
    cases hnone

/-- The answers of a model that makes this call, and then fails. -/
def unreadableScript : Script := Script.play [.ok (.toolCall unreadableCall)]

/-- What the controller is asked in a run on these answers. -/
def unreadableAsked : Consultations :=
  let agent (role : Role) := unreadableScript.agent ⟨0, 1, 1⟩ role
  let context : Context := { sessionId := "s", userId := "u", request := "Look it up." }
  ((assemble .toolDriven 2 agent).run context []).2.of .controller

/-- It is asked twice. -/
theorem unreadableAsked_eq :
    ∃ x z, unreadableAsked = [x, z] ∧ x.answer = .ok (.toolCall unreadableCall) := by
  let settings : CrewSettings := ⟨0, 1, 1⟩
  let context : Context := { sessionId := "s", userId := "u", request := "Look it up." }
  let crew : DelegatingCrew Consultations := scripted 2 (fun _ => settings) unreadableScript
  let x : Consultation :=
    ⟨.controller, controllerQuery settings context, .ok (.toolCall unreadableCall)⟩
  obtain ⟨e, he⟩ := ofText_unreadableCall
  have hfirst : crew.controller.invoke context [] =
      (.ok (.toolCall { name := unreadableCall.name }), [x]) := by
    rw [← decision_of_error he]
    exact Script.controller_of_ok rfl
  obtain ⟨p, hreaches⟩ : ∃ p, Reaches crew context [] 1 p [x] :=
    ⟨_, .call .start Nat.two_pos hfirst (.unknown (by decide) (by decide) (by decide)) nofun⟩
  have hsecond : crew.controller.invoke p.context [x] = (.error _, [x] ++ [_]) :=
    unreadableScript.controller_eq settings p.context [x]
  have hrun : crew.run context [] = crew.runRounds 1 p [x] := hreaches.run_eq
  rw [runRounds_of_error hsecond] at hrun
  exact ⟨x, _, congrArg (fun ending => ending.2.of .controller) hrun, rfl⟩

end Crew

end MathAgents
