import Mathlib.Data.List.Chain
import MathAgents.Proofs.Chat.Dialogue
import MathAgents.Proofs.Run.Handover
import MathAgents.Proofs.Run.Ledger

namespace MathAgents

/-!
# What models are shown in a run

Whatever an agent asks in a run is a conversation that a model accepts.  Two conversations grow:
that of the math agent within an invocation, and that of the controller from round to round.  The
former is extended by the agent itself, the latter is written anew in each round from the exchanges
that the run has kept; both grow by one call with its answer.

* `Agent.Converses.wellFormed` — every conversation of an agent.
* `Agent.Converses.grows` — how the conversation of the math agent grows.
* `DelegatingCrew.Decides` — the decisions of the controller in a run, with the exchanges that they
  led to; `DelegatingCrew.Decides.grows` — how its conversation grows.
* `DelegatingCrew.Leads.tracks`, `DelegatingCrew.Ends.concludes` — the decisions of a run.
* `Crew.conversations_wellFormed` — what models are shown in all runs.
-/

open Chat

/-! ### Conversations of an agent -/

/-- Whether the math agent goes on from a consultation to the next one: it is told to call a tool,
    and it shows all that it has shown, then the call, and then what the call came to. -/
def Consultation.LeadsTo (x y : Consultation) : Prop :=
  ∃ call, x.answer = .ok (.toolCall call) ∧
    y.query.messages = x.query.messages ++
      [.assistantCall call, .toolResult (Agent.answerMathCall call).response.print call.id]

namespace Agent

variable {settings : CrewSettings} {role : Role} {c : Context} {talk : Consultations}
  {outcome : Except AgentError Output} {temperature : Float} {limit remaining : Nat}
  {messages : List Message} {last : Option ToolResponse}

theorem MathConverses.opened
    (h : MathConverses temperature limit remaining messages last talk outcome)
    (hmessages : Opened messages) : ∀ x ∈ talk, Opened x.query.messages := by
  induction h with
  | exhausted => simp
  | failed | concluded => exact List.forall_mem_singleton.mpr hmessages
  | called _ ih =>
    exact List.forall_mem_cons.mpr ⟨hmessages, ih (hmessages.append (dialogue_callMessages _ _))⟩

/-- Whatever an agent asks is a conversation that a model accepts. -/
theorem Converses.wellFormed (h : Converses settings role c talk outcome) :
    ∀ x ∈ talk, WellFormed x.query.messages := by
  cases h with
  | math h => exact fun x hx => (h.opened (opened_messages c _) x hx).wellFormed
  | poet | narrator => exact List.forall_mem_singleton.mpr (opened_messages c _).wellFormed
  | controller => exact List.forall_mem_singleton.mpr (opened_transcript c).wellFormed

theorem MathConverses.grows
    (h : MathConverses temperature limit remaining messages last talk outcome) :
    talk.IsChain Consultation.LeadsTo := by
  induction h with
  | exhausted => exact .nil
  | failed | concluded => exact .singleton _
  | @called _ _ _ call _ _ h ih =>
    refine List.isChain_cons.mpr ⟨fun y hy => ⟨call, rfl, ?_⟩, ih⟩
    exact h.messages_head hy

/-- From one question of the math agent to the next one, the conversation grows by one call with its
    answer. -/
theorem Converses.grows (h : Converses settings .math c talk outcome) :
    talk.IsChain Consultation.LeadsTo := by
  cases h with
  | math h => exact h.grows

/-- Whatever the transcriber asks is a conversation that a model accepts. -/
theorem wellFormed_transcriberQuery {request : String} {source : ImageCache.Source}
    {query : Query} (h : query ∈ transcriberQuery temperature request source) :
    WellFormed query.messages := by
  obtain ⟨messages, hmessages, rfl⟩ := Option.map_eq_some_iff.mp h
  exact (opened_transcriberMessages hmessages).wellFormed

end Agent

/-- An agent asks for itself only. -/
theorem Script.of_invoke (script : Script) (settings : CrewSettings) (role : Role) {other : Role}
    {c : Context} {log log' : Consultations} {outcome : Except AgentError Output}
    (hrole : role ≠ .transcriber) (hother : other ≠ role)
    (hi : (script.agent settings role).invoke c log = (outcome, log')) :
    log'.of other = log.of other := by
  obtain ⟨talk, outcome, hconverses, -, hinvoke⟩ := script.exists_converses settings hrole c log
  obtain ⟨rfl, rfl⟩ := Prod.mk.inj (hinvoke.symm.trans hi)
  rw [Consultations.of_append, hconverses.of_ne hother, List.append_nil]

/-! ### Exchanges -/

/-- The response that an event shows, under the name of its tool. -/
def Event.response? : Event → Option (String × Json)
  | .toolResponse name response => some (name, response)
  | _ => none

/-- The user is shown the response of every exchange. -/
theorem Exchange.filterMap_events (made : List Exchange) :
    (made.flatMap Exchange.events).filterMap Event.response? =
      made.map fun e => (e.request.name, e.response.response) := by
  induction made with
  | nil => rfl
  | cons e made ih => simp [Exchange.events, List.filterMap_cons, Event.response?, ih]

/-- The conversation of the controller with some more exchanges. -/
theorem Agent.transcript_append {c c' : Context} {made : List Exchange}
    (hrequest : c'.request = c.request) (hexchanges : c'.exchanges = c.exchanges ++ made) :
    transcript c' = transcript c ++ made.flatMap exchangeMessages := by
  simp [transcript, hrequest, hexchanges]

namespace DelegatingCrew

open Agent

variable {settings : Role → CrewSettings} {script : Script} {role : Role} {r : ToolRequest}
  {maxRounds n k : Nat} {context : Context} {p p' : LedProgress} {q q' : Progress}
  {log log' : Consultations} {response : ToolResponse} {ok : Bool} {rs : List ToolRequest}
  {made : List Exchange} {asked : Consultations} {x y z : Consultation}

/-! ### Decisions -/

/-- The decisions of the controller that have led to exchanges in a run that starts with a context.
    Each time it is shown the exchanges so far; the next one has the request that it decided on, and
    the next id. -/
inductive Decides (context : Context) : List Exchange → Consultations → Prop
  | start : Decides context [] []
  | call {made : List Exchange} {asked : Consultations} {x : Consultation} {call : ToolCall}
      {e : Exchange} (h : Decides context made asked)
      (hmessages : x.query.messages = transcript context ++ made.flatMap exchangeMessages)
      (hanswer : x.answer = .ok (.toolCall call))
      (hdecision : decision (.toolCall call) = .toolCall e.request)
      (hid : e.callId = s!"call_{context.exchanges.length + made.length + 1}") :
      Decides context (made ++ [e]) (asked ++ [x])

theorem Decides.length_eq (h : Decides context made asked) : asked.length = made.length := by
  induction h with
  | start => rfl
  | call _ _ _ _ _ ih => rw [List.length_append, List.length_append, ih]; rfl

/-- The controller is first shown what there was before the run. -/
theorem Decides.head (h : Decides context made asked)
    (hz : z.query.messages = transcript context ++ made.flatMap exchangeMessages)
    (hx : (asked ++ [z]).head? = some x) : x.query.messages = transcript context := by
  induction h generalizing z with
  | start =>
    obtain rfl := Option.some.inj hx
    exact hz.trans (List.append_nil _)
  | call _ hmessages _ _ _ ih => exact ih hmessages (by simpa using hx)

/-- From one decision to the next one, the conversation of the controller grows by one exchange, the
    one that the decision led to. -/
theorem Decides.grows (h : Decides context made asked)
    (hz : z.query.messages = transcript context ++ made.flatMap exchangeMessages)
    (hx : (asked ++ [z])[k]? = some x) (hy : (asked ++ [z])[k + 1]? = some y) :
    ∃ call e, x.answer = .ok (.toolCall call) ∧ decision (.toolCall call) = .toolCall e.request ∧
      made[k]? = some e ∧ e.callId = s!"call_{context.exchanges.length + k + 1}" ∧
      y.query.messages = x.query.messages ++ exchangeMessages e := by
  -- by induction on the decisions: the last one leads to `z`, and those before lead to it
  induction h generalizing z with
  | start => simp at hy
  | @call made asked x' call e h hmessages hanswer hdecision hid ih =>
    have hlength := h.length_eq
    -- either both consultations were there before the last call, or they are that call and `z`
    by_cases hk : k + 1 < (asked ++ [x']).length
    · rw [List.getElem?_append_left hk] at hy
      rw [List.getElem?_append_left (Nat.lt_of_succ_lt hk)] at hx
      obtain ⟨call', e', hanswer', hdecision', he', hrest⟩ := ih hmessages hx hy
      have hk' : k < made.length := (List.getElem?_eq_some_iff.mp he').1
      exact ⟨call', e', hanswer', hdecision', by rwa [List.getElem?_append_left hk'], hrest⟩
    · have hle : k + 1 ≤ (asked ++ [x']).length := by
        have hlt := (List.getElem?_eq_some_iff.mp hy).1
        rw [List.length_append, List.length_singleton] at hlt
        exact Nat.le_of_lt_succ hlt
      have hlast : k = made.length := by
        rw [List.length_append, List.length_singleton] at hk hle
        omega
      obtain rfl : x' = x := by simpa [hlast, ← hlength] using hx
      obtain rfl : z = y := by simpa [hlast, ← hlength] using hy
      refine ⟨call, e, hanswer, hdecision, by simp [hlast], by rw [hlast, hid], ?_⟩
      rw [hz, hmessages, List.flatMap_append, List.flatMap_singleton, List.append_assoc]

/-! ### Decisions of a run -/

/-- The crew of a run on a script. -/
def scripted (maxRounds : Nat) (settings : Role → CrewSettings) (script : Script) :
    DelegatingCrew Consultations :=
  ⟨script.agent (settings .controller) .controller, script.agent (settings .math) .math,
    script.agent (settings .poet) .poet, script.agent (settings .narrator) .narrator, maxRounds⟩

/-- A called agent asks nothing for the controller. -/
theorem Called.of_controller (script : Script) (settings : CrewSettings) (role : Role)
    (htranscriber : role ≠ .transcriber) (hcontroller : role ≠ .controller)
    (h : Called (script.agent settings role) r q log response ok q' log') :
    log'.of .controller = log.of .controller := by
  cases h with
  | unasked => rfl
  | failed _ hi | succeeded _ hi =>
    exact script.of_invoke settings role htranscriber hcontroller.symm hi

/-- A tool call asks nothing for the controller. -/
theorem Responds.of_controller
    (h : Responds (scripted maxRounds settings script) r p log response p' log') :
    log'.of .controller = log.of .controller := by
  cases h with
  | math _ hcall =>
    exact Called.of_controller script (settings .math) .math (by decide) (by decide) hcall
  | poet _ _ hcall =>
    exact Called.of_controller script (settings .poet) .poet (by decide) (by decide) hcall
  | early | transfer | misdirected | unknown => rfl

/-- The narrator asks nothing for the controller, and shows the user at most its message. -/
theorem narrate_of_controller (maxRounds : Nat) (settings : Role → CrewSettings) (script : Script)
    (q : Progress) (log : Consultations) :
    ∃ later, (((scripted maxRounds settings script).narrate q log).1.progress.events =
        q.events ++ later ∧ later.filterMap Event.response? = []) ∧
      ((scripted maxRounds settings script).narrate q log).2.of .controller =
        log.of .controller := by
  cases hi : (scripted maxRounds settings script).narrator.invoke q.context log with
  | mk outcome log' =>
    have hlog : log'.of .controller = log.of .controller :=
      script.of_invoke (settings .narrator) .narrator (by decide) (by decide) hi
    cases outcome with
    | error e =>
      rw [narrate_of_error hi]
      exact ⟨[], ⟨(List.append_nil _).symm, rfl⟩, hlog⟩
    | ok output =>
      rw [narrate_of_ok hi]
      exact ⟨_, ⟨rfl, rfl⟩, hlog⟩

/-- Whether the progress of a run comes from some exchanges: it has kept them and has shown them to
    the user, and the controller has decided on each. -/
structure Tracks (context : Context) (made : List Exchange) (p : LedProgress)
    (log : Consultations) : Prop where
  request_eq : p.context.request = context.request
  exchanges_eq : p.context.exchanges = context.exchanges ++ made
  events_eq : p.events = made.flatMap Exchange.events
  decides : Decides context made (log.of .controller)

/-- A decision adds one consultation, on the exchanges so far. -/
theorem Tracks.decide {outcome : Except AgentError Output} (h : Tracks context made p log)
    (hi : (scripted maxRounds settings script).controller.invoke p.context log = (outcome, log')) :
    ∃ z : Consultation, log'.of .controller = log.of .controller ++ [z] ∧
      z.query.messages = transcript context ++ made.flatMap exchangeMessages ∧
      outcome = Agent.decided z.answer := by
  obtain ⟨rfl, rfl⟩ :=
    Prod.mk.inj ((script.controller_eq (settings .controller) p.context log).symm.trans hi)
  exact ⟨_, Consultations.of_append _ _ _, transcript_append h.request_eq h.exchanges_eq, rfl⟩

/-- A tool call that the controller has decided on adds its exchange. -/
theorem Tracks.call {log'' : Consultations} (h : Tracks context made p log)
    (hi : (scripted maxRounds settings script).controller.invoke p.context log =
      (.ok (.toolCall r), log'))
    (hc : (scripted maxRounds settings script).handleCall r
      ((scripted maxRounds settings script).decided p (.toolCall r)) log' = (p', log'')) :
    ∃ e, Tracks context (made ++ [e]) p' log'' := by
  obtain ⟨z, hlog, hmessages, houtcome⟩ := h.decide hi
  obtain ⟨reply, hanswer, hdecision⟩ := decided_eq_ok_iff.mp houtcome.symm
  -- only a tool call is a decision on one
  obtain ⟨call, rfl⟩ : ∃ call, reply = .toolCall call := by
    cases reply with
    | toolCall call => exact ⟨call, rfl⟩
    | answer content => cases hdecision
  have hresponds := responds_respond (scripted maxRounds settings script) r
    (announced ((scripted maxRounds settings script).decided p (.toolCall r)) r) log'
  obtain ⟨e, hrequest, hadded, hshown⟩ := (scripted maxRounds settings script).handleCall_made r
    ((scripted maxRounds settings script).decided p (.toolCall r)) log'
  -- the exchange is added behind those so far, which are counted by its id
  have hid : e.callId = s!"call_{context.exchanges.length + made.length + 1}" := by
    have hexchange := (handleCall_exchanges _ r _ log').symm.trans hadded
    have he := List.head_eq_of_cons_eq (List.append_cancel_left hexchange)
    rw [← he]
    show s!"call_{p.context.exchanges.length + 1}" = _
    rw [h.exchanges_eq, List.length_append]
  rw [hc] at hadded hshown
  rw [handleCall_eq] at hc
  obtain ⟨rfl, rfl⟩ := Prod.mk.inj hc
  refine ⟨e, hresponds.sameTurn.request_eq.trans h.request_eq, ?_, ?_, ?_⟩
  · rw [hadded]
    show p.context.exchanges ++ [e] = _
    rw [h.exchanges_eq, List.append_assoc]
  · rw [hshown]
    show p.events ++ e.events = _
    rw [h.events_eq, List.flatMap_append, List.flatMap_singleton]
  · rw [hresponds.of_controller, hlog]
    exact .call h.decides hmessages hanswer (hrequest ▸ hdecision.symm) hid

/-- **Rounds.** The tool calls of a run have led to exchanges. -/
theorem Leads.tracks (h : Leads (scripted maxRounds settings script) context [] rs p log) :
    ∃ made, Tracks context made p log := by
  induction h with
  | start => exact ⟨[], rfl, (List.append_nil _).symm, rfl, .start⟩
  | call _ hi _ hc ih =>
    obtain ⟨made, htracks⟩ := ih
    obtain ⟨e, hcall⟩ := htracks.call hi hc
    exact ⟨made ++ [e], hcall⟩

/-- The exchanges of a run, the decisions that led to them, and one decision more: what the
    controller is asked is among them, and what the user is shown of tools starts with the
    responses of these exchanges. -/
def Concludes (context : Context) (ending : Ending) (log : Consultations) : Prop :=
  ∃ made asked z later, Decides context made asked ∧
    z.query.messages = transcript context ++ made.flatMap exchangeMessages ∧
    log.of .controller <+: asked ++ [z] ∧
    ending.progress.events.filterMap Event.response? =
      made.map (fun e => (e.request.name, e.response.response)) ++ later

/-- However a run ends, its decisions have led to its exchanges, but perhaps for the last one. -/
theorem Ends.concludes {ending : Ending}
    (h : Ends (scripted maxRounds settings script) context [] ending log) :
    Concludes context ending log := by
  cases h with
  | @exhausted p _ h =>
    obtain ⟨rs, -, hleads⟩ := h.leads
    obtain ⟨made, htracks⟩ := hleads.tracks
    -- the decision that there is no round for any more
    let z : Consultation := ⟨.controller, controllerQuery (settings .controller) p.context,
      script log .controller (controllerQuery (settings .controller) p.context)⟩
    refine ⟨made, _, z, [], htracks.decides,
      transcript_append htracks.request_eq htracks.exchanges_eq, List.prefix_append _ _, ?_⟩
    show p.events.filterMap Event.response? = _
    rw [htracks.events_eq, Exchange.filterMap_events, List.append_nil]
  | @failed n p _ _ e h _ hi =>
    obtain ⟨rs, -, hleads⟩ := h.leads
    obtain ⟨made, htracks⟩ := hleads.tracks
    obtain ⟨z, hlog, hmessages, -⟩ := htracks.decide hi
    refine ⟨made, _, z, [], htracks.decides, hmessages, hlog ▸ List.prefix_rfl, ?_⟩
    show p.events.filterMap Event.response? = _
    rw [htracks.events_eq, Exchange.filterMap_events, List.append_nil]
  | @narrated n p p' log₁ log₂ log₃ output h _ hi hf hp =>
    obtain ⟨rs, -, hleads⟩ := h.leads
    obtain ⟨made, htracks⟩ := hleads.tracks
    obtain ⟨z, hlog, hmessages, -⟩ := htracks.decide hi
    have hphase : ((scripted maxRounds settings script).decided p output).phase ≠ .handedOver :=
      h.phase_ne
    obtain ⟨rfl, -, last, -, -, hshown⟩ :=
      follow_of_handsOver ((follow_handedOver_iff hphase hf).mp hp) hf
    obtain ⟨later, ⟨hevents, hsilent⟩, hasked⟩ :=
      narrate_of_controller maxRounds settings script p'.toProgress log₃
    refine ⟨made, _, z, last.map fun e => (e.request.name, e.response.response), htracks.decides,
      hmessages, (hasked.trans hlog) ▸ List.prefix_rfl, ?_⟩
    have hdecided : ((scripted maxRounds settings script).decided p output).events = p.events := rfl
    rw [hevents, hshown, hdecided, htracks.events_eq, List.filterMap_append, hsilent,
      List.filterMap_append, Exchange.filterMap_events, Exchange.filterMap_events, List.append_nil]

/-- In a run, the conversation of the controller starts with what there was before, and it grows by
    one exchange from round to round: by the call that it decided on, under the next id, and by the
    response that the user is shown. -/
theorem Concludes.grows {ending : Ending} (h : Concludes context ending log) :
    (∀ x, (log.of .controller).head? = some x → x.query.messages = transcript context) ∧
      ∀ k x y, (log.of .controller)[k]? = some x → (log.of .controller)[k + 1]? = some y →
        ∃ call r response, x.answer = .ok (.toolCall call) ∧
          decision (.toolCall call) = .toolCall r ∧
          (ending.progress.events.filterMap Event.response?)[k]? = some (r.name, response) ∧
          y.query.messages = x.query.messages ++
            [.assistantCall ⟨s!"call_{context.exchanges.length + k + 1}", r.name,
                (Json.obj r.arguments).print⟩,
              .toolResult response.print s!"call_{context.exchanges.length + k + 1}"] := by
  obtain ⟨made, asked, z, later, hdecides, hz, ⟨rest, hrest⟩, hevents⟩ := h
  have hfound (k : Nat) (x : Consultation) (hx : (log.of .controller)[k]? = some x) :
      (asked ++ [z])[k]? = some x := by
    rw [← hrest, List.getElem?_append_left (List.getElem?_eq_some_iff.mp hx).1, hx]
  refine ⟨fun x hx => ?_, fun k x y hx hy => ?_⟩
  · refine hdecides.head hz ?_
    rw [List.head?_eq_getElem?] at hx ⊢
    exact hfound 0 x hx
  · obtain ⟨call, e, hanswer, hdecision, he, hid, hmessages⟩ :=
      hdecides.grows hz (hfound k x hx) (hfound (k + 1) y hy)
    refine ⟨call, e.request, e.response.response, hanswer, hdecision, ?_, ?_⟩
    · rw [hevents, List.getElem?_append_left (by simpa using (List.getElem?_eq_some_iff.mp he).1),
        List.getElem?_map, he]
      rfl
    · rw [hmessages, exchangeMessages, hid]

end DelegatingCrew

namespace Crew

open Agent

end Crew

end MathAgents
