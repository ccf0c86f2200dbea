import MathAgents.Proofs.Run.ToolLoop

namespace MathAgents

/-!
# How often providers are asked

A provider may answer a call with one tool call after another for ever, and the controller may go on
deciding.  A run ends all the same: an invocation of an agent has a fixed number of calls, and a run
has a fixed number of invocations.  Providers are scripts here, so they may answer by all the calls
that went before, whoever made them.

* `Role.callLimit` — the calls of one invocation.
* `Consultations.EndsAtFailure` — a failed call is the last one.
* `Agent.Converses.length_le`, `Agent.Converses.endsAtFailure` — what holds of one invocation.
* `SequentialCrew.Works.length_le` — the calls of agents that work one after the other.
* `DelegatingCrew.Spends` — what the rounds of a run have cost; `DelegatingCrew.Reaches.spends`
  carries it from round to round, and `DelegatingCrew.Ends.spends` to the end.
* `Crew.calls_bounded` — the calls of all runs.
-/

/-! ### One invocation -/

/-- How often an agent with a role may ask its provider in one invocation. -/
def Role.callLimit (settings : CrewSettings) : Role → Nat
  | .math => settings.maxIterations
  | _ => 1

namespace Consultations

/-- Whether nothing is asked behind a call that the provider has failed. -/
def EndsAtFailure (talk : Consultations) : Prop :=
  ∀ front x behind cause, talk = front ++ x :: behind → x.answer = .error cause → behind = []

theorem endsAtFailure_nil : EndsAtFailure [] := by
  intro front x behind cause hsplit
  exact absurd hsplit (by simp)

theorem endsAtFailure_singleton (x : Consultation) : EndsAtFailure [x] := by
  intro front y behind cause hsplit _
  cases front with
  | nil => exact (List.cons.inj hsplit).2.symm
  | cons z front => simp at hsplit

end Consultations

namespace Agent

open Consultations

variable {settings : CrewSettings} {role : Role} {c : Context} {talk : Consultations}
  {outcome : Except AgentError Output} {limit remaining : Nat} {last : Option ToolResponse}

/-- The math agent goes on only behind a tool call of its model. -/
theorem MathEnds.endsAtFailure (h : MathEnds limit remaining last talk outcome) :
    EndsAtFailure talk := by
  rintro front x behind cause rfl hx
  -- with something behind it, the failed call would be a tool call
  by_contra hbehind
  have hmem : x ∈ (front ++ x :: behind).dropLast := by
    rw [List.dropLast_append_of_ne_nil (List.cons_ne_nil _ _),
      List.dropLast_cons_of_ne_nil hbehind]
    simp
  have hcall := h.isSome_of_mem_dropLast x hmem
  rw [Consultation.call?_of_error hx] at hcall
  cases hcall

/-- An agent asks no more often than its role allows. -/
theorem Converses.length_le (h : Converses settings role c talk outcome) :
    talk.length ≤ role.callLimit settings := by
  cases h with
  | math h => exact h.ends.length_le
  | poet | narrator | controller => exact Nat.le_refl 1

/-- A call that the provider fails is the last one of its invocation. -/
theorem Converses.endsAtFailure (h : Converses settings role c talk outcome) :
    EndsAtFailure talk := by
  cases h with
  | math h => exact h.ends.endsAtFailure
  | poet | narrator | controller => exact endsAtFailure_singleton _

end Agent

/-- An invocation on a script adds no more calls than the role of the agent allows. -/
theorem Script.length_le_of_invoke (script : Script) (settings : CrewSettings) {role : Role}
    {c : Context} {log log' : Consultations} {outcome : Except AgentError Output}
    (hrole : role ≠ .transcriber)
    (hi : (script.agent settings role).invoke c log = (outcome, log')) :
    log'.length ≤ log.length + role.callLimit settings := by
  obtain ⟨talk, outcome, hconverses, -, hinvoke⟩ := script.exists_converses settings hrole c log
  obtain ⟨rfl, rfl⟩ := Prod.mk.inj (hinvoke.symm.trans hi)
  have htalk := hconverses.length_le
  rw [List.length_append]
  omega

/-! ### Runs in a fixed order -/

namespace SequentialCrew

/-- How often agents with these roles may ask, one after the other. -/
def callLimit (settings : Role → CrewSettings) : List Role → Nat
  | [] => 0
  | role :: roles => role.callLimit (settings role) + callLimit settings roles

/-- Agents that work one after the other ask no more often than all their roles allow. -/
theorem Works.length_le {settings : Role → CrewSettings} {roles : List Role} {c : Context}
    {outputs : List StageOutput} {log : Consultations} {failure : Option (Role × AgentError)}
    (h : Works settings roles c outputs log failure) : log.length ≤ callLimit settings roles := by
  -- by induction on the agents: one that stops leaves the calls of those behind it unused
  induction h with
  | finished => exact Nat.le_refl 0
  | stopped h =>
    have htalk := h.length_le
    rw [callLimit]
    omega
  | said h _ ih =>
    have htalk := h.length_le
    rw [callLimit, List.length_append]
    omega

end SequentialCrew

/-! ### Runs that the controller leads -/

namespace DelegatingCrew

variable {settings : Role → CrewSettings} {script : Script} {maxRounds n : Nat}
  {context : Context} {p p' : LedProgress} {q q' : Progress} {log log' : Consultations}
  {r : ToolRequest} {response : ToolResponse} {ok : Bool} {output : Output}

/-- How often agents may be asked for one decision of the controller: the math agent has its calls,
    and any other agent has one. -/
def callLimit (settings : Role → CrewSettings) : Nat := max 1 (settings .math).maxIterations

/-- No agent has more calls than this. -/
theorem callLimit_role_le {role : Role} :
    role.callLimit (settings role) ≤ callLimit settings := by
  unfold callLimit
  cases role with
  | math =>
    show (settings .math).maxIterations ≤ _
    omega
  | poet | narrator | transcriber | controller =>
    show 1 ≤ _
    omega

/-- A called agent asks no more often than it may be asked for one decision. -/
theorem Called.length_le (role : Role) (htranscriber : role ≠ .transcriber)
    (h : Called (script.agent (settings role) role) r q log response ok q' log') :
    log'.length ≤ log.length + callLimit settings := by
  have hlimit : role.callLimit (settings role) ≤ callLimit settings := callLimit_role_le
  cases h with
  | unasked => omega
  | failed _ hi | succeeded _ hi =>
    have hinvoke := script.length_le_of_invoke (settings role) htranscriber hi
    omega

/-- A tool call asks no more often than that, since it calls at most one agent. -/
theorem Responds.length_le
    (h : Responds (scripted maxRounds settings script) r p log response p' log') :
    log'.length ≤ log.length + callLimit settings := by
  cases h with
  | math _ hcall => exact Called.length_le .math (by decide) hcall
  | poet _ _ hcall => exact Called.length_le .poet (by decide) hcall
  | early | transfer | misdirected | unknown => omega

/-- Carrying out a decision asks no more often than that, and it does not ask the controller. -/
theorem follow_spends
    (hf : (scripted maxRounds settings script).follow output p log = (p', log')) :
    log'.length ≤ log.length + callLimit settings ∧ log'.of .controller = log.of .controller := by
  cases output with
  | toolCall r =>
    have hresponds := responds_respond (scripted maxRounds settings script) r (announced p r) log
    have hhandled : (scripted maxRounds settings script).handleCall r p log = (p', log') := hf
    rw [handleCall_eq] at hhandled
    obtain ⟨-, rfl⟩ := Prod.mk.inj hhandled
    exact ⟨hresponds.length_le, hresponds.of_controller⟩
  | delegate note | reply note =>
    obtain ⟨-, rfl⟩ := Prod.mk.inj hf
    exact ⟨by omega, rfl⟩

/-- Whether no more has been asked than `n` rounds may cost, and the controller has decided no more
    often than once in each. -/
structure Spends (settings : Role → CrewSettings) (n : Nat) (log : Consultations) : Prop where
  length_le : log.length ≤ n * (1 + callLimit settings)
  decisions_le : (log.of .controller).length ≤ n

theorem spends_start (settings : Role → CrewSettings) : Spends settings 0 [] :=
  ⟨Nat.zero_le _, Nat.le_refl 0⟩

/-- More rounds may cost more. -/
theorem Spends.mono (h : Spends settings n log) {m : Nat} (hm : n ≤ m) : Spends settings m log := by
  have hcost : n * (1 + callLimit settings) ≤ m * (1 + callLimit settings) :=
    Nat.mul_le_mul_right _ hm
  exact ⟨h.length_le.trans hcost, h.decisions_le.trans hm⟩

/-- A round costs one decision, and what may be asked for one. -/
theorem Spends.round (h : Spends settings n log)
    (hlength : log'.length ≤ log.length + 1 + callLimit settings)
    (hdecisions : (log'.of .controller).length ≤ (log.of .controller).length + 1) :
    Spends settings (n + 1) log' := by
  obtain ⟨hspent, hdecided⟩ := h
  have hcost : (n + 1) * (1 + callLimit settings) =
      n * (1 + callLimit settings) + (1 + callLimit settings) := Nat.succ_mul _ _
  exact ⟨by omega, by omega⟩

/-- The controller decides in one call. -/
theorem controller_spends {outcome : Except AgentError Output}
    (hi : (scripted maxRounds settings script).controller.invoke p.context log =
      (outcome, log')) :
    log'.length = log.length + 1 ∧
      (log'.of .controller).length = (log.of .controller).length + 1 := by
  obtain ⟨-, rfl⟩ :=
    Prod.mk.inj ((script.controller_eq (settings .controller) p.context log).symm.trans hi)
  refine ⟨by simp, ?_⟩
  rw [Consultations.of_append]
  simp [Consultations.of]

/-- **Rounds.** The rounds behind the start of a round have cost what they may. -/
theorem Reaches.spends (h : Reaches (scripted maxRounds settings script) context [] n p log) :
    Spends settings n log := by
  -- by induction on the rounds: deciding and following the decision are counted apart, since only
  -- deciding asks the controller
  induction h with
  | start => exact spends_start settings
  | @round n p p' log log' log'' output _ _ hi hf _ ih =>
    obtain ⟨hlength, hdecisions⟩ := controller_spends hi
    obtain ⟨hfollowed, hkept⟩ := follow_spends hf
    exact ih.round (by omega) (by rw [hkept, hdecisions])

/-- The narrator asks once, and it does not ask the controller. -/
theorem narrate_spends (maxRounds : Nat) (settings : Role → CrewSettings) (script : Script)
    (q : Progress) (log : Consultations) :
    let log' := ((scripted maxRounds settings script).narrate q log).2
    log'.length ≤ log.length + 1 ∧ log'.of .controller = log.of .controller := by
  intro log'
  obtain ⟨-, -, hcontroller⟩ := narrate_of_controller maxRounds settings script q log
  refine ⟨?_, hcontroller⟩
  cases hi : (scripted maxRounds settings script).narrator.invoke q.context log with
  | mk outcome log₁ =>
    have hinvoke : log₁.length ≤ log.length + 1 :=
      script.length_le_of_invoke (settings .narrator) (by decide : Role.narrator ≠ .transcriber) hi
    have hlog : log' = log₁ := by
      cases outcome with
      | error e => exact congrArg Prod.snd (narrate_of_error hi)
      | ok output => exact congrArg Prod.snd (narrate_of_ok hi)
    rw [hlog]
    exact hinvoke

/-- However a run ends, it has cost no more than all its rounds may: the narrator works in place of
    a called agent, since a handover calls none. -/
theorem Ends.spends {ending : Ending}
    (h : Ends (scripted maxRounds settings script) context [] ending log) :
    Spends settings maxRounds log := by
  cases h with
  | exhausted h => exact h.spends
  | failed h hn hi =>
    obtain ⟨hlength, hdecisions⟩ := controller_spends hi
    have hround : Spends settings (_ + 1) log := h.spends.round (by omega) (Nat.le_of_eq hdecisions)
    exact hround.mono hn
  | @narrated n p p' log₀ log₁ log₂ output h hn hi hf hp =>
    have hphase : ((scripted maxRounds settings script).decided p output).phase ≠ .handedOver :=
      h.phase_ne
    obtain ⟨rfl, -⟩ := follow_of_handsOver ((follow_handedOver_iff hphase hf).mp hp) hf
    obtain ⟨hlength, hdecisions⟩ := controller_spends hi
    obtain ⟨hnarrated, hkept⟩ := narrate_spends maxRounds settings script p'.toProgress log₂
    have hone : 1 ≤ callLimit settings := by
      unfold callLimit
      omega
    have hround : Spends settings (n + 1)
        ((scripted maxRounds settings script).narrate p'.toProgress log₂).2 :=
      h.spends.round (by omega) (by rw [hkept, hdecisions])
    exact hround.mono hn

end DelegatingCrew

/-! ### All runs -/

namespace Crew

open Agent Consultations

/-- **Bounds.** Whatever the providers answer, by all the calls that went before: an invocation of
    the math agent makes at most `limit` calls, and the transcriber makes at most one.  A run in a
    fixed order makes at most `limit + 2` calls, and a run that the controller leads makes at most
    `maxRounds * (1 + max 1 limit)`, of which at most `maxRounds` are decisions of the controller.
    A call that the provider fails is the last call of the invocation that made it: of every
    invocation by itself, and of every invocation in a run, where the calls of the invocations, one
    behind the other, are all the calls of the run. -/
theorem calls_bounded (maxRounds : Nat) (settings : Role → CrewSettings) (script : Script)
    (context : Context) :
    let limit := (settings .math).maxIterations
    let agent (role : Role) := script.agent (settings role) role
    let run (kind : PipelineKind) := (assemble kind maxRounds agent).run context []
    (∀ c log, ((agent .math).invoke c log).2.length ≤ log.length + limit) ∧
    (run .sequential).2.length ≤ limit + 2 ∧
    (run .toolDriven).2.length ≤ maxRounds * (1 + max 1 limit) ∧
    ((run .toolDriven).2.of .controller).length ≤ maxRounds ∧
    (∀ role, role ≠ .transcriber → ∀ c log, ∃ talk,
      ((agent role).invoke c log).2 = log ++ talk ∧ EndsAtFailure talk) ∧
    (∀ temperature c log store, ∃ talk,
      ((transcriber (script.provider .transcriber) temperature).invoke c (log, store)).2.1 =
        log ++ talk ∧ talk.length ≤ 1 ∧ EndsAtFailure talk) ∧
    ∀ kind, ∃ done : List Invocation,
      (assemble kind maxRounds fun role => (agent role).watched).run context ([], []) =
        ((run kind).1, (run kind).2, done) ∧
      (run kind).2 = done.flatMap (·.talk) ∧ ∀ x ∈ done, EndsAtFailure x.talk := by
  intro limit agent run
  have hled : DelegatingCrew.Spends settings maxRounds (run .toolDriven).2 :=
    ((DelegatingCrew.scripted maxRounds settings script).ends_run context []).spends
  refine ⟨fun c log => ?_, ?_, hled.length_le, hled.decisions_le, fun role hrole c log => ?_,
    fun temperature c log store => ?_, fun kind => ?_⟩
  · exact script.length_le_of_invoke (settings .math) (by decide : Role.math ≠ .transcriber) rfl
  · obtain ⟨outputs, failure, haccount, -⟩ :=
      SequentialCrew.exists_account settings script context
    exact haccount.works.length_le
  · obtain ⟨talk, outcome, hconverses, -, hinvoke⟩ :=
      script.exists_converses (settings role) hrole c log
    exact ⟨talk, congrArg Prod.snd hinvoke, hconverses.endsAtFailure⟩
  · rw [script.transcriber_eq]
    refine ⟨_, rfl, ?_⟩
    cases transcriberQuery temperature c.request
        (ImageCache.resolve store c.sessionId c.images).1 with
    | none => exact ⟨Nat.zero_le 1, endsAtFailure_nil⟩
    | some query => exact ⟨Nat.le_refl 1, endsAtFailure_singleton _⟩
  · obtain ⟨done, hrun, haccounts⟩ := exists_accounts kind maxRounds settings script context
    refine ⟨done, hrun, haccounts.progress.asked_eq, ?_⟩
    intro x hx
    exact (haccounts.progress.converses x hx).endsAtFailure

end Crew

end MathAgents
