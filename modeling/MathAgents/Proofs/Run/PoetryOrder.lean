import MathAgents.Proofs.Run.Rounds

namespace MathAgents

/-!
# Poetry comes after math

In a run that the controller leads, the phase is linked to the audit trail: as long as the poet may
be called, the last entry of the math agent in the trail is a success.  Hence the poet is only
invoked behind such an entry, and any other call of it is refused before a provider is asked.

* `ToolResponse.errorKind?` — the kind of the failure that a response holds.
* `AuditTrail.MathHolds` — the math agent has succeeded in a run, and has not failed since.
* `LedProgress.InOrder` — the link between the phase and the audit trail.
* `DelegatingCrew.Responds.inOrder` — a tool call keeps the link.
* `DelegatingCrew.poetry_follows_math` — the order of poetry and math in every run.
-/

/-! ### Failures in responses -/

/-- The kind of the failure that a response holds, if it holds one. -/
def ToolResponse.errorKind? (r : ToolResponse) : Option String :=
  (r.response.get? "error").bind (·.getString? "kind")

/-- The kind of a failure is found in its value. -/
theorem Failure.kind_value (f : Failure) :
    (f.value.get? "error").bind (·.getString? "kind") = some f.kind := by
  obtain ⟨kind, reason, message⟩ := f
  cases reason <;> rfl

/-- The kind of a failure is found in the response that tells it. -/
theorem ToolResponse.errorKind?_ofFailure (name : String) (f : Failure) :
    (ofFailure name f).errorKind? = some f.kind := f.kind_value

/-- The value of a failure is found to be one. -/
theorem Failure.isError_value (name : String) (f : Failure) :
    (ToolResponse.mk name f.value).isError := by
  obtain ⟨kind, reason, message⟩ := f
  cases reason <;> rfl

namespace AuditTrail

/-- Whether a trail holds a success of the math agent with no further entry of it behind: the latest
    success, and no failure since. -/
def MathHolds (t : AuditTrail) : Prop :=
  ∃ earlier e later, t = earlier ++ e :: later ∧ e.agent = Role.math.agentName ∧ e.success ∧
    ∀ f ∈ later, f.agent ≠ Role.math.agentName

/-- Whether every entry of the poet stands behind a success of the math agent that holds. -/
def PoetryOrdered (t : AuditTrail) : Prop :=
  ∀ before e after, t = before ++ e :: after → e.agent = Role.poet.agentName → MathHolds before

variable {t : AuditTrail} {e : AuditEntry}

/-- A success of the math agent holds. -/
theorem MathHolds.of_success (ha : e.agent = Role.math.agentName) (hs : e.success) :
    MathHolds (t ++ [e]) :=
  ⟨t, e, [], rfl, ha, hs, by simp⟩

/-- Another agent's entry leaves a success of the math agent in force. -/
theorem MathHolds.append (h : MathHolds t) (ha : e.agent ≠ Role.math.agentName) :
    MathHolds (t ++ [e]) := by
  obtain ⟨earlier, m, later, rfl, hm, hs, hl⟩ := h
  refine ⟨earlier, m, later ++ [e], by simp, hm, hs, fun f hf => ?_⟩
  rcases List.mem_append.mp hf with hf | hf
  · exact hl f hf
  · obtain rfl := List.mem_singleton.mp hf
    exact ha

/-- A success of the math agent is among the entries. -/
theorem MathHolds.exists_mem (h : MathHolds t) : ∃ e ∈ t, e.agent = Role.math.agentName := by
  obtain ⟨earlier, e, later, rfl, hm, _⟩ := h
  exact ⟨e, by simp, hm⟩

theorem poetryOrdered_nil : PoetryOrdered [] := by
  intro before e after h
  simp at h

/-- One more entry keeps the order if it is not the poet's or if a success of the math agent
    holds. -/
theorem PoetryOrdered.append (h : PoetryOrdered t)
    (he : e.agent = Role.poet.agentName → MathHolds t) : PoetryOrdered (t ++ [e]) := by
  intro before f after hsplit hf
  rcases split_append_singleton hsplit with ⟨rfl, rfl, -⟩ | ⟨later, -, hfront⟩
  · -- the poet's entry is the new one
    exact he hf
  · -- it is an earlier one
    exact h before f later hfront hf

end AuditTrail

namespace LedProgress

open AuditTrail

/-- Whether the phase of a run is in keeping with its audit trail: where the poet may be called, a
    success of the math agent holds, and the poet has only worked behind such a success. -/
structure InOrder (p : LedProgress) : Prop where
  holds : p.phase.allowsPoetry → p.audit.MathHolds
  ordered : p.audit.PoetryOrdered

variable {p q : LedProgress}

/-- A run starts in order, whatever its context holds. -/
theorem inOrder_start (context : Context) : InOrder { context } :=
  ⟨fun h => (by cases h), poetryOrdered_nil⟩

/-- What adds nothing to the audit trail keeps a run in order if it lets the poet be called no
    earlier. -/
theorem InOrder.keep (h : p.InOrder) (haudit : q.audit = p.audit)
    (hphase : q.phase.allowsPoetry → p.phase.allowsPoetry) : q.InOrder := by
  constructor
  · intro ha
    rw [haudit]
    exact h.holds (hphase ha)
  · rw [haudit]
    exact h.ordered

/-- One more entry keeps a run in order if a success of the math agent holds in front of it, should
    it be the poet's, and behind it, should the poet be allowed from then on. -/
theorem InOrder.extend (h : p.InOrder) {e : AuditEntry}
    (haudit : q.audit = p.audit ++ [e])
    (hfront : e.agent = Role.poet.agentName → p.audit.MathHolds)
    (hbehind : q.phase.allowsPoetry → MathHolds (p.audit ++ [e])) : q.InOrder := by
  constructor
  · intro ha
    rw [haudit]
    exact hbehind ha
  · rw [haudit]
    exact h.ordered.append hfront

end LedProgress

namespace DelegatingCrew

open LedProgress AuditTrail

variable {σ : Type} {crew : DelegatingCrew σ} {r : ToolRequest} {p p' : LedProgress} {s s' : σ}
  {response : ToolResponse}

/-! ### What keeps a run in order -/

/-- The decision of the controller keeps a run in order. -/
theorem inOrder_decided (hc : crew.WellCast) (h : p.InOrder) (output : Output) :
    (crew.decided p output).InOrder := by
  have hname : crew.controller.name = Role.controller.agentName := congrArg _ hc.controller
  refine h.extend rfl (fun hpoet => ?_) (fun ha => (h.holds ha).append ?_)
  · rw [entryOf_agent, hname] at hpoet
    exact absurd hpoet (by decide)
  · rw [entryOf_agent, hname]
    decide

/-- A call of the math agent keeps a run in order, whether or not it succeeds. -/
theorem Called.inOrder_math (hc : crew.WellCast) (h : p.InOrder) {ok : Bool} {q : Progress}
    (hcall : Called crew.math r p.toProgress s response ok q s') :
    InOrder ⟨q, .mathCalled ok⟩ := by
  rcases hcall.audit with ⟨haudit, rfl⟩ | ⟨e, haudit, he, hok⟩
  · -- nothing was handed on, which counts as a failure
    exact h.keep haudit fun ha => by cases ha
  · have hname : e.agent = Role.math.agentName := he.trans (congrArg _ hc.math)
    refine h.extend haudit (fun hpoet => absurd (hname.symm.trans hpoet) (by decide)) ?_
    intro ha
    have hsuccess : e.success := by
      cases ok with
      | true => exact hok
      | false => cases ha
    exact .of_success hname hsuccess

/-- A call of the poet keeps a run in order where the poet may be called. -/
theorem Called.inOrder_poet (hc : crew.WellCast) (h : p.InOrder) (ha : p.phase.allowsPoetry)
    {ok : Bool} {q : Progress} (hcall : Called crew.poet r p.toProgress s response ok q s') :
    InOrder ⟨q, if ok then .poetCalled else p.phase⟩ := by
  have hmath : p.audit.MathHolds := h.holds ha
  rcases hcall.audit with ⟨haudit, rfl⟩ | ⟨e, haudit, he, hok⟩
  · exact h.keep haudit fun _ => ha
  · -- the poet may be called again, as the success of the math agent still holds
    have hname : e.agent = Role.poet.agentName := he.trans (congrArg _ hc.poet)
    refine h.extend haudit (fun _ => hmath) (fun _ => hmath.append ?_)
    rw [hname]
    decide

/-- **Tool calls.** What a tool call comes to keeps a run in order. -/
theorem Responds.inOrder (hc : crew.WellCast) (h : p.InOrder)
    (hr : Responds crew r p s response p' s') : p'.InOrder := by
  cases hr with
  | math _ hcall => exact hcall.inOrder_math hc h
  | poet _ ha hcall => exact hcall.inOrder_poet hc h ha
  | early | misdirected | unknown => exact h
  | transfer => exact h.keep rfl fun ha => by cases ha

/-- Carrying out a decision keeps a run in order. -/
theorem inOrder_follow (hc : crew.WellCast) (h : p.InOrder) (output : Output) (s : σ) :
    (crew.follow output p s).1.InOrder := by
  cases output with
  | toolCall r =>
    have hannounced : (announced p r).InOrder := h.keep rfl id
    have hresponds := (responds_respond crew r (announced p r) s).inOrder hc hannounced
    exact hresponds.keep rfl id
  | delegate note | reply note =>
    exact h.keep (handOver_audit crew.controller.name note p) fun ha => by cases ha

/-! ### Runs -/

variable {context : Context} {s₀ : σ} {n : Nat}

/-- Every round of a run starts in order. -/
theorem Reaches.inOrder (hc : crew.WellCast) (h : Reaches crew context s₀ n p s) : p.InOrder := by
  induction h with
  | start => exact inOrder_start context
  | @round n p p' s s' s'' output _ _ _ hf _ ih =>
    have hround := inOrder_follow hc (inOrder_decided hc ih output) output s'
    rw [hf] at hround
    exact hround

/-- A run ends with an audit trail in order. -/
theorem Ends.poetryOrdered (hc : crew.WellCast) {ending : Ending}
    (h : Ends crew context s₀ ending s) : ending.progress.audit.PoetryOrdered := by
  cases h with
  | exhausted h => exact (h.inOrder hc).ordered
  | @failed n p s s' e h =>
    have hname : crew.controller.name = Role.controller.agentName := congrArg _ hc.controller
    refine (h.inOrder hc).ordered.append fun hpoet => ?_
    rw [entryOf_agent, hname] at hpoet
    exact absurd hpoet (by decide)
  | @narrated n p p' s s' s'' output h _ _ hf =>
    have hround := inOrder_follow hc (inOrder_decided hc (h.inOrder hc) output) output s'
    rw [hf] at hround
    obtain ⟨e, haudit, he⟩ := crew.narrate_audit p'.toProgress s''
    have hname : e.agent = Role.narrator.agentName := he.trans (congrArg _ hc.narrator)
    rw [haudit]
    exact hround.ordered.append fun hpoet => absurd (hname.symm.trans hpoet) (by decide)

/-- Where the poet may not be called, a call of it is refused, and nothing else happens. -/
theorem Responds.early_eq (h : Responds crew r p s response p' s')
    (hr : r.name = Role.poet.agentName) (ha : ¬ p.phase.allowsPoetry) :
    response = refuse r.name "OrderingViolation" orderingMessage ∧ p' = p ∧ s' = s := by
  cases h with
  | math hm => exact absurd (hm.symm.trans hr) (by decide)
  | poet _ hp => exact absurd hp ha
  | early => exact ⟨rfl, rfl, rfl⟩
  | transfer ht | misdirected ht => exact absurd (ht.symm.trans hr) (by decide)
  | unknown _ hp => exact absurd hr hp

/-- Where the poet may not be called, a call of it is shown and refused without asking a
    provider. -/
theorem handleCall_early (hr : r.name = Role.poet.agentName) (ha : ¬ p.phase.allowsPoetry) :
    crew.handleCall r p s =
      (answered (announced p r) r (refuse r.name "OrderingViolation" orderingMessage), s) := by
  obtain ⟨hresponse, hprogress, hstate⟩ :=
    (responds_respond crew r (announced p r) s).early_eq hr ha
  rw [handleCall_eq, hresponse, hprogress, hstate]

/-- **Order.** In every run that the controller leads, over any providers, the poet is only invoked
    behind a success of the math agent in the same run that no failure of it has followed.  Every
    other call of the poet is refused with a failure whose kind is an ordering violation: the call
    is shown and answered, nothing is added to the audit trail and no provider is asked. -/
theorem poetry_follows_math (maxRounds : Nat) (settings : Role → CrewSettings)
    (provider : Role → Chat.Provider σ) (context : Context) (s₀ : σ) :
    let crew := ofProviders maxRounds settings provider
    (∀ (before : AuditTrail) e after,
      (crew.run context s₀).1.progress.audit = before ++ e :: after →
      e.agent = Role.poet.agentName → before.MathHolds) ∧
    (∀ r p s, crew.Calls context s₀ r p s → r.name = Role.poet.agentName →
      ¬ p.audit.MathHolds →
        let refusal := refuse r.name "OrderingViolation" orderingMessage
        refusal.errorKind? = some "OrderingViolation" ∧
          crew.handleCall r p s = (answered (announced p r) r refusal, s)) := by
  intro crew
  have hc : crew.WellCast := wellCast_ofProviders maxRounds settings provider
  refine ⟨(crew.ends_run context s₀).poetryOrdered hc, fun r p s hcall hr hnone => ?_⟩
  cases hcall with
  | @call n p s s' r h hn hi =>
    -- with no success that holds, the phase cannot allow the poet
    have horder : (crew.decided p (.toolCall r)).InOrder := inOrder_decided hc (h.inOrder hc) _
    exact ⟨ToolResponse.errorKind?_ofFailure _ _,
      handleCall_early hr fun ha => hnone (horder.holds ha)⟩

/-- A model that asks for the poet at once is refused. -/
theorem poetry_follows_math_at_once :
    let provider : Chat.Provider Unit :=
      fun _ s => (.ok (.toolCall ⟨"1", Role.poet.agentName, ""⟩), s)
    let crew := ofProviders 1 (fun _ => ⟨0, 1, 1⟩) (fun _ => provider)
    let context : Context := { sessionId := "s", userId := "u", request := "1 + 1" }
    let r : ToolRequest := { name := Role.poet.agentName }
    let refusal := refuse r.name "OrderingViolation" orderingMessage
    refusal.errorKind? = some "OrderingViolation" ∧
      ∃ p, crew.Calls context () r p () ∧ ¬ p.audit.MathHolds ∧
        crew.handleCall r p () = (answered (announced p r) r refusal, ()) := by
  intro provider crew context r refusal
  have hcall : crew.Calls context () r (crew.decided { context } (.toolCall r)) () :=
    .call .start (Nat.lt_succ_self 0) rfl
  have hnone : ¬ (crew.decided { context } (.toolCall r)).audit.MathHolds := by
    intro h
    obtain ⟨e, he, hm⟩ := h.exists_mem
    obtain rfl := List.mem_singleton.mp he
    exact absurd hm (by decide)
  obtain ⟨hkind, hrefused⟩ :=
    (poetry_follows_math 1 _ (fun _ => provider) context ()).2 r _ () hcall rfl hnone
  exact ⟨hkind, _, hcall, hnone, hrefused⟩

end DelegatingCrew

end MathAgents
