import MathAgents.Proofs.Run.Watching

namespace MathAgents

/-!
# Runs that are alike

Two runs on different states are compared by a relation between their states: the runs are *alike*
if they have the same value, whenever they start from related states, and leave related states.  An
agent does nothing with a state but ask its provider, so runs on providers that answer alike are
alike; and it asks only what is *fit* for its role, so the providers need not be alike on anything
else.

* `Alike`, `Agent.Alike` — steps, and agents, that are alike.
* `Crew.alike_run` — runs of agents that are alike.
* `Role.Asks` — the queries that are fit for a role: its temperature, and its instructions in front.
* `Crew.alike_build` — runs of one crew on providers that answer alike.
* `Agent.alike_transcriber` — the transcriber on providers that answer alike.
-/

/-! ### Steps that are alike -/

section

variable {σ τ α β : Type} {R : σ → τ → Prop}

/-- Whether two steps have the same value from all states that are related, and leave related
    states. -/
def Alike (R : σ → τ → Prop) (x : StateM σ α) (y : StateM τ α) : Prop :=
  ∀ s t, R s t → (x s).1 = (y t).1 ∧ R (x s).2 (y t).2

theorem alike_pure (R : σ → τ → Prop) (a : α) :
    Alike R (pure a : StateM σ α) (pure a : StateM τ α) := fun _ _ h => ⟨rfl, h⟩

/-- Chains of steps are alike step by step. -/
theorem Alike.bind {x : StateM σ α} {y : StateM τ α} {f : α → StateM σ β} {g : α → StateM τ β}
    (hx : Alike R x y) (hf : ∀ a, Alike R (f a) (g a)) : Alike R (x >>= f) (y >>= g) := by
  intro s t h
  obtain ⟨hvalue, hstate⟩ := hx s t h
  rw [bind_apply, bind_apply, hvalue]
  exact hf (y t).1 (x s).2 (y t).2 hstate

/-- Whether two agents work under the same role, and are alike on every context. -/
structure Agent.Alike (R : σ → τ → Prop) (a : Agent σ) (b : Agent τ) : Prop where
  role : a.role = b.role
  invoke : ∀ c, MathAgents.Alike R (a.invoke c) (b.invoke c)

/-! ### Runs that are alike -/

/-- Two agents that are alike, working side by side on related states. -/
def Agent.Alike.pair {a : Agent σ} {b : Agent τ} (h : a.Alike R b) :
    Agent { p : σ × τ // R p.1 p.2 } where
  role := a.role
  invoke c := fun p =>
    ((a.invoke c p.1.1).1,
      ⟨((a.invoke c p.1.1).2, (b.invoke c p.1.2).2), (h.invoke c p.1.1 p.1.2 p.2).2⟩)

theorem Agent.Alike.mirrors_left {a : Agent σ} {b : Agent τ} (h : a.Alike R b) :
    h.pair.Mirrors (·.1.1) a := ⟨rfl, fun _ _ => rfl⟩

theorem Agent.Alike.mirrors_right {a : Agent σ} {b : Agent τ} (h : a.Alike R b) :
    h.pair.Mirrors (·.1.2) b where
  role := h.role
  invoke c p := by
    obtain ⟨hvalue, -⟩ := h.invoke c p.1.1 p.1.2 p.2
    exact Prod.ext hvalue.symm rfl

/-- **Likeness.** A run sees nothing of the state but what its agents do, so runs of agents that are
    alike are alike: a run of the pairs does what both of them do. -/
theorem Crew.alike_run {agent : Role → Agent σ} {other : Role → Agent τ}
    (h : ∀ role, (agent role).Alike R (other role)) (kind : PipelineKind) (maxRounds : Nat)
    (context : Context) :
    Alike R ((assemble kind maxRounds agent).run context)
      ((assemble kind maxRounds other).run context) := by
  intro s t hst
  let both := (assemble kind maxRounds fun role => (h role).pair).run context ⟨(s, t), hst⟩
  have hleft : (assemble kind maxRounds agent).run context s = (both.1, both.2.1.1) :=
    mirrors_run (fun role => (h role).mirrors_left) kind maxRounds context ⟨(s, t), hst⟩
  have hright : (assemble kind maxRounds other).run context t = (both.1, both.2.1.2) :=
    mirrors_run (fun role => (h role).mirrors_right) kind maxRounds context ⟨(s, t), hst⟩
  rw [hleft, hright]
  exact ⟨rfl, both.2.2⟩

end

/-! ### What agents ask -/

/-- The temperature that the agent with a role works at. -/
def Role.temperature (settings : CrewSettings) : Role → Float
  | .poet => poetTemperature settings.temperature
  | _ => settings.temperature

/-- Whether a query is fit for a role: it is made at the temperature of the role, and the
    instructions of the role stand in front. -/
structure Role.Asks (settings : CrewSettings) (role : Role) (query : Chat.Query) : Prop where
  temperature : query.temperature = role.temperature settings
  instructed : ∃ rest, query.messages = .system role.instructions :: rest

section

variable {σ τ : Type} {R : σ → τ → Prop} {provider : Chat.Provider σ} {other : Chat.Provider τ}
  {settings : CrewSettings}

namespace Agent

theorem alike_consult {messages : List Chat.Message} {temperature : Float}
    (h : MathAgents.Alike R (provider { messages, temperature })
      (other { messages, temperature })) :
    MathAgents.Alike R (consult provider messages temperature)
      (consult other messages temperature) := by
  refine h.bind fun answer => ?_
  cases answer with
  | error e => exact alike_pure R _
  | ok reply => exact alike_pure R _

/-- The math agent only adds to the end of its conversation. -/
theorem alike_mathLoop
    (h : ∀ query, Role.math.Asks settings query → MathAgents.Alike R (provider query) (other query))
    (limit remaining : Nat) (rest : List Chat.Message) (last : Option ToolResponse) :
    MathAgents.Alike R
      (mathLoop provider settings.temperature limit remaining
        (.system mathInstructions :: rest) last)
      (mathLoop other settings.temperature limit remaining
        (.system mathInstructions :: rest) last) := by
  induction remaining generalizing rest last with
  | zero => exact alike_pure R _
  | succ remaining ih =>
    refine (h (mathQuery settings.temperature _) ⟨rfl, rest, rfl⟩).bind fun answer => ?_
    cases answer with
    | error e => exact alike_pure R _
    | ok reply =>
      cases reply with
      | answer content => exact alike_pure R _
      | toolCall call => exact ih (rest ++ callMessages call (answerMathCall call)) _

/-- An agent over providers that answer alike what is fit for some role. -/
theorem alike_agentFor
    (h : ∀ (role : Role) query, role.Asks settings query →
      MathAgents.Alike R (provider query) (other query)) (role : Role) :
    (Crew.agentFor settings provider role).Alike R (Crew.agentFor settings other role) := by
  have hnarrator : (narrator provider settings.temperature).Alike R
      (narrator other settings.temperature) :=
    ⟨rfl, fun c => alike_consult (h .narrator (narratorQuery settings c) ⟨rfl, _, rfl⟩)⟩
  cases role with
  | math => exact ⟨rfl, fun c => alike_mathLoop (h .math) _ _ _ none⟩
  | poet => exact ⟨rfl, fun c => alike_consult (h .poet _ ⟨rfl, _, rfl⟩)⟩
  | controller =>
    refine ⟨rfl, fun c => ?_⟩
    refine (h .controller (controllerQuery settings c) ⟨rfl, _, rfl⟩).bind fun answer => ?_
    cases answer with
    | error e => exact alike_pure R _
    | ok reply => exact alike_pure R _
  | narrator | transcriber => exact hnarrator

/-- Whatever images there are, what the transcriber asks is fit for it. -/
theorem transcriber_asks {request : String} {source : ImageCache.Source}
    {messages : List Chat.Message} (h : transcriberMessages request source = some messages) :
    Role.transcriber.Asks settings { messages, temperature := settings.temperature } := by
  cases source with
  | missing => cases h
  | currentTurn images | carriedOver images =>
    obtain rfl := Option.some.inj h
    exact ⟨rfl, _, rfl⟩

/-- The transcriber over providers that answer alike what is fit for it; the state kept for sessions
    is the same. -/
theorem alike_transcriber
    (h : ∀ query, Role.transcriber.Asks settings query →
      MathAgents.Alike R (provider query) (other query)) :
    (transcriber provider settings.temperature).Alike (fun s t => R s.1 t.1 ∧ s.2 = t.2)
      (transcriber other settings.temperature) := by
  refine ⟨rfl, fun c => ?_⟩
  rintro ⟨s, store⟩ ⟨t, store'⟩ ⟨hst, hstore⟩
  obtain rfl : store = store' := hstore
  simp only [transcriber]
  cases hm : transcriberMessages c.request (ImageCache.resolve store c.sessionId c.images).1 with
  | none => exact ⟨rfl, hst, rfl⟩
  | some messages =>
    obtain ⟨hvalue, hstate⟩ := alike_consult (h _ (transcriber_asks hm)) s t hst
    exact ⟨hvalue, hstate, rfl⟩

end Agent

/-- **Providers.** A run sees nothing of a provider but its answers to what is fit for some role. -/
theorem Crew.alike_build
    (h : ∀ (role : Role) query, role.Asks settings query → Alike R (provider query) (other query))
    (kind : PipelineKind) (context : Context) :
    Alike R ((build kind settings provider).run context)
      ((build kind settings other).run context) :=
  alike_run (Agent.alike_agentFor h) kind settings.maxRounds context

end

end MathAgents
