import Mathlib.Data.List.Forall2
import MathAgents.CommandLine.Execution
import MathAgents.Proofs.Endpoint.Images
import MathAgents.Proofs.Run.Likeness

namespace MathAgents

/-!
# Commands that are alike

A command sees of a host its files and the settings that are loaded there, and of an endpoint the
responses to its requests.  So two commands are alike if their settings differ only in where their
requests go and what is sent with them, and their transports answer these requests alike.

* `Endpoint.Transport.Alike` — transports that answer requests alike, if the requests are related.
* `Endpoint.Transport.Alike.noting` — notes of the requests are related one by one.
* `Endpoint.alike_provider` — endpoints whose requests are related.
* `Settings.Alike` — settings under which the same is done, with requests that are related.
* `CommandLine.alike_carryOut` — commands that are carried out on two hosts.
-/

variable {σ τ : Type} {R : σ → τ → Prop}

namespace Endpoint

/-! ### Endpoints -/

variable {S : HttpRequest → HttpRequest → Prop} {t : Transport σ} {t' : Transport τ}

/-- Whether two transports answer requests that are related alike, and give the same ids. -/
structure Transport.Alike (R : σ → τ → Prop) (S : HttpRequest → HttpRequest → Prop)
    (t : Transport σ) (t' : Transport τ) : Prop where
  send : ∀ r r', S r r' → MathAgents.Alike R (t.send r) (t'.send r')
  freshId : MathAgents.Alike R t.freshId t'.freshId

theorem Transport.alike_refl (t : Transport σ) (S : HttpRequest → HttpRequest → Prop)
    (h : ∀ r r', S r r' → r = r') : t.Alike Eq S t where
  send r r' hr := by
    rw [h r r' hr]
    rintro s _ rfl
    exact ⟨rfl, rfl⟩
  freshId := by
    rintro s _ rfl
    exact ⟨rfl, rfl⟩

/-- Whether the states under two transports are related, and so are the requests that have been
    noted. -/
def Noted (R : σ → τ → Prop) (S : HttpRequest → HttpRequest → Prop) (s : σ × List HttpRequest)
    (s' : τ × List HttpRequest) : Prop :=
  R s.1 s'.1 ∧ List.Forall₂ S s.2 s'.2

/-- Notes of related requests do not tell the transports apart. -/
theorem Transport.Alike.noting (h : t.Alike R S t') : t.noting.Alike (Noted R S) S t'.noting where
  send r r' hr := by
    rintro ⟨s, sent⟩ ⟨s', sent'⟩ ⟨hs, hsent⟩
    obtain ⟨hresponse, hstate⟩ := h.send r r' hr s s' hs
    exact ⟨hresponse, hstate, List.rel_append hsent (.cons hr .nil)⟩
  freshId := by
    rintro ⟨s, sent⟩ ⟨s', sent'⟩ ⟨hs, hsent⟩
    obtain ⟨hid, hstate⟩ := h.freshId s s' hs
    exact ⟨hid, hstate, hsent⟩

/-- Endpoints answer a query alike if their requests for it are related, or neither has one. -/
theorem alike_provider {e e' : Endpoint} {query : Chat.Query} (ht : t.Alike R S t')
    (h : Option.Rel S (e.request? query) (e'.request? query)) :
    MathAgents.Alike R (e.provider t query) (e'.provider t' query) := by
  unfold provider
  cases hrequest : e.request? query with
  | none =>
    cases hrequest' : e'.request? query with
    | none => exact alike_pure R _
    | some request' =>
      rw [hrequest, hrequest'] at h
      cases h
  | some request =>
    cases hrequest' : e'.request? query with
    | none =>
      rw [hrequest, hrequest'] at h
      cases h
    | some request' =>
      rw [hrequest, hrequest'] at h
      obtain ⟨hr⟩ := h
      -- from here on both do the same with the same response
      refine (ht.send request request' hr).bind fun answer => ?_
      cases answer with
      | error cause => exact alike_pure R _
      | ok response =>
        dsimp only
        by_cases hfinal : response.isFinal
        · rw [if_pos hfinal, if_pos hfinal]
          exact ht.freshId.bind fun id => alike_pure R _
        · rw [if_neg hfinal, if_neg hfinal]
          exact alike_pure R _

end Endpoint

open Endpoint (HttpRequest Transport)

/-! ### Commands -/

/-- Whether the same is done under two settings, with requests that are related: the crews are the
    same, and so is whether there is a credential, and every query that is fit for a role comes to
    requests that are related. -/
structure Settings.Alike (S : HttpRequest → HttpRequest → Prop) (s s' : Settings) : Prop where
  run : s.run = s'.run
  temperature : s.model.temperature = s'.model.temperature
  credential : s.model.key = none ↔ s'.model.key = none
  requests : ∀ key ∈ s.model.key, ∀ key' ∈ s'.model.key, ∀ (role : Role) query,
    role.Asks s.crew query → Option.Rel S ((Endpoint.ofSettings s key).request? query)
      ((Endpoint.ofSettings s' key').request? query)

theorem Settings.Alike.crew_eq {S : HttpRequest → HttpRequest → Prop} {s s' : Settings}
    (h : s.Alike S s') : s.crew = s'.crew := by
  rw [Settings.crew, Settings.crew, h.temperature, h.run]

namespace CommandLine

variable {S : HttpRequest → HttpRequest → Prop} {t : Transport σ} {t' : Transport τ}
  {s s' : Settings} {host host' : Host}

/-- There is an endpoint exactly if there is a credential. -/
theorem endpoint_eq (s : Settings) :
    endpoint s = match s.model.key with
      | some key => .ok (.ofSettings s key)
      | none => .error (.turn SettingsError.missingKey.toTurnError) := by
  unfold endpoint Settings.credential
  cases s.model.key <;> rfl

/-- The settings of an invocation are those that are loaded. -/
theorem settings_of_load {config : Option String} (h : Settings.load host config = .ok s) :
    settings host config = .ok s := by
  rw [settings, h]
  rfl

/-- Either both settings have no endpoint, or the endpoints of both answer alike what is fit for a
    role. -/
theorem alike_endpoint (ht : t.Alike R S t') (h : s.Alike S s') :
    (∃ e, endpoint s = .error e ∧ endpoint s' = .error e) ∨
      ∃ e e', endpoint s = .ok e ∧ endpoint s' = .ok e' ∧
        ∀ (role : Role) query, role.Asks s.crew query →
          Alike R (e.provider t query) (e'.provider t' query) := by
  rw [endpoint_eq, endpoint_eq]
  cases hkey : s.model.key with
  | none =>
    rw [h.credential.mp hkey]
    exact .inl ⟨_, rfl, rfl⟩
  | some key =>
    cases hkey' : s'.model.key with
    | none =>
      rw [h.credential.mpr hkey'] at hkey
      cases hkey
    | some key' =>
      refine .inr ⟨_, _, rfl, rfl, fun role query hasks => ?_⟩
      exact Endpoint.alike_provider ht (h.requests key hkey key' hkey' role query hasks)

theorem alike_runPrompt (ht : t.Alike R S t') (h : s.Alike S s') (prompt session user : String)
    (kind : Option PipelineKind) :
    Alike R (runPrompt t s prompt session user kind)
      (runPrompt t' s' prompt session user kind) := by
  unfold runPrompt
  rcases alike_endpoint ht h with ⟨e, he, he'⟩ | ⟨e, e', he, he', hproviders⟩
  · rw [he, he']
    exact alike_pure R _
  · rw [he, he', ← h.run, ← h.crew_eq]
    dsimp only
    refine Alike.bind ?_ fun result => ?_
    · exact (Crew.alike_build hproviders _ _).bind fun ending => alike_pure R _
    · -- what is printed and logged depends on the ending alone
      cases result.1.outcome with
      | ok report => exact alike_pure R _
      | error e => exact alike_pure R _

theorem attachments_congr (hread : host.read = host'.read) (images : List String) :
    host.attachments images = host'.attachments images := by
  induction images with
  | nil => rfl
  | cons image images ih => rw [Host.attachments, Host.attachments, Host.attachment,
      Host.attachment, hread, ih]

/-- One invocation of the transcriber, for a session that has seen no images before. -/
def transcribing (t : Transport σ) (e : Endpoint) (s : Settings) (prompt session user : String)
    (attachments : List Attachment) : StateM σ (Except AgentError Output) := fun st =>
  let done := (Agent.transcriber (e.provider t) s.crew.temperature).invoke
    { sessionId := session, userId := user, request := prompt, attachments }
    (st, (SessionService.create {} user session).2.state)
  (done.1, done.2.1)

/-- What is printed of an invocation of the transcriber. -/
def transcribed : Except AgentError Output → Outcome
  | .ok output => { output := printEvents [.message Role.transcriber.agentName output.text] }
  | .error e => .failure (.turn (e.toTurnError Role.transcriber.agentName))

theorem transcribe_eq {e : Endpoint} {images : List String} {attachments : List Attachment}
    (hattachments : host.attachments images = .ok attachments) (he : endpoint s = .ok e)
    (prompt session user : String) :
    transcribe t host s prompt session user images =
      transcribing t e s prompt session user attachments >>= fun outcome =>
        pure (transcribed outcome) := by
  unfold transcribe transcribing
  rw [hattachments, he]
  funext st
  have hget : (get : StateM σ σ) st = (st, st) := rfl
  simp only [bind_apply, hget, Settings.crew]
  obtain ⟨outcome, st', store⟩ := (Agent.transcriber (e.provider t) s.model.temperature).invoke
    { sessionId := session, userId := user, request := prompt, attachments }
    (st, (SessionService.create {} user session).2.state)
  cases outcome <;> rfl

theorem alike_transcribe (hread : host.read = host'.read) (ht : t.Alike R S t') (h : s.Alike S s')
    (prompt session user : String) (images : List String) :
    Alike R (transcribe t host s prompt session user images)
      (transcribe t' host' s' prompt session user images) := by
  have hfiles := attachments_congr hread images
  cases hattachments : host'.attachments images with
  | error fault =>
    unfold transcribe
    rw [hfiles, hattachments]
    exact alike_pure R _
  | ok attachments =>
    rw [hattachments] at hfiles
    rcases alike_endpoint ht h with ⟨e, he, he'⟩ | ⟨e, e', he, he', hproviders⟩
    · unfold transcribe
      rw [hfiles, hattachments, he, he']
      exact alike_pure R _
    · rw [transcribe_eq hfiles he, transcribe_eq hattachments he']
      refine Alike.bind ?_ fun outcome => alike_pure R _
      intro st st' hst
      unfold transcribing
      rw [← h.crew_eq]
      generalize (SessionService.create {} user session).2.state = store
      obtain ⟨hvalue, hstate, -⟩ :=
        (Agent.alike_transcriber (hproviders .transcriber)).invoke
          { sessionId := session, userId := user, request := prompt, attachments }
          (st, store) (st', store) ⟨hst, rfl⟩
      exact ⟨hvalue, hstate⟩

/-- **Commands.** A command sees of a host its files and its settings, and of a transport what it
    answers. -/
theorem alike_carryOut (i : Invocation) (hread : host.read = host'.read) (ht : t.Alike R S t')
    (h : (∃ e, settings host i.config = .error e ∧ settings host' i.config = .error e) ∨
      ∃ s s', settings host i.config = .ok s ∧ settings host' i.config = .ok s' ∧ s.Alike S s') :
    Alike R (i.carryOut t host) (i.carryOut t' host') := by
  unfold Invocation.carryOut
  rcases h with ⟨e, he, he'⟩ | ⟨s, s', hs, hs', h⟩
  · rw [he, he']
    cases i.command with
    | eval expression | run prompt session user kind | transcribe prompt session user images =>
      exact alike_pure R _
  · rw [hs, hs']
    cases i.command with
    | eval expression => exact alike_pure R _
    | run prompt session user kind => exact alike_runPrompt ht h prompt session user kind
    | transcribe prompt session user images =>
      exact alike_transcribe hread ht h prompt session user images

end CommandLine

end MathAgents
