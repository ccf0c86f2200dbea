import MathAgents.Proofs.CommandLine.Likeness
import MathAgents.Proofs.Settings.Precedence

namespace MathAgents

/-!
# Where the credential goes

The credential is loaded with the settings, and reaches an endpoint.  Two hosts that differ in their
credentials alone do the same: the same is printed and logged, and what fails fails in the same way,
as long as both credentials can be sent and the transports do not tell them apart.  The requests
differ in the last of the texts that say in whose name they are made, and in nothing else.

* `Endpoint.HttpRequest.AlikeBut` — requests that are the same but for the credential.
* `Endpoint.request?_alikeBut` — the requests of endpoints that differ in the credential.
* `CommandLine.credential_confined` — commands that are carried out with two credentials.
-/

namespace Endpoint

variable {key key' : Secret}

/-- Whether two requests are the same, but for the credential that is sent with each. -/
structure HttpRequest.AlikeBut (key key' : Secret) (r r' : HttpRequest) : Prop where
  url : r.url = r'.url
  body : r.body = r'.body
  authorization : ∃ front, r.authorization = front ++ ["Bearer " ++ key.reveal] ∧
    r'.authorization = front ++ ["Bearer " ++ key'.reveal]

theorem bearer_eq (e : Endpoint) : e.bearer = "Bearer " ++ e.key.reveal := rfl

/-- What is sent of a credential can be sent exactly if the credential can. -/
theorem isFieldValue_bearer (e : Endpoint) :
    isFieldValue e.bearer = isFieldValue e.key.reveal := by
  have hscheme : isFieldValue "Bearer " := by decide
  rw [bearer_eq]
  unfold isFieldValue at hscheme ⊢
  rw [String.toList_append, List.all_append, hscheme, Bool.true_and]

/-- Endpoints that differ in the credential alone make the same requests but for the credential, if
    both credentials can be sent. -/
theorem request?_alikeBut (hkey : isFieldValue key.reveal) (hkey' : isFieldValue key'.reveal)
    (baseUrl model : String) (query : Chat.Query) :
    Option.Rel (HttpRequest.AlikeBut key key')
      ((Endpoint.mk baseUrl model key).request? query)
      ((Endpoint.mk baseUrl model key').request? query) := by
  have hbearer : isFieldValue (Endpoint.mk baseUrl model key).bearer := by
    rwa [isFieldValue_bearer]
  have hbearer' : isFieldValue (Endpoint.mk baseUrl model key').bearer := by
    rwa [isFieldValue_bearer]
  have haddress : (Endpoint.mk baseUrl model key).address =
      (Endpoint.mk baseUrl model key').address := rfl
  unfold request?
  rw [haddress]
  cases Url.parse? (Endpoint.mk baseUrl model key').address with
  | none => exact .none
  | some url =>
    simp only [Option.bind_eq_bind, Option.bind_some, authorization, List.all_append, hbearer,
      hbearer', List.all_cons, List.all_nil]
    split
    · exact .some ⟨rfl, rfl, _, rfl, rfl⟩
    · exact .none

end Endpoint

open Endpoint (HttpRequest Transport)

/-- Settings that differ in the credential alone lead to the same, with requests that are the same
    but for the credential. -/
theorem Settings.alike_withKey {key key' : Secret} (hkey : Endpoint.isFieldValue key.reveal)
    (hkey' : Endpoint.isFieldValue key'.reveal) (s : Settings) :
    (s.withKey (some key)).Alike (HttpRequest.AlikeBut key key') (s.withKey (some key')) where
  run := rfl
  temperature := rfl
  credential := by simp [Settings.withKey]
  requests := by
    rintro _ ⟨⟩ _ ⟨⟩ role query -
    exact Endpoint.request?_alikeBut hkey hkey' s.model.baseUrl s.model.model query

namespace CommandLine

section

variable {σ τ : Type} {R : σ → τ → Prop} {t : Transport σ} {t' : Transport τ} {host host' : Host}
  {key key' : Secret} {s : σ} {s' : τ}

/-- **The credential.** Of two hosts that differ in their credentials alone, where both credentials
    can be sent and the transports do not tell them apart: every command has the same outcome on
    both, which is what it prints, what it logs and how it fails.  Its requests are the same one by
    one, but for the credential that is sent with each. -/
theorem credential_confined (hhosts : host.withoutCredential = host'.withoutCredential)
    (hcredential : host.credential? = some key) (hcredential' : host'.credential? = some key')
    (hkey : Endpoint.isFieldValue key.reveal) (hkey' : Endpoint.isFieldValue key'.reveal)
    (ht : t.Alike R (HttpRequest.AlikeBut key key') t') (hs : R s s') (i : Invocation) :
    let done := i.carryOut t.noting host (s, [])
    let done' := i.carryOut t'.noting host' (s', [])
    done.1 = done'.1 ∧ R done.2.1 done'.2.1 ∧
      List.Forall₂ (HttpRequest.AlikeBut key key') done.2.2 done'.2.2 := by
  have hfiles := congrArg Host.read hhosts
  have hread : host.read = host'.read := hfiles
  have hload := Settings.load_eq_map host i.config
  have hload' := Settings.load_eq_map host' i.config
  rw [hcredential] at hload
  rw [hcredential', ← hhosts] at hload'
  refine alike_carryOut i hread ht.noting ?_ (s, []) (s', []) ⟨hs, .nil⟩
  -- what is loaded without a credential is the same on both hosts
  unfold settings
  rw [hload, hload']
  cases Settings.load host.withoutCredential i.config with
  | error e => exact .inl ⟨_, rfl, rfl⟩
  | ok bare => exact .inr ⟨_, _, rfl, rfl, Settings.alike_withKey hkey hkey' bare⟩

end

/-- A host with nothing but a credential. -/
def hostWith (key : String) : Host where
  read _ := .error .missing
  environment name := if name = keyVariable then some key else none
  home? := none

/-- A transport to an endpoint that refuses every request. -/
def refusing : Transport Unit where
  send _ := pure (.ok ⟨401, []⟩)
  freshId := pure ""

/-- **Two credentials.** An endpoint that refuses every request is asked once, in the name of the
    one credential or of the other, and the command fails in the same way. -/
theorem credential_confined_refused :
    let question : Invocation := ⟨false, none, .run "What is 12 / 3 + 4?" "s" "u" none⟩
    let done (key : String) := question.carryOut refusing.noting (hostWith key) ((), [])
    (done "one").1 = (done "other").1 ∧
      List.Forall₂ (HttpRequest.AlikeBut ⟨"one"⟩ ⟨"other"⟩) (done "one").2.2 (done "other").2.2 ∧
      (done "one").2.2.map (·.authorization) = [["Bearer one"]] ∧
      (done "other").2.2.map (·.authorization) = [["Bearer other"]] := by
  have hhosts : (hostWith "one").withoutCredential = (hostWith "other").withoutCredential := by
    simp only [Host.withoutCredential, hostWith]
    congr 1
    funext name
    by_cases h : name = keyVariable <;> simp [h]
  have ht : refusing.Alike Eq (HttpRequest.AlikeBut ⟨"one"⟩ ⟨"other"⟩) refusing :=
    ⟨fun _ _ _ _ _ _ => ⟨rfl, rfl⟩, fun _ _ _ => ⟨rfl, rfl⟩⟩
  obtain ⟨houtcome, -, hrequests⟩ := credential_confined hhosts (by decide) (by decide)
    (by decide) (by decide) ht (Eq.refl ())
      ⟨false, none, .run "What is 12 / 3 + 4?" "s" "u" none⟩
  refine ⟨houtcome, hrequests, ?_, ?_⟩
  · decide +kernel
  · decide +kernel

end CommandLine

end MathAgents
