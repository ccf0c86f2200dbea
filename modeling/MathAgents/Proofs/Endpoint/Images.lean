import MathAgents.Endpoint.Basic
import MathAgents.Proofs.Session.ImageMemory

namespace MathAgents

/-!
# How images reach an endpoint

The transcriber takes an attachment for an image if its media type says so, or if there is none; an
empty media type counts as none.  The endpoint declares an attachment with its media type, and with
a default if there is none; but here an empty media type is a media type.  So whatever images there
are, of the turn or of an earlier one, they are sent in order and with exactly their bytes, and all
of them but those with an empty media type are declared as images.

* `Agent.transcriber_apply` — the transcriber over any provider.
* `Endpoint.Transport.noting` — a transport that notes what it sends; `Endpoint.provider_noting` —
  a query is sent as one request, or not at all.
* `Endpoint.posted` — the requests of one transcription behind others; `Endpoint.posted_eq`.
* `Endpoint.transcription` — the messages of a transcription as they are to be sent.
* `Endpoint.declared_iff` — which images are declared as images.
* `Endpoint.images_sent` — the requests of all transcriptions.
* `Endpoint.image_undeclared` — an image that is not declared as one.
-/

namespace Agent

variable {σ : Type}

/-- The transcriber asks its provider at most once, about the images that there are for its turn. -/
theorem transcriber_apply (provider : Chat.Provider σ) (temperature : Float) (c : Context) (s : σ)
    (store : StateStore) :
    let resolved := ImageCache.resolve store c.sessionId c.images
    ((transcriber provider temperature).invoke c (s, store)).2 =
      (((transcriberQuery temperature c.request resolved.1).map (provider · s)).elim s (·.2),
        resolved.2) := by
  simp only [transcriber, transcriberQuery]
  cases transcriberMessages c.request (ImageCache.resolve store c.sessionId c.images).1 with
  | none => rfl
  | some messages =>
    dsimp only
    rw [consult_eq]
    rfl

end Agent

namespace Endpoint

open Agent Context
open Chat (Query Message)
open ImageCache (Remembers sourceOf)

variable {σ : Type}

/-! ### Requests -/

/-- The transport that also notes the requests that it is given to send. -/
def Transport.noting (t : Transport σ) : Transport (σ × List HttpRequest) where
  send request := fun (s, sent) =>
    let (response, s) := t.send request s
    (response, s, sent ++ [request])
  freshId := fun (s, sent) =>
    let (id, s) := t.freshId s
    (id, s, sent)

/-- A query is sent as one request, if it can be sent at all; noting it changes nothing else. -/
theorem provider_noting (e : Endpoint) (t : Transport σ) (q : Query) (s : σ)
    (sent : List HttpRequest) :
    e.provider t.noting q (s, sent) =
      ((e.provider t q s).1, (e.provider t q s).2, sent ++ (e.request? q).toList) := by
  unfold provider
  cases hrequest : e.request? q with
  | none =>
    simp only [Option.toList_none, List.append_nil]
    rfl
  | some request =>
    -- the request is noted before its answer is read, so what the answer is does not matter
    simp only [bind_apply, Transport.noting, Option.toList_some]
    cases hsend : t.send request s with
    | mk response s' =>
      cases response with
      | error cause => rfl
      | ok response =>
        dsimp only
        split <;> rfl

/-- Whether queries can be sent at all: the address can be read, and what is sent with every request
    can be written. -/
def Addressable (e : Endpoint) : Prop := ∃ q, (e.request? q).isSome

/-- Whether a query can be sent does not depend on the query, and it is sent as it is written. -/
theorem request?_of_addressable {e : Endpoint} (h : e.Addressable) (q : Query) :
    ∃ request, e.request? q = some request ∧ request.body = queryToWire e.model q := by
  obtain ⟨q', h⟩ := h
  -- what can go wrong is settled by the address and the key, which both queries share
  unfold request? at h ⊢
  cases hurl : Url.parse? e.address with
  | none =>
    rw [hurl] at h
    cases h
  | some url =>
    rw [hurl] at h
    simp only [Option.bind_eq_bind, Option.bind_some] at h ⊢
    split at h
    · next hfits =>
      rw [if_pos hfits]
      exact ⟨_, rfl, rfl⟩
    · cases h

theorem request?_of_not_addressable {e : Endpoint} (h : ¬ e.Addressable) (q : Query) :
    e.request? q = none := by
  cases hrequest : e.request? q with
  | none => rfl
  | some request => exact absurd ⟨q, by rw [hrequest]; rfl⟩ h

/-! ### Transcriptions, one after the other -/

section

variable (e : Endpoint) (t : Transport σ) (temperature : Float) (s : σ)

/-- The transcriber that asks the endpoint, over a transport that notes what it sends. -/
def transcriber : Agent ((σ × List HttpRequest) × StateStore) :=
  Agent.transcriber (e.provider t.noting) temperature

/-- The states when the transcriber has worked on some turns, starting with nothing but the state of
    the transport. -/
def transcribed (turns : List Context) : (σ × List HttpRequest) × StateStore :=
  turns.foldl (fun state c => ((e.transcriber t temperature).invoke c state).2) ((s, []), {})

/-- The requests that the transcriber sends in one more turn. -/
def posted (turns : List Context) (c : Context) : List HttpRequest :=
  let before := e.transcribed t temperature s turns
  let after := ((e.transcriber t temperature).invoke c before).2
  after.1.2.drop before.1.2.length

/-- Behind any turns, the state for sessions holds the images that each session has seen last. -/
theorem remembers_transcribed (turns : List Context) :
    Remembers turns (e.transcribed t temperature s turns).2 := by
  refine ImageCache.remembers_foldl Prod.snd (fun state c => ?_) rfl turns
  obtain ⟨state, store⟩ := state
  exact congrArg Prod.snd (Agent.transcriber_apply (e.provider t.noting) temperature c state store)

/-- What is sent in a turn depends on what the turn is about, and not on any answers. -/
theorem posted_eq (turns : List Context) (c : Context) :
    e.posted t temperature s turns c =
      ((transcriberQuery temperature c.request (sourceOf turns c)).bind e.request?).toList := by
  have hsource := ((e.remembers_transcribed t temperature s turns).resolve c).1
  unfold posted
  generalize e.transcribed t temperature s turns = before at hsource ⊢
  obtain ⟨⟨s, sent⟩, store⟩ := before
  unfold Endpoint.transcriber
  simp only [Agent.transcriber_apply, hsource]
  cases transcriberQuery temperature c.request (sourceOf turns c) with
  | none => simp
  | some query => simp [provider_noting]

end

/-! ### Messages with images -/

/-- A message without images as it is to be sent. -/
def textMessage (speaker text : String) : Json :=
  .obj [("content", .str text), ("role", .str speaker)]

/-- A message with images as it is to be sent: its text, and then the images in order, each as an
    address that holds its media type and its bytes. -/
def imageMessage (text : String) (images : List Attachment) : Json :=
  let image (mediaType : String) (payload : List UInt8) : Json :=
    .obj
      [("image_url", .obj [("url", .str
         ("data:" ++ mediaType ++ ";base64," ++ String.ofList (Base64.encode payload)))]),
       ("type", .str "image_url")]
  .obj
    [("content", .arr (.obj [("text", .str text), ("type", .str "text")] ::
       images.map fun a => image (declaredType a) a.payload)),
     ("role", .str "user")]

/-- The messages of a transcription as they are to be sent: the images of the turn beside its
    request, and those of an earlier turn beside a note. -/
def transcription (c : Context) (images : List Attachment) : List Json :=
  textMessage "system" transcriberInstructions ::
    if c.images ≠ [] then [imageMessage c.request images]
    else [textMessage "user" c.request, imageMessage carriedOverNote images]

theorem messageToWire_system (text : String) :
    messageToWire (.system text) = textMessage "system" text := rfl

theorem messageToWire_user (text : String) :
    messageToWire (.user text) = textMessage "user" text := rfl

theorem messageToWire_userWith (text : String) {images : List Attachment} (h : images ≠ []) :
    messageToWire (.userWith text images) = imageMessage text images := by
  cases images with
  | nil => exact absurd rfl h
  | cons image images => rfl

/-- The transcriber shows all the images that there are for its turn, and shows nothing if there are
    none. -/
theorem messages_sourceOf (turns : List Context) (c : Context) :
    let images := (sourceOf turns c).images
    (images = [] ∧ transcriberMessages c.request (sourceOf turns c) = none) ∨
    (images ≠ [] ∧ ∃ messages, transcriberMessages c.request (sourceOf turns c) = some messages ∧
      messages.map messageToWire = transcription c images) := by
  intro images
  -- images of the turn itself, of an earlier turn, or none
  rcases ImageCache.sourceOf_cases turns c with
    ⟨hown, hsource⟩ | ⟨latest, hnone, hne, -, hsource⟩ | ⟨-, -, hsource⟩
  · have himages : images = c.images := congrArg ImageCache.Source.images hsource
    rw [himages, hsource]
    refine .inr ⟨hown, _, rfl, ?_⟩
    simp only [List.map_cons, List.map_nil, messageToWire_system, messageToWire_userWith _ hown,
      transcription, if_pos hown]
  · have himages : images = latest := congrArg ImageCache.Source.images hsource
    rw [himages, hsource]
    refine .inr ⟨hne, _, rfl, ?_⟩
    have hother : ¬ c.images ≠ [] := not_not_intro hnone
    simp only [List.map_cons, List.map_nil, messageToWire_system, messageToWire_user,
      messageToWire_userWith _ hne, transcription, if_neg hother]
  · have himages : images = [] := congrArg ImageCache.Source.images hsource
    rw [himages, hsource]
    exact .inl ⟨rfl, rfl⟩

/-- An image is declared as an image, unless its media type is empty. -/
theorem declared_iff {a : Attachment} (h : a.isImage) :
    "image".toList <+: (declaredType a).toList ↔ a.mediaType ≠ some "" := by
  obtain ⟨mediaType, payload⟩ := a
  cases mediaType with
  | none =>
    have hdefault : "image".toList <+: "image/png".toList := by decide
    exact iff_of_true hdefault (by simp)
  | some m =>
    have himage : m = "" ∨ "image".toList <+: m.toList :=
      (Attachment.isImage_iff _).mp h m rfl
    by_cases hm : m = ""
    · subst hm
      have hundeclared : ¬ "image".toList <+: "".toList := by decide
      exact iff_of_false hundeclared (by simp)
    · have hdeclared : "image".toList <+: m.toList := himage.resolve_left hm
      exact iff_of_true hdeclared (by simpa using hm)

/-! ### What is sent -/

section

variable (e : Endpoint) (t : Transport σ) (temperature : Float) (s : σ) {turns : List Context}
  {c : Context}

/-- Nothing is sent if there are no images, or the endpoint cannot be addressed. -/
theorem posted_eq_nil (h : (sourceOf turns c).images = [] ∨ ¬ e.Addressable) :
    e.posted t temperature s turns c = [] := by
  rw [posted_eq, transcriberQuery]
  cases hm : transcriberMessages c.request (sourceOf turns c) with
  | none => rfl
  | some messages =>
    have haddress : ¬ e.Addressable := by
      rcases messages_sourceOf turns c with ⟨-, hnone⟩ | ⟨hne, -⟩
      · rw [hnone] at hm
        cases hm
      · exact h.resolve_left hne
    rw [Option.map_some, Option.bind_some, request?_of_not_addressable haddress, Option.toList_none]

/-- One request is sent if there are images, and the endpoint can be addressed. -/
theorem posted_eq_singleton (h : (sourceOf turns c).images ≠ []) (haddress : e.Addressable) :
    ∃ request, e.posted t temperature s turns c = [request] ∧
      request.body.get? "messages" = some (.arr (transcription c (sourceOf turns c).images)) := by
  rcases messages_sourceOf turns c with ⟨hnone, -⟩ | ⟨-, messages, hm, hwire⟩
  · exact absurd hnone h
  · obtain ⟨request, hrequest, hbody⟩ := request?_of_addressable haddress { messages, temperature }
    refine ⟨request, ?_, ?_⟩
    · rw [posted_eq, transcriberQuery, hm, Option.map_some, Option.bind_some, hrequest,
        Option.toList_some]
    · rw [hbody, ← hwire]
      rfl

/-- **Images.** For all transports and turns, and any attachments, on an endpoint that can be
    addressed at all: a transcription with images sends one request, and one without sends none.
    The last message of the request has a text and then exactly the images, in order and with
    exactly their bytes: those of the turn beside the request of the user, or else those that the
    session has seen last beside a note.  No other message has any.  An image without a media type
    is declared with a default, and any other image with its media type; it is declared as an image
    unless the media type is empty. -/
theorem images_sent (turns : List Context) (c : Context) :
    let images := (sourceOf turns c).images
    let posted := e.posted t temperature s turns c
    (images = [] ∨ ¬ e.Addressable → posted = []) ∧
    (images ≠ [] → e.Addressable → ∃ request, posted = [request] ∧
      request.body.get? "messages" = some (.arr (transcription c images))) ∧
    (c.images ≠ [] → images = c.images) ∧
    (c.images = [] → images = (latestImages c.sessionId turns).getD []) ∧
    ∀ a ∈ images, a.isImage ∧ Base64.decode? (Base64.encode a.payload) = some a.payload ∧
      (a.mediaType = none → declaredType a = "image/png") ∧
      (∀ m, a.mediaType = some m → declaredType a = m) ∧
      ("image".toList <+: (declaredType a).toList ↔ a.mediaType ≠ some "") := by
  intro images posted
  refine ⟨e.posted_eq_nil t temperature s, e.posted_eq_singleton t temperature s, ?_, ?_, ?_⟩
  · intro hown
    show (sourceOf turns c).images = c.images
    rw [ImageCache.sourceOf_of_ne hown]
    rfl
  · intro hnone
    show (sourceOf turns c).images = _
    rw [ImageCache.sourceOf_of_nil hnone]
    cases latestImages c.sessionId turns <;> rfl
  · intro a ha
    have himage : a.isImage := ImageCache.isImage_of_sourceOf ha
    refine ⟨himage, Base64.decode?_encode a.payload, ?_, ?_, declared_iff himage⟩
    · intro hnone
      rw [declaredType, hnone, Option.getD_none]
    · intro m hm
      rw [declaredType, hm, Option.getD_some]

end

/-- **An image undeclared.** An attachment with an empty media type is taken for an image, and sent,
    but its address declares no type at all. -/
theorem image_undeclared :
    let e : Endpoint := ⟨"http://localhost/v1", "m", ⟨"k"⟩⟩
    let t : Transport Unit := ⟨fun _ => pure (.error "refused"), pure ""⟩
    let a : Attachment := ⟨some "", [1, 2, 3]⟩
    let c : Context :=
      { sessionId := "s", userId := "u", request := "read this", attachments := [a] }
    a.isImage ∧ ∃ request, e.posted t 0 () [] c = [request] ∧
      request.body.get? "messages" = some (.arr
        [.obj [("content", .str transcriberInstructions), ("role", .str "system")],
         .obj
           [("content", .arr
              [.obj [("text", .str "read this"), ("type", .str "text")],
               .obj
                 [("image_url", .obj [("url", .str "data:;base64,AQID")]),
                  ("type", .str "image_url")]]),
            ("role", .str "user")]]) ∧
      ¬ "data:image".toList <+: "data:;base64,AQID".toList := by
  intro e t a c
  have haddress : e.Addressable := ⟨⟨[], 0, []⟩, by decide +kernel⟩
  have hown : c.images = [a] := by decide
  have hne : c.images ≠ [] := by simp [hown]
  have hsource : (sourceOf [] c).images = [a] := by
    rw [ImageCache.sourceOf_of_ne hne, ImageCache.Source.images, hown]
  have hurl : "data:" ++ declaredType a ++ ";base64," ++ String.ofList (Base64.encode a.payload) =
      "data:;base64,AQID" := by decide +kernel
  obtain ⟨request, hposted, hbody⟩ := e.posted_eq_singleton t 0 ()
    (show (sourceOf [] c).images ≠ [] by simp [hsource]) haddress
  refine ⟨by decide, request, hposted, ?_, by decide⟩
  rw [hbody, hsource, transcription, if_pos hne]
  simp only [imageMessage, textMessage, List.map_cons, List.map_nil, hurl]
  rfl

end Endpoint

end MathAgents
