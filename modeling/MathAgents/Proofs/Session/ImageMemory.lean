import MathAgents.Proofs.Json.Records
import MathAgents.Proofs.Run.Consultation

namespace MathAgents

/-!
# The images of a session

The transcriber keeps the images of a session as JSON in the state for sessions, and it reads them
again in a later turn.  Whatever the turns are, and whatever the providers answer, it works on the
images of its turn, and without any on those of the latest turn of its session that had some.

* `Attachment.isImage_iff` — which attachments are images; `Context.latestImages` — those that a
  session has seen last.
* `ImageCache.Remembers` — the state for sessions holds exactly these; `Remembers.resolve` says what
  one turn makes of it, and `ImageCache.remembers_foldl` that it holds behind all turns.
* `Agent.images_remembered` — what the transcriber shows, keeps and leaves alone.
-/

/-! ### The images seen last -/

/-- An attachment is an image if it has no media type, an empty one, or one that starts with the
    word for it. -/
theorem Attachment.isImage_iff (a : Attachment) :
    a.isImage ↔ ∀ mediaType, a.mediaType = some mediaType →
      mediaType = "" ∨ "image".toList <+: mediaType.toList := by
  unfold isImage
  cases a.mediaType with
  | none => simp
  | some mediaType => simp [List.isPrefixOf_iff_prefix]

namespace Context

variable {session : String} {turns earlier later : List Context} {c d : Context}

/-- Whether a turn brings images into a session. -/
def bringsImages (session : String) (c : Context) : Bool :=
  c.sessionId == session && !c.images.isEmpty

theorem bringsImages_iff : bringsImages session c ↔ c.sessionId = session ∧ c.images ≠ [] := by
  simp [bringsImages]

/-- The images of the latest turn that brought some into a session. -/
def latestImages (session : String) (turns : List Context) : Option (List Attachment) :=
  (turns.filter (bringsImages session)).getLast?.map images

theorem latestImages_concat (session : String) (turns : List Context) (c : Context) :
    latestImages session (turns ++ [c]) =
      if bringsImages session c then some c.images else latestImages session turns := by
  unfold latestImages
  rw [List.filter_append]
  by_cases h : bringsImages session c <;> simp [h]

/-- There is such a turn, if there are such images. -/
theorem exists_of_latestImages {images : List Attachment}
    (h : latestImages session turns = some images) :
    ∃ d ∈ turns, d.sessionId = session ∧ d.images ≠ [] ∧ d.images = images := by
  obtain ⟨d, hd, rfl⟩ := Option.map_eq_some_iff.mp h
  obtain ⟨hmem, hbrings⟩ := List.mem_filter.mp (List.mem_of_getLast? hd)
  obtain ⟨hsession, hne⟩ := bringsImages_iff.mp hbrings
  exact ⟨d, hmem, hsession, hne, rfl⟩

/-- The turns behind the latest one with images do not count. -/
theorem latestImages_of_split (hd : d.sessionId = session) (hne : d.images ≠ [])
    (hlater : ∀ e ∈ later, e.sessionId = session → e.images = []) :
    latestImages session (earlier ++ d :: later) = some d.images := by
  have hbrings : bringsImages session d := bringsImages_iff.mpr ⟨hd, hne⟩
  have hnone : later.filter (bringsImages session) = [] := by
    rw [List.filter_eq_nil_iff]
    intro e he h
    obtain ⟨hsession, himages⟩ := bringsImages_iff.mp h
    exact himages (hlater e he hsession)
  unfold latestImages
  rw [List.filter_append, List.filter_cons_of_pos hbrings, hnone]
  simp

theorem latestImages_eq_none (h : ∀ d ∈ turns, d.sessionId = session → d.images = []) :
    latestImages session turns = none := by
  cases hlatest : latestImages session turns with
  | none => rfl
  | some images =>
    obtain ⟨d, hd, hsession, hne, -⟩ := exists_of_latestImages hlatest
    exact absurd (h d hd hsession) hne

/-- The turns of other sessions do not count. -/
theorem latestImages_filter (session : String) (turns : List Context) :
    latestImages session (turns.filter (·.sessionId = session)) = latestImages session turns := by
  unfold latestImages
  rw [List.filter_filter]
  congr 2
  refine List.filter_congr fun c _ => ?_
  by_cases h : c.sessionId = session <;> simp [bringsImages, h]

theorem isImage_of_mem_images {a : Attachment} (h : a ∈ c.images) : a.isImage :=
  (List.mem_filter.mp h).2

/-- The images that are left of them are all of them. -/
theorem images_idem (c : Context) :
    ({ c with attachments := c.images } : Context).images = c.images := by
  unfold images
  rw [List.filter_filter]
  exact List.filter_congr fun a _ => Bool.and_self a.isImage

end Context

/-! ### The state for sessions -/

namespace ImageCache

open Context

variable {turns : List Context} {c : Context} {store : StateStore}

/-- Whether the state for sessions holds the images that each session has seen last, and nothing
    else. -/
def Remembers (turns : List Context) (store : StateStore) : Prop :=
  ∀ session key, store.get? session key =
    if key = stateKey then (latestImages session turns).map Attachment.listToJson else none

/-- What a turn is about, given those before it. -/
def sourceOf (turns : List Context) (c : Context) : Source :=
  if c.images = [] then
    ((latestImages c.sessionId turns).map Source.carriedOver).getD .missing
  else .currentTurn c.images

theorem sourceOf_of_nil (h : c.images = []) (turns : List Context) :
    sourceOf turns c = ((latestImages c.sessionId turns).map Source.carriedOver).getD .missing :=
  if_pos h

theorem sourceOf_of_ne (h : c.images ≠ []) (turns : List Context) :
    sourceOf turns c = .currentTurn c.images := if_neg h

/-- What a turn is about: its own images, those that its session has seen last, or none. -/
theorem sourceOf_cases (turns : List Context) (c : Context) :
    (c.images ≠ [] ∧ sourceOf turns c = .currentTurn c.images) ∨
    (∃ images, c.images = [] ∧ images ≠ [] ∧ latestImages c.sessionId turns = some images ∧
      sourceOf turns c = .carriedOver images) ∨
    (c.images = [] ∧ latestImages c.sessionId turns = none ∧ sourceOf turns c = .missing) := by
  by_cases himages : c.images = []
  · have hsource := sourceOf_of_nil himages turns
    cases hlatest : latestImages c.sessionId turns with
    | none =>
      rw [hlatest] at hsource
      exact .inr (.inr ⟨himages, rfl, hsource⟩)
    | some images =>
      rw [hlatest] at hsource
      obtain ⟨d, -, -, hne, rfl⟩ := exists_of_latestImages hlatest
      exact .inr (.inl ⟨d.images, himages, hne, rfl, hsource⟩)
  · exact .inl ⟨himages, sourceOf_of_ne himages turns⟩

/-- The images from a source. -/
def Source.images : Source → List Attachment
  | .currentTurn images => images
  | .carriedOver images => images
  | .missing => []

/-- What a turn is about are images, whoever brought them. -/
theorem isImage_of_sourceOf {a : Attachment} (h : a ∈ (sourceOf turns c).images) : a.isImage := by
  by_cases himages : c.images = []
  · rw [sourceOf_of_nil himages] at h
    cases hlatest : latestImages c.sessionId turns with
    | none =>
      rw [hlatest] at h
      cases h
    | some images =>
      obtain ⟨d, -, -, -, rfl⟩ := exists_of_latestImages hlatest
      rw [hlatest] at h
      exact isImage_of_mem_images h
  · rw [sourceOf_of_ne himages] at h
    exact isImage_of_mem_images h

theorem remembers_start : Remembers [] {} := by
  intro session key
  split <;> rfl

/-- The images that are kept are found. -/
theorem Remembers.load_eq (h : Remembers turns store) (session : String) :
    load store session = latestImages session turns := by
  have hstore := h session stateKey
  rw [if_pos rfl] at hstore
  unfold load
  rw [hstore]
  cases hlatest : latestImages session turns with
  | none => rfl
  | some images =>
    obtain ⟨d, -, -, hne, rfl⟩ := exists_of_latestImages hlatest
    have hread : ((some d.images).map Attachment.listToJson).bind Attachment.listOfJson? =
        some d.images := Attachment.listOfJson?_listToJson d.images
    rw [hread]
    cases himages : d.images with
    | nil => exact absurd himages hne
    | cons a as => rfl

/-- A turn without images leaves the state as it is. -/
theorem resolve_of_nil {current : List Attachment} (h : current = []) (store : StateStore)
    (session : String) :
    ImageCache.resolve store session current =
      (((load store session).map Source.carriedOver).getD .missing, store) := by
  subst h
  unfold ImageCache.resolve
  cases load store session <;> rfl

/-- A turn with images puts them into the slot of its session. -/
theorem resolve_of_ne {current : List Attachment} (h : current ≠ []) (store : StateStore)
    (session : String) :
    ImageCache.resolve store session current =
      (.currentTurn current, store.set session stateKey (Attachment.listToJson current)) := by
  unfold ImageCache.resolve refresh
  rw [if_neg (by simpa using h), Attachment.canonical_listToJson]

/-- **Turns.** A turn is about its own images, or about those seen last, and then the state holds
    those seen last with this turn. -/
theorem Remembers.resolve (h : Remembers turns store) (c : Context) :
    (ImageCache.resolve store c.sessionId c.images).1 = sourceOf turns c ∧
      Remembers (turns ++ [c]) (ImageCache.resolve store c.sessionId c.images).2 := by
  by_cases himages : c.images = []
  · rw [resolve_of_nil himages, h.load_eq, sourceOf_of_nil himages]
    refine ⟨rfl, fun session key => ?_⟩
    have hbrings : ¬ bringsImages session c := fun hbrings =>
      (bringsImages_iff.mp hbrings).2 himages
    rw [h session key, latestImages_concat, if_neg hbrings]
  · rw [resolve_of_ne himages, sourceOf_of_ne himages]
    refine ⟨rfl, fun session key => ?_⟩
    rw [StateStore.get?_set, h session key, latestImages_concat]
    by_cases hsession : c.sessionId = session
    · rw [if_pos (bringsImages_iff.mpr ⟨hsession, himages⟩)]
      by_cases hkey : key = stateKey <;> simp [hkey, hsession]
    · rw [if_neg (fun hbrings => hsession (bringsImages_iff.mp hbrings).1), if_neg]
      exact fun hsame => hsession (congrArg Prod.fst hsame).symm

/-- **Histories.** What does to the state for sessions what turns make of it, one after the other,
    remembers the images of all of them. -/
theorem remembers_foldl {τ : Type} {step : τ → Context → τ} (stateOf : τ → StateStore)
    (hstep : ∀ s c, stateOf (step s c) =
      (ImageCache.resolve (stateOf s) c.sessionId c.images).2)
    {start : τ} (hstart : stateOf start = {}) (turns : List Context) :
    Remembers turns (stateOf (turns.foldl step start)) := by
  suffices hfrom : ∀ before s, Remembers before (stateOf s) →
      Remembers (before ++ turns) (stateOf (turns.foldl step s)) by
    refine hfrom [] start ?_
    rw [hstart]
    exact remembers_start
  -- by induction on the turns that are left, behind any that the state remembers
  induction turns with
  | nil =>
    intro before s h
    rwa [List.append_nil]
  | cons c turns ih =>
    intro before s h
    have hafter : Remembers (before ++ [c]) (stateOf (step s c)) := by
      rw [hstep]
      exact (h.resolve c).2
    rw [List.foldl_cons, List.append_cons]
    exact ih (before ++ [c]) (step s c) hafter

end ImageCache

/-! ### Turns, one after the other -/

namespace Script

open Agent

variable {script : Script} {temperature : Float} {turns : List Context} {c : Context}

/-- The log and the state for sessions when the transcriber has worked on some turns, starting with
    nothing. -/
def transcribed (script : Script) (temperature : Float) (turns : List Context) :
    Consultations × StateStore :=
  turns.foldl (fun s c => ((transcriber (script.provider .transcriber) temperature).invoke c s).2)
    ([], {})

/-- What the transcriber shows its model in one more turn. -/
def shown (script : Script) (temperature : Float) (turns : List Context) (c : Context) :
    List (List Chat.Message) :=
  let s := script.transcribed temperature turns
  let s' := ((transcriber (script.provider .transcriber) temperature).invoke c s).2
  (s'.1.drop s.1.length).map (·.query.messages)

/-- Behind any turns, the state holds the images that each session has seen last. -/
theorem remembers_transcribed (script : Script) (temperature : Float) (turns : List Context) :
    ImageCache.Remembers turns (script.transcribed temperature turns).2 := by
  refine ImageCache.remembers_foldl Prod.snd (fun s c => ?_) rfl turns
  obtain ⟨log, store⟩ := s
  rw [script.transcriber_eq]

/-- What is shown in a turn depends on what it is about, and not on what providers answer. -/
theorem shown_eq (script : Script) (temperature : Float) (turns : List Context) (c : Context) :
    script.shown temperature turns c =
      (transcriberMessages c.request (ImageCache.sourceOf turns c)).toList := by
  have hsource := ((script.remembers_transcribed temperature turns).resolve c).1
  unfold shown
  generalize script.transcribed temperature turns = s at hsource ⊢
  obtain ⟨log, store⟩ := s
  simp only [script.transcriber_eq, hsource, List.drop_left, transcriberQuery]
  cases transcriberMessages c.request (ImageCache.sourceOf turns c) <;> rfl

end Script

/-! ### All turns -/

namespace Agent

open Context

/-- What is attached to the messages about a source are its images. -/
theorem mem_images_of_transcriberMessages {request : String} {source : ImageCache.Source}
    {messages : List Chat.Message} {m : Chat.Message} {a : Attachment}
    (h : transcriberMessages request source = some messages) (hm : m ∈ messages)
    (ha : a ∈ m.attachments) : a ∈ source.images := by
  -- only the last message has attachments
  cases source with
  | currentTurn images =>
    obtain rfl := Option.some.inj h
    simp only [List.mem_cons, List.not_mem_nil, or_false] at hm
    rcases hm with rfl | rfl
    · cases ha
    · exact ha
  | carriedOver images =>
    obtain rfl := Option.some.inj h
    simp only [List.mem_cons, List.not_mem_nil, or_false] at hm
    rcases hm with rfl | rfl | rfl
    · cases ha
    · cases ha
    · exact ha
  | missing => cases h

/-- **Images.** For all providers and all turns, of any sessions and with any attachments, that the
    transcriber has worked on since it started with nothing, and for one turn more:
    The images of a turn are its attachments without a media type, with an empty one, or with one
    that starts with `image`.  A turn with images shows exactly these, in order, on the message with
    its request.  A turn without images shows its request, and then exactly the images of the latest
    turn of its session that had some, on a message of their own.  If there was none, the reply asks
    for an upload and nothing is asked.  Attachments that are no images make no difference: none is
    shown and none is kept.  A turn without images leaves the state for sessions as it is, and a
    turn with images changes only the slot of its session.  What is shown in a turn does not change
    if the turns of other sessions had not been, nor if providers had answered otherwise. -/
theorem images_remembered (script : Script) (temperature : Float) (turns : List Context)
    (c : Context) :
    let images (c : Context) : List Attachment := c.attachments.filter (·.isImage)
    let agent := transcriber (script.provider .transcriber) temperature
    let s := script.transcribed temperature turns
    let outcome := (agent.invoke c s).1
    let log := (agent.invoke c s).2.1
    let store := (agent.invoke c s).2.2
    let shown := script.shown temperature turns c
    (∀ a : Attachment, a.isImage ↔ ∀ mediaType, a.mediaType = some mediaType →
      mediaType = "" ∨ "image".toList <+: mediaType.toList) ∧
    (images c ≠ [] →
      shown = [[{ speaker := .system, content := transcriberInstructions },
        { speaker := .user, content := c.request, attachments := images c }]]) ∧
    (images c = [] → ∀ earlier d later, turns = earlier ++ d :: later →
      d.sessionId = c.sessionId → images d ≠ [] →
      (∀ e ∈ later, e.sessionId = c.sessionId → images e = []) →
      shown = [[{ speaker := .system, content := transcriberInstructions },
        { speaker := .user, content := c.request },
        { speaker := .user, content := carriedOverNote, attachments := images d }]]) ∧
    (images c = [] → (∀ d ∈ turns, d.sessionId = c.sessionId → images d = []) →
      outcome = .ok (.reply uploadRequest) ∧ log = s.1) ∧
    agent.invoke { c with attachments := images c } s = agent.invoke c s ∧
    (∀ messages ∈ shown, ∀ m ∈ messages, ∀ a ∈ m.attachments, a.isImage) ∧
    (∀ session key value, store.get? session key = some value →
      ∃ kept, value = Attachment.listToJson kept ∧ ∀ a ∈ kept, a.isImage) ∧
    (images c = [] → store = s.2) ∧
    (images c ≠ [] → ∀ session key, (session, key) ≠ (c.sessionId, ImageCache.stateKey) →
      store.get? session key = s.2.get? session key) ∧
    ∀ other : Script,
      other.shown temperature (turns.filter (·.sessionId = c.sessionId)) c = shown := by
  intro images agent s outcome log store shown
  obtain ⟨hsource, hafter⟩ := (script.remembers_transcribed temperature turns).resolve c
  have hinvoke (c : Context) : agent.invoke c s = _ := script.transcriber_eq temperature c s.1 s.2
  have hstore : store = (ImageCache.resolve s.2 c.sessionId c.images).2 :=
    congrArg (·.2.2) (hinvoke c)
  have hshown : shown = (transcriberMessages c.request (ImageCache.sourceOf turns c)).toList :=
    script.shown_eq temperature turns c
  refine ⟨fun a => a.isImage_iff, ?_, ?_, ?_, ?_, ?_, ?_, ?_, ?_, ?_⟩
  · intro himages
    rw [hshown, ImageCache.sourceOf_of_ne himages]
    rfl
  · intro himages earlier d later hsplit hsession hne hlater
    rw [hshown, ImageCache.sourceOf_of_nil himages, hsplit,
      latestImages_of_split hsession hne hlater]
    rfl
  · intro himages hnone
    have hmissing : ImageCache.sourceOf turns c = .missing := by
      rw [ImageCache.sourceOf_of_nil himages, latestImages_eq_none hnone]
      rfl
    have hasked := hinvoke c
    rw [hsource, hmissing] at hasked
    exact ⟨congrArg (·.1) hasked, (congrArg (·.2.1) hasked).trans (List.append_nil _)⟩
  · show agent.invoke { c with attachments := c.images } s = agent.invoke c s
    rw [hinvoke, hinvoke c, images_idem]
  · intro messages hmessages m hm a ha
    rw [hshown] at hmessages
    exact ImageCache.isImage_of_sourceOf
      (mem_images_of_transcriberMessages (Option.mem_toList.mp hmessages) hm ha)
  · intro session key value hvalue
    rw [hstore, hafter session key] at hvalue
    split at hvalue
    · obtain ⟨kept, hlatest, rfl⟩ := Option.map_eq_some_iff.mp hvalue
      obtain ⟨d, -, -, -, rfl⟩ := exists_of_latestImages hlatest
      exact ⟨d.images, rfl, fun a ha => isImage_of_mem_images ha⟩
    · cases hvalue
  · intro (himages : c.images = [])
    rw [hstore, ImageCache.resolve_of_nil himages]
  · intro (himages : c.images ≠ []) session key hother
    rw [hstore, ImageCache.resolve_of_ne himages, StateStore.get?_set, if_neg hother]
  · intro other
    rw [other.shown_eq, hshown, ImageCache.sourceOf, ImageCache.sourceOf, latestImages_filter]

/-- A turn of a session, with its attachments. -/
def turnWith (sessionId : String) (attachments : List Attachment) : Context :=
  { sessionId, userId := "u", request := "Read it.", attachments }

/-- Of an image beside a note the image is shown, and shown again in a later turn with a note alone,
    whatever another session has shown in between.  Where that session has not shown anything yet,
    it is asked for an upload. -/
theorem images_remembered_later :
    let image : Attachment := ⟨some "image/png", [1, 2, 3]⟩
    let note : Attachment := ⟨some "application/pdf", [4]⟩
    let first := turnWith "a" [image, note]
    let other := turnWith "b" [⟨none, [5]⟩]
    let script := Script.play []
    let system : Chat.Message := { speaker := .system, content := transcriberInstructions }
    script.shown 0 [] first =
        [[system, { speaker := .user, content := "Read it.", attachments := [image] }]] ∧
      script.shown 0 [first, other] (turnWith "a" [note]) =
        [[system, { speaker := .user, content := "Read it." },
          { speaker := .user, content := carriedOverNote, attachments := [image] }]] ∧
      ((transcriber (script.provider .transcriber) 0).invoke (turnWith "b" [])
        (script.transcribed 0 [first])).1 = .ok (.reply uploadRequest) := by
  intro image note first other script system
  obtain ⟨-, hcurrent, -⟩ := images_remembered script 0 [] first
  obtain ⟨-, -, hcarried, -⟩ := images_remembered script 0 [first, other] (turnWith "a" [note])
  obtain ⟨-, -, -, hmissing, -⟩ := images_remembered script 0 [first] (turnWith "b" [])
  refine ⟨hcurrent (by decide), hcarried (by decide) [] first [other] rfl rfl (by decide) ?_,
    (hmissing (by decide) ?_).1⟩
  · intro e he hsession
    obtain rfl := List.mem_singleton.mp he
    exact absurd hsession (by decide)
  · intro d hd hsession
    obtain rfl := List.mem_singleton.mp hd
    exact absurd hsession (by decide)

end Agent

end MathAgents
