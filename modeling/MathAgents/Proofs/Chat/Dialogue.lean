import MathAgents.Agent.Controller
import MathAgents.Agent.Math
import MathAgents.Agent.Transcriber

namespace MathAgents

/-!
# Conversations that a model accepts

A model is shown instructions, then what the user says, and from there on any number of messages
and of tool calls, each with its answer right behind it.  A model that is shown a call without an
answer, or an answer without a call, refuses the whole conversation.

* `Chat.WellFormed` — what a model expects of a conversation.
* `Chat.Dialogue` — what stands behind the opening, built up piece by piece.
* `Chat.Opened.wellFormed` — an opening with a dialogue behind it is what a model expects.
* `Agent.opened_messages`, `Agent.opened_transcript`, `Agent.opened_transcriberMessages` — what the
  agents show their models at first; `Agent.dialogue_callMessages` — what the math agent adds.
-/

namespace Chat

variable {m ask answer : Message} {messages front rest more : List Message}

/-! ### What a model expects -/

/-- Whether a message asks for one tool call, which the other one answers. -/
structure Message.AnsweredBy (ask answer : Message) : Prop where
  speaker : ask.speaker = .assistant
  answerer : answer.speaker = .tool
  calls : ∃ call, ask.calls = [call] ∧ answer.answers = some call.id
  silent : answer.calls = []

/-- Whether a conversation is what a model expects: one message with instructions, at its beginning,
    and the user's right behind it; and every message that asks for tool calls asks for one and is
    right in front of the answer to it, and there are no other answers. -/
structure WellFormed (messages : List Message) : Prop where
  opening : ∃ instructions request rest, messages = instructions :: request :: rest ∧
    instructions.speaker = .system ∧ request.speaker = .user ∧ ∀ m ∈ rest, m.speaker ≠ .system
  answered : ∀ front ask rest, messages = front ++ ask :: rest → ask.calls ≠ [] →
    ∃ answer later, rest = answer :: later ∧ ask.AnsweredBy answer
  asked : ∀ front answer rest, messages = front ++ answer :: rest → answer.speaker = .tool →
    ∃ earlier ask, front = earlier ++ [ask] ∧ ask.AnsweredBy answer

/-! ### Dialogues -/

/-- What stands behind the opening of a conversation: messages of the user and of the model, and
    tool calls with their answers. -/
inductive Dialogue : List Message → Prop
  | nil : Dialogue []
  | say {m : Message} {rest : List Message} (hcalls : m.calls = [])
      (hspeaker : m.speaker = .user ∨ m.speaker = .assistant) (h : Dialogue rest) :
      Dialogue (m :: rest)
  | call {ask answer : Message} {rest : List Message} (hanswer : ask.AnsweredBy answer)
      (h : Dialogue rest) : Dialogue (ask :: answer :: rest)

theorem Dialogue.append (h : Dialogue messages) (hmore : Dialogue more) :
    Dialogue (messages ++ more) := by
  induction h with
  | nil => exact hmore
  | say hcalls hspeaker _ ih => exact .say hcalls hspeaker ih
  | call hanswer _ ih => exact .call hanswer ih

theorem dialogue_flatMap {α : Type} {f : α → List Message} (hf : ∀ a, Dialogue (f a))
    (as : List α) : Dialogue (as.flatMap f) := by
  induction as with
  | nil => exact .nil
  | cons a as ih => exact (hf a).append ih

/-- A dialogue holds no instructions. -/
theorem Dialogue.speaker_ne (h : Dialogue messages) : ∀ m ∈ messages, m.speaker ≠ .system := by
  induction h with
  | nil => simp
  | say _ hspeaker _ ih =>
    refine List.forall_mem_cons.mpr ⟨?_, ih⟩
    rcases hspeaker with hspeaker | hspeaker <;> simp [hspeaker]
  | call hanswer _ ih =>
    refine List.forall_mem_cons.mpr ⟨by simp [hanswer.speaker], ?_⟩
    exact List.forall_mem_cons.mpr ⟨by simp [hanswer.answerer], ih⟩

/-- A call in a dialogue is right in front of its answer. -/
theorem Dialogue.answered (h : Dialogue messages) (hsplit : messages = front ++ ask :: rest)
    (hask : ask.calls ≠ []) : ∃ answer later, rest = answer :: later ∧ ask.AnsweredBy answer := by
  -- by induction on the dialogue, as far as the call is not in its first piece
  induction h generalizing front with
  | nil => simp at hsplit
  | say hcalls _ _ ih =>
    cases front with
    | nil =>
      obtain ⟨rfl, -⟩ := List.cons.inj hsplit
      exact absurd hcalls hask
    | cons _ front => exact ih (List.cons.inj hsplit).2
  | call hanswer _ ih =>
    cases front with
    | nil =>
      obtain ⟨rfl, rfl⟩ := List.cons.inj hsplit
      exact ⟨_, _, rfl, hanswer⟩
    | cons _ front =>
      have htail := (List.cons.inj hsplit).2
      cases front with
      | nil =>
        obtain ⟨rfl, -⟩ := List.cons.inj htail
        exact absurd hanswer.silent hask
      | cons _ front => exact ih (List.cons.inj htail).2

/-- An answer in a dialogue is right behind its call. -/
theorem Dialogue.asked (h : Dialogue messages) (hsplit : messages = front ++ answer :: rest)
    (htool : answer.speaker = .tool) :
    ∃ earlier ask, front = earlier ++ [ask] ∧ ask.AnsweredBy answer := by
  induction h generalizing front with
  | nil => simp at hsplit
  | say _ hspeaker _ ih =>
    cases front with
    | nil =>
      obtain ⟨rfl, -⟩ := List.cons.inj hsplit
      rcases hspeaker with hspeaker | hspeaker <;> cases hspeaker.symm.trans htool
    | cons x front =>
      obtain ⟨earlier, ask, rfl, hanswer⟩ := ih (List.cons.inj hsplit).2
      exact ⟨x :: earlier, ask, rfl, hanswer⟩
  | call hanswer _ ih =>
    cases front with
    | nil =>
      obtain ⟨rfl, -⟩ := List.cons.inj hsplit
      cases hanswer.speaker.symm.trans htool
    | cons x front =>
      obtain ⟨rfl, htail⟩ := List.cons.inj hsplit
      cases front with
      | nil =>
        obtain ⟨rfl, -⟩ := List.cons.inj htail
        exact ⟨[], _, rfl, hanswer⟩
      | cons y front =>
        obtain ⟨earlier, ask, rfl, hanswer⟩ := ih (List.cons.inj htail).2
        exact ⟨_ :: y :: earlier, ask, rfl, hanswer⟩

/-! ### Openings -/

/-- Whether a conversation is instructions, what the user says, and then a dialogue. -/
def Opened (messages : List Message) : Prop :=
  ∃ instructions request rest, messages = .system instructions :: request :: rest ∧
    request.speaker = .user ∧ request.calls = [] ∧ Dialogue rest

/-- What goes on behind an opening is part of the dialogue. -/
theorem Opened.append (h : Opened messages) (hmore : Dialogue more) :
    Opened (messages ++ more) := by
  obtain ⟨instructions, request, rest, rfl, hspeaker, hcalls, hrest⟩ := h
  exact ⟨instructions, request, rest ++ more, rfl, hspeaker, hcalls, hrest.append hmore⟩

/-- An opening with a dialogue behind it is what a model expects. -/
theorem Opened.wellFormed (h : Opened messages) : WellFormed messages := by
  obtain ⟨instructions, request, rest, rfl, hspeaker, hcalls, hrest⟩ := h
  have hdialogue : Dialogue (request :: rest) := .say hcalls (.inl hspeaker) hrest
  refine ⟨⟨_, request, rest, rfl, rfl, hspeaker, hrest.speaker_ne⟩, ?_, ?_⟩
  · intro front ask later hsplit hask
    cases front with
    | nil =>
      obtain ⟨rfl, -⟩ := List.cons.inj hsplit
      exact absurd rfl hask
    | cons _ front => exact hdialogue.answered (List.cons.inj hsplit).2 hask
  · intro front answer later hsplit htool
    cases front with
    | nil =>
      obtain ⟨rfl, -⟩ := List.cons.inj hsplit
      cases htool
    | cons x front =>
      obtain ⟨earlier, ask, rfl, hanswer⟩ := hdialogue.asked (List.cons.inj hsplit).2 htool
      exact ⟨x :: earlier, ask, rfl, hanswer⟩

end Chat

/-! ### What agents show their models -/

namespace Agent

open Chat

theorem dialogue_entries (entries : List Entry) : Dialogue (entries.map Entry.message) := by
  induction entries with
  | nil => exact .nil
  | cons _ _ ih => exact .say rfl (.inl rfl) ih

/-- Instructions, the request and the entries of a context. -/
theorem opened_messages (c : Context) (instructions : String) : Opened (c.messages instructions) :=
  ⟨instructions, _, _, rfl, rfl, rfl, dialogue_entries c.entries⟩

/-- A call and its answer under the id of the call. -/
theorem dialogue_call (call : ToolCall) (content : String) :
    Dialogue [.assistantCall call, .toolResult content call.id] :=
  .call ⟨rfl, rfl, ⟨call, rfl, rfl⟩, rfl⟩ .nil

/-- What the math agent adds for a tool call. -/
theorem dialogue_callMessages (call : ToolCall) (response : ToolResponse) :
    Dialogue (callMessages call response) := dialogue_call call _

/-- What the controller is shown of its tool calls. -/
theorem opened_transcript (c : Context) : Opened (transcript c) :=
  ⟨controllerInstructions, _, _, rfl, rfl, rfl,
    dialogue_flatMap (fun _ => dialogue_call _ _) c.exchanges⟩

/-- What the transcriber shows, wherever the images are from. -/
theorem opened_transcriberMessages {request : String} {source : ImageCache.Source}
    {messages : List Message} (h : transcriberMessages request source = some messages) :
    Opened messages := by
  cases source with
  | currentTurn images =>
    obtain rfl := Option.some.inj h
    exact ⟨transcriberInstructions, _, [], rfl, rfl, rfl, .nil⟩
  | carriedOver images =>
    obtain rfl := Option.some.inj h
    exact ⟨transcriberInstructions, _, _, rfl, rfl, rfl, .say rfl (.inl rfl) .nil⟩
  | missing => cases h

end Agent

end MathAgents
