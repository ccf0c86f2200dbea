import MathAgents.Endpoint.Basic
import MathAgents.Proofs.Json.View

namespace MathAgents.Endpoint

/-!
# Replies are read as messages are written

A message of the assistant that stands as the first choice in the body of a response, in the form in
which it would be sent, is read as what it says: the first of its calls, or else its text, or the
call that this text spells out.  Nothing that stands beside it makes a difference, be it choices or
calls behind the first, or fields under names that the reader does not know.

* `replyOfBody_congr` — the reader of a body looks at nothing but `bodyView`.
* `replyOfMessage_messageToWire` — a message of the assistant is read as what it says.
* `written_message_read` — so is a body with such a message in its first choice.
-/

open Chat (ToolCall Message Reply)
open Json (View)

variable {j k body : Json} {freshId : String}

/-! ### What the reader looks at -/

/-- What the reader of a tool call looks at in its function. -/
def functionView : View := .fields [("name", .whole), ("arguments", .whole)]

/-- What the reader of a tool call looks at. -/
def callView : View := .fields [("id", .whole), ("function", functionView)]

/-- What the reader of a message looks at. -/
def messageView : View := .fields [("tool_calls", .first callView), ("content", .whole)]

/-- What the reader of a choice looks at. -/
def choiceView : View := .fields [("message", messageView)]

/-- What the reader of a body looks at. -/
def bodyView : View := .fields [("choices", .first choiceView)]

/-- Where both have a first item, these agree. -/
theorem firstOf?_rel {views : List (String × View)} {view : View} {name : String}
    (h : (View.fields views).Agree j k) (hname : (name, .first view) ∈ views) :
    (firstOf? name j = none ∧ firstOf? name k = none) ∨
      ∃ a b, firstOf? name j = some a ∧ firstOf? name k = some b ∧ view.Agree a b := by
  unfold firstOf?
  rcases h.lookup hname with ⟨hj, hk⟩ | ⟨a, b, hj, hk, hab⟩
  · left
    rw [hj, hk]
    exact ⟨rfl, rfl⟩
  · rw [View.Agree] at hab
    rw [hj, hk]
    exact View.of_rel hab

theorem callOfWire_congr (h : callView.Agree j k) : callOfWire j = callOfWire k := by
  have hid : j.getString? "id" = k.getString? "id" := h.getString?_eq (by simp)
  unfold callOfWire
  rcases h.lookup (.tail _ (.head _)) with ⟨hj, hk⟩ | ⟨a, b, hj, hk, hab⟩
  · rw [hid, hj, hk]
  · have hname : a.getString? "name" = b.getString? "name" :=
      View.Agree.getString?_eq hab (by simp)
    have harguments : a.getString? "arguments" = b.getString? "arguments" :=
      View.Agree.getString?_eq hab (by simp)
    simp only [hid, hj, hk, hname, harguments]

theorem replyOfMessage_congr (h : messageView.Agree j k) :
    replyOfMessage freshId j = replyOfMessage freshId k := by
  have hcontent : j.getString? "content" = k.getString? "content" := h.getString?_eq (by simp)
  unfold replyOfMessage
  rcases firstOf?_rel h (.head _) with ⟨hj, hk⟩ | ⟨a, b, hj, hk, hab⟩
  · rw [hj, hk, hcontent]
  · rw [hj, hk]
    exact congrArg (Except.map Reply.toolCall) (callOfWire_congr hab)

theorem replyOfBody_congr (h : bodyView.Agree j k) :
    replyOfBody freshId j = replyOfBody freshId k := by
  unfold replyOfBody
  rcases firstOf?_rel h (.head _) with ⟨hj, hk⟩ | ⟨a, b, hj, hk, hab⟩
  · rw [hj, hk]
  · rw [hj, hk, Option.bind_some, Option.bind_some]
    rcases hab.lookup (.head _) with ⟨ha, hb⟩ | ⟨c, d, ha, hb, hcd⟩
    · rw [ha, hb]
    · rw [ha, hb]
      exact replyOfMessage_congr hcd

/-! ### Messages as they are written -/

/-- A call is read as it was written. -/
theorem callOfWire_callToWire (c : ToolCall) : callOfWire (callToWire c) = .ok c := rfl

/-- What a message of the assistant says to a reader. -/
def replyOf (freshId : String) (m : Message) : Reply :=
  match m.calls with
  | call :: _ => .toolCall call
  | [] =>
    match ToolCall.inText? freshId m.content with
    | some call => .toolCall call
    | none => .answer m.content

theorem replyOfMessage_messageToWire {m : Message} (hspeaker : m.speaker = .assistant)
    (hplain : m.calls = [] → m.attachments = []) :
    replyOfMessage freshId (messageToWire m) = .ok (replyOf freshId m) := by
  obtain ⟨speaker, content, answers, calls, attachments⟩ := m
  obtain rfl : speaker = .assistant := hspeaker
  cases calls with
  | cons call more => exact congrArg (Except.map Reply.toolCall) (callOfWire_callToWire call)
  | nil =>
    obtain rfl : attachments = [] := hplain rfl
    have hcalls : firstOf? "tool_calls" (messageToWire ⟨.assistant, content, answers, [], []⟩) =
        none := rfl
    have hcontent : (messageToWire ⟨.assistant, content, answers, [], []⟩).getString? "content" =
        some content := rfl
    simp only [replyOfMessage, hcalls, hcontent, replyOf]
    cases ToolCall.inText? freshId content <;> rfl

/-- The body of a response whose first choice is a message. -/
def bodyWith (m : Message) (choices : List Json) : Json :=
  .obj [("choices", .arr (.obj [("message", messageToWire m)] :: choices))]

theorem replyOfBody_bodyWith (freshId : String) (m : Message) (choices : List Json) :
    replyOfBody freshId (bodyWith m choices) = replyOfMessage freshId (messageToWire m) := rfl

/-- **Replies.** A message of the assistant in the first choice of a body is read as what it says,
    whatever stands beside it, and so is every response that succeeds with such a body. -/
theorem written_message_read (freshId : String) (m : Message) (hspeaker : m.speaker = .assistant)
    (hplain : m.calls = [] → m.attachments = []) (choices : List Json) (body : Json)
    (hbody : bodyView.Agree (bodyWith m choices) body) :
    replyOfBody freshId body = .ok (replyOf freshId m) ∧
      ∀ r : HttpResponse, r.isSuccess → bodyOf r = .ok body →
        reply freshId r = .ok (replyOf freshId m) := by
  have hread : replyOfBody freshId body = .ok (replyOf freshId m) := by
    rw [← replyOfBody_congr hbody, replyOfBody_bodyWith]
    exact replyOfMessage_messageToWire hspeaker hplain
  refine ⟨hread, fun r hsuccess hr => ?_⟩
  simp only [reply, if_pos hsuccess, hr, Except.bind, hread, Except.mapError]

/-- A body with two calls, and with fields that the reader does not know in all its parts. -/
theorem written_message_read_call :
    let call : ToolCall := ⟨"c1", "f", "1"⟩
    let m : Message := { speaker := .assistant, content := "", calls := [call, ⟨"c2", "g", "2"⟩] }
    let function : Json :=
      .obj [("arguments", .str "1"), ("name", .str "f"), ("strict", .bool true)]
    let written : Json :=
      .obj [("function", function), ("id", .str "c1"), ("index", .int 0), ("type", .str "function")]
    let message : Json :=
      .obj
        [("content", .null), ("refusal", .null), ("role", .str "assistant"),
         ("tool_calls", .arr [written])]
    let body : Json :=
      .obj [("choices", .arr [.obj [("index", .int 0), ("message", message)]]), ("id", .str "r1")]
    bodyView.Agree (bodyWith m [.null]) body ∧ replyOfBody "new" body = .ok (.toolCall call) := by
  intro call m function written message body
  have hfunction : functionView.Agree
      (.obj [("arguments", .str "1"), ("name", .str "f")]) function :=
    View.agree_of_grown (.same _ (.same _ (.added (by decide) .nil)))
  have hwritten : callView.Agree (callToWire call) written :=
    View.agree_of_grown
      (.inside functionView (by simp) hfunction (.same _ (.added (by decide) (.same _ .nil))))
  have hmessage : messageView.Agree (messageToWire m) message :=
    View.agree_of_grown
      (.same _ (.added (by decide)
        (.same _ (.inside (.first callView) (by simp) (.some hwritten) .nil))))
  have hchoice : choiceView.Agree (.obj [("message", messageToWire m)])
      (.obj [("index", .int 0), ("message", message)]) :=
    View.agree_of_grown (.added (by decide) (.inside messageView (by simp) hmessage .nil))
  have hbody : bodyView.Agree (bodyWith m [.null]) body :=
    View.agree_of_grown
      (.inside (.first choiceView) (by simp) (.some hchoice) (.added (by decide) .nil))
  exact ⟨hbody, (written_message_read "new" m rfl (fun h => by cases h) [.null] body hbody).1⟩

example : (reply "new"
    { status := 200
      body := "\x7b\"id\":7,\"choices\":[\x7b\"message\":\x7b\"content\":\"8.0\"\x7d\x7d]\x7d".toUTF8.toList
    }).toOption = some (.answer "8.0") := by decide +kernel

end MathAgents.Endpoint
