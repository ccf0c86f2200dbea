import MathAgents.Chat.Message
import MathAgents.Proofs.Bytes.Base64
import MathAgents.Proofs.Json.View
import MathAgents.Session.Basic
import MathAgents.Tool.Request
import MathAgents.Tool.Response

namespace MathAgents

/-!
# Records are read as they were written

Sessions, turns, messages, replies, tool requests and tool responses have a form in JSON.  Each kind
of record has a view of what its reader looks at; a reader gets the same from values that agree in
this view, and it gets a record back from its form.  So a record is also read from a form to which
fields under unknown names have been added, in the record itself or in a record inside it.

* `ofJson?_congr` in each namespace — a reader looks at nothing but its view.
* `ofJson?_toJson` in each namespace — a record is read from its form.
* `Json.records_read_back` — a record is read from every value that agrees with its form.
-/

open Json (View)

variable {j k : Json}

/-- What is written for every item of a list is read as the list, if every item is read. -/
theorem Json.mapM_map {α : Type} {toJson : α → Json} {ofJson? : Json → Option α}
    (h : ∀ x, ofJson? (toJson x) = some x) (xs : List α) :
    (xs.map toJson).mapM ofJson? = some xs := by
  induction xs with
  | nil => rfl
  | cons x xs ih => simp [List.mapM_cons, h, ih]

/-! ### Attachments and turns -/

namespace Attachment

/-- What the reader of an attachment looks at. -/
def view : View := .fields [("payload", .whole), ("mime_type", .whole)]

theorem ofJson?_congr (h : view.Agree j k) : ofJson? j = ofJson? k := by
  have hpayload : j.getString? "payload" = k.getString? "payload" :=
    h.getString?_eq (by simp)
  have hmediaType : j.get? "mime_type" = k.get? "mime_type" := h.get?_eq (by simp)
  rw [ofJson?, hpayload, hmediaType, ofJson?]

/-- The fields of an attachment stand in order. -/
theorem canonical_toJson (a : Attachment) : a.toJson.canonical = a.toJson := by
  obtain ⟨mediaType, payload⟩ := a
  cases mediaType with
  | none => rfl
  | some m => rfl

/-- An attachment is read as it was written. -/
theorem ofJson?_toJson (a : Attachment) : ofJson? a.toJson = some a := by
  obtain ⟨mediaType, payload⟩ := a
  have hdecode := Base64.decode?_encode payload
  cases mediaType with
  | none => simp [ofJson?, toJson, fields, Json.getString?, Json.get?, Fields.get?, Json.asString?,
      hdecode]
  | some m => simp [ofJson?, toJson, fields, Json.getString?, Json.get?, Fields.get?,
      Json.asString?, hdecode]

theorem canonical_listToJson (as : List Attachment) :
    (listToJson as).canonical = listToJson as := by
  have hitems : Json.canonicalItems (as.map toJson) = as.map toJson := by
    induction as with
    | nil => rfl
    | cons a as ih => rw [List.map_cons, Json.canonicalItems, canonical_toJson, ih]
  rw [listToJson, Json.canonical, hitems]

/-- Attachments are read as they were written, in order. -/
theorem listOfJson?_listToJson (as : List Attachment) : listOfJson? (listToJson as) = some as :=
  Json.mapM_map ofJson?_toJson as

end Attachment

namespace Part

/-- What the reader of a part looks at: its type, and what parts of this type have. -/
def view : View :=
  .tagged "type" fun
    | some "text" => .fields [("text", .whole)]
    | some "attachment" => Attachment.view
    | _ => .fields []

theorem ofJson?_congr (h : view.Agree j k) : ofJson? j = ofJson? k := by
  obtain ⟨htype, h⟩ := h
  unfold ofJson?
  rw [← htype]
  split
  · next hj =>
    rw [hj] at h
    rw [View.Agree.getString?_eq h (by simp)]
  · next hj =>
    rw [hj] at h
    rw [Attachment.ofJson?_congr h]
  · rfl

theorem ofJson?_toJson (p : Part) : ofJson? p.toJson = some p := by
  cases p with
  | text t => rfl
  | attachment a =>
    have hfields : ofJson? (attachment a).toJson =
        (Attachment.ofJson? (attachment a).toJson).map attachment := rfl
    have hagree : Attachment.view.Agree a.toJson (attachment a).toJson :=
      View.agree_of_grown (.added (by decide) (.refl _ _))
    rw [hfields, ← Attachment.ofJson?_congr hagree, Attachment.ofJson?_toJson, Option.map_some]

end Part

namespace Turn

/-- What the reader of a turn looks at. -/
def view : View := .fields [("author", .whole), ("parts", .each Part.view)]

theorem ofJson?_congr (h : view.Agree j k) : ofJson? j = ofJson? k := by
  have hauthor : j.getString? "author" = k.getString? "author" := h.getString?_eq (by simp)
  have hparts := h.list_eq "parts" (by simp) Part.ofJson?_congr
  simp only [ofJson?, Option.bind_eq_bind, ← Option.bind_assoc, hauthor, hparts]

theorem ofJson?_toJson (t : Turn) : ofJson? t.toJson = some t := by
  have hparts := Json.mapM_map Part.ofJson?_toJson t.parts
  simp [ofJson?, toJson, Json.getString?, Json.get?, Fields.get?, Json.asString?, Json.asArray?,
    hparts]

end Turn

namespace Session

/-- What the reader of a session looks at. -/
def view : View := .fields [("id", .whole), ("user_id", .whole), ("turns", .each Turn.view)]

theorem ofJson?_congr (h : view.Agree j k) : ofJson? j = ofJson? k := by
  have hid : j.getString? "id" = k.getString? "id" := h.getString?_eq (by simp)
  have huser : j.getString? "user_id" = k.getString? "user_id" := h.getString?_eq (by simp)
  have hturns := h.list_eq "turns" (by simp) Turn.ofJson?_congr
  simp only [ofJson?, Option.bind_eq_bind, ← Option.bind_assoc, hid, huser, hturns]

theorem ofJson?_toJson (s : Session) : ofJson? s.toJson = some s := by
  have hturns := Json.mapM_map Turn.ofJson?_toJson s.turns
  simp [ofJson?, toJson, Json.getString?, Json.get?, Fields.get?, Json.asString?, Json.asArray?,
    hturns]

end Session

/-! ### Messages and replies -/

namespace Chat

namespace ToolCall

/-- What the reader of a tool call looks at. -/
def view : View := .fields [("id", .whole), ("name", .whole), ("arguments", .whole)]

theorem ofJson?_congr (h : view.Agree j k) : ofJson? j = ofJson? k := by
  have hid : j.getString? "id" = k.getString? "id" := h.getString?_eq (by simp)
  have hname : j.getString? "name" = k.getString? "name" := h.getString?_eq (by simp)
  have harguments : j.getString? "arguments" = k.getString? "arguments" :=
    h.getString?_eq (by simp)
  rw [ofJson?, hid, hname, harguments, ofJson?]

theorem ofJson?_toJson (c : ToolCall) : ofJson? c.toJson = some c := rfl

end ToolCall

theorem Speaker.ofJson?_name (s : Speaker) : ofJson? (.str s.name) = some s := by
  cases s <;> decide

namespace Message

/-- What the reader of a message looks at. -/
def view : View :=
  .fields
    [("role", .whole), ("content", .whole), ("tool_call_id", .whole),
     ("tool_calls", .each ToolCall.view), ("attachments", .each Attachment.view)]

/-- The id of the call that a message answers; null is none. -/
def answers? (j : Json) : Option (Option String) :=
  match j.get? "tool_call_id" with
  | none | some .null => some none
  | some (.str id) => some (some id)
  | some _ => none

/-- The calls of a message, which may be left out. -/
def calls? (j : Json) : Option (List ToolCall) :=
  (j.get? "tool_calls").elim (some []) fun v => v.asArray?.bind (List.mapM ToolCall.ofJson?)

/-- The attachments of a message, which may be left out. -/
def attachments? (j : Json) : Option (List Attachment) :=
  (j.get? "attachments").elim (some []) Attachment.listOfJson?

/-- A message is read part by part. -/
theorem ofJson?_eq (j : Json) :
    ofJson? j = do
      let speaker ← (j.get? "role").bind Speaker.ofJson?
      let content ← j.getString? "content"
      let answers ← answers? j
      let calls ← calls? j
      let attachments ← attachments? j
      return { speaker, content, answers, calls, attachments } := by
  unfold ofJson? answers? calls? attachments?
  generalize j.get? "tool_call_id" = id
  cases j.get? "tool_calls" <;> cases j.get? "attachments" <;>
    rcases id with _ | (_ | _ | _ | _ | id | _ | _) <;> simp [Option.bind_assoc]

theorem ofJson?_congr (h : view.Agree j k) : ofJson? j = ofJson? k := by
  have hrole : j.get? "role" = k.get? "role" := h.get?_eq (by simp)
  have hcontent : j.getString? "content" = k.getString? "content" := h.getString?_eq (by simp)
  have hanswers : answers? j = answers? k := by
    rw [answers?, h.get?_eq (by simp), answers?]
  have hcalls : calls? j = calls? k :=
    h.optional_eq "tool_calls" (by simp) ToolCall.ofJson?_congr _
  have hattachments : attachments? j = attachments? k :=
    h.optional_eq "attachments" (by simp) Attachment.ofJson?_congr _
  rw [ofJson?_eq, hrole, hcontent, hanswers, hcalls, hattachments, ofJson?_eq]

theorem ofJson?_toJson (m : Message) : ofJson? m.toJson = some m := by
  obtain ⟨speaker, content, answers, calls, attachments⟩ := m
  have hcalls := Json.mapM_map ToolCall.ofJson?_toJson calls
  have hattachments := Attachment.listOfJson?_listToJson attachments
  rw [ofJson?_eq]
  cases answers <;> cases calls <;> cases attachments <;>
    simp_all [toJson, answers?, calls?, attachments?, Json.getString?, Json.get?, Fields.get?,
      Json.asString?, Json.asArray?, Speaker.ofJson?_name]

end Message

namespace Reply

/-- What the reader of a reply looks at: its type, and what replies of this type have. -/
def view : View :=
  .tagged "type" fun
    | some "tool_call" => ToolCall.view
    | some "final_answer" => .fields [("content", .whole)]
    | _ => .fields []

theorem ofJson?_congr (h : view.Agree j k) : ofJson? j = ofJson? k := by
  obtain ⟨htype, h⟩ := h
  unfold ofJson?
  rw [← htype]
  split
  · next hj =>
    rw [hj] at h
    rw [ToolCall.ofJson?_congr h]
  · next hj =>
    rw [hj] at h
    rw [View.Agree.getString?_eq h (by simp)]
  · rfl

theorem ofJson?_toJson (r : Reply) : ofJson? r.toJson = some r := by
  cases r <;> rfl

end Reply

end Chat

/-! ### Tool requests and responses -/

namespace ToolRequest

/-- What the reader of a tool request looks at. -/
def view : View := .fields [("name", .whole), ("arguments", .whole)]

theorem ofJson?_congr (h : view.Agree j k) : ofJson? j = ofJson? k := by
  have hname : j.getString? "name" = k.getString? "name" := h.getString?_eq (by simp)
  have harguments : j.get? "arguments" = k.get? "arguments" := h.get?_eq (by simp)
  rw [ofJson?, hname, harguments, ofJson?]

theorem ofJson?_toJson (r : ToolRequest) : ofJson? r.toJson = some r := rfl

end ToolRequest

namespace ToolResponse

/-- What the reader of a tool response looks at. -/
def view : View := .fields [("name", .whole), ("response", .whole)]

theorem ofJson?_congr (h : view.Agree j k) : ofJson? j = ofJson? k := by
  have hname : j.getString? "name" = k.getString? "name" := h.getString?_eq (by simp)
  have hresponse : j.get? "response" = k.get? "response" := h.get?_eq (by simp)
  rw [ofJson?, hname, hresponse, ofJson?]

theorem ofJson?_toJson (r : ToolResponse) : ofJson? r.toJson = some r := rfl

end ToolResponse

/-! ### Reading back -/

namespace Json

/-- Whether records of a kind are read from their form, and from all values that look the same to
    the reader. -/
def ReadsBack {α : Type} (view : View) (toJson : α → Json) (ofJson? : Json → Option α) : Prop :=
  ∀ x, ofJson? (toJson x) = some x ∧ ∀ j, view.Agree (toJson x) j → ofJson? j = some x

theorem ReadsBack.intro {α : Type} {view : View} {toJson : α → Json} {ofJson? : Json → Option α}
    (hcongr : ∀ {j k}, view.Agree j k → ofJson? j = ofJson? k)
    (hread : ∀ x, ofJson? (toJson x) = some x) : ReadsBack view toJson ofJson? := by
  intro x
  refine ⟨hread x, fun j hj => ?_⟩
  rw [← hcongr hj, hread x]

/-- Records of every kind are read back as they were written, also when fields under unknown names
    have been added to them or to the records in them. -/
theorem records_read_back :
    ReadsBack Session.view Session.toJson Session.ofJson? ∧
      ReadsBack Turn.view Turn.toJson Turn.ofJson? ∧
      ReadsBack Chat.Message.view Chat.Message.toJson Chat.Message.ofJson? ∧
      ReadsBack Chat.Reply.view Chat.Reply.toJson Chat.Reply.ofJson? ∧
      ReadsBack ToolRequest.view ToolRequest.toJson ToolRequest.ofJson? ∧
      ReadsBack ToolResponse.view ToolResponse.toJson ToolResponse.ofJson? :=
  ⟨.intro Session.ofJson?_congr Session.ofJson?_toJson,
    .intro Turn.ofJson?_congr Turn.ofJson?_toJson,
    .intro Chat.Message.ofJson?_congr Chat.Message.ofJson?_toJson,
    .intro Chat.Reply.ofJson?_congr Chat.Reply.ofJson?_toJson,
    .intro ToolRequest.ofJson?_congr ToolRequest.ofJson?_toJson,
    .intro ToolResponse.ofJson?_congr ToolResponse.ofJson?_toJson⟩

/-- A session is read with more fields in it, in its turn and in the part of this turn. -/
theorem records_read_back_grown :
    let session : Session :=
      { id := "s", userId := "u", turns := [{ author := "user", parts := [.text "hello"] }] }
    let part : Json := .obj [("type", .str "text"), ("language", .null), ("text", .str "hello")]
    let turn : Json := .obj [("at", .int 7), ("author", .str "user"), ("parts", .arr [part])]
    let grown : Json :=
      .obj [("id", .str "s"), ("user_id", .str "u"), ("turns", .arr [turn]), ("version", .int 2)]
    Session.view.Agree session.toJson grown ∧ Session.ofJson? grown = some session := by
  intro session part turn grown
  have hpart : Part.view.Agree (Part.text "hello").toJson part :=
    ⟨rfl, View.agree_of_grown (.same _ (.added (by decide) (.refl _ _)))⟩
  have hturn : Turn.view.Agree (Turn.toJson { author := "user", parts := [.text "hello"] }) turn :=
    View.agree_of_grown
      (.added (by decide) (.same _
        (.inside (.each Part.view) (by simp) (.some (.cons hpart .nil)) .nil)))
  have hgrown : Session.view.Agree session.toJson grown :=
    View.agree_of_grown (.same _ (.same _
      (.inside (.each Turn.view) (by simp) (.some (.cons hturn .nil)) (.added (by decide) .nil))))
  exact ⟨hgrown, (records_read_back.1 session).2 grown hgrown⟩

end Json

end MathAgents
