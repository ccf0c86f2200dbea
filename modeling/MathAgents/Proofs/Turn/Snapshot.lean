import MathAgents.Proofs.Json.Records
import MathAgents.Proofs.Json.Unambiguous
import MathAgents.Proofs.Run.Rounds

namespace MathAgents

/-!
# A snapshot stands for one context

The audit trail refers to a context by the digest of its written form.  If no double has come into
its exchanges, the written form belongs to this context alone, so that two contexts have one
snapshot only where the digest does not tell their written forms apart.

* `Text.encode_injective`, `Digest.hex_injective` — bytes and their digits.
* `Context.toJson_injective` — contexts with the same form in JSON are the same.
* `Context.snapshot_identifies` — what equal texts, bytes, snapshots and audit entries mean.
-/

/-! ### Bytes and digits -/

namespace Text

theorem byteArray_toList_loop (bytes : ByteArray) (i : Nat) (r : List UInt8) :
    ByteArray.toList.loop bytes i r = r.reverse ++ bytes.data.toList.drop i := by
  fun_induction ByteArray.toList.loop bytes i r with
  | case1 i r h ih =>
    have hi : i < bytes.data.toList.length := by simpa using h
    rw [ih, List.drop_eq_getElem_cons hi]
    simp [ByteArray.get!, h]
  | case2 i r h =>
    rw [List.drop_eq_nil_of_le (by simpa using Nat.le_of_not_lt h)]
    simp

/-- Texts with the same bytes are the same. -/
theorem encode_injective : Function.Injective encode := by
  intro s t h
  simp only [encode, ByteArray.toList, byteArray_toList_loop, List.reverse_nil, List.nil_append,
    List.drop_zero] at h
  have hbytes : s.toUTF8 = t.toUTF8 := ByteArray.ext (Array.toList_inj.mp h)
  rw [String.toUTF8_eq_toByteArray, String.toUTF8_eq_toByteArray] at hbytes
  exact String.toByteArray_inj.mp hbytes

end Text

namespace Digest

/-- The digits of a byte denote it. -/
theorem hexNat?_hexByte (b : UInt8) : Text.hexNat? (hexByte b) = some b.toNat := by
  have hdigits : ∀ n < 256, Text.hexNat? (hexByte (UInt8.ofNat n)) = some n := by decide +kernel
  have hb := hdigits b.toNat b.toNat_lt
  rwa [UInt8.ofNat_toNat] at hb

/-- Bytes with the same digits are the same. -/
theorem hex_injective : Function.Injective hex := by
  intro xs ys h
  have hchars : xs.flatMap hexByte = ys.flatMap hexByte := String.ofList_injective h
  clear h
  induction xs generalizing ys with
  | nil =>
    cases ys with
    | nil => rfl
    | cons y ys => cases hchars
  | cons x xs ih =>
    cases ys with
    | nil => cases hchars
    | cons y ys =>
      rw [List.flatMap_cons, List.flatMap_cons] at hchars
      obtain ⟨hbyte, hrest⟩ := List.append_inj hchars rfl
      have hxy : x.toNat = y.toNat := by
        rw [← Option.some_inj, ← hexNat?_hexByte, hbyte, hexNat?_hexByte]
      rw [UInt8.toNat_inj.mp hxy, ih hrest]

end Digest

/-! ### The form of a context -/

/-- Records that are read back have different forms. -/
theorem Json.injective_of_read {α : Type} {toJson : α → Json} {ofJson? : Json → Option α}
    (h : ∀ x, ofJson? (toJson x) = some x) : Function.Injective toJson := by
  intro x y hxy
  rw [← Option.some_inj, ← h x, hxy, h y]

theorem Entry.toJson_injective : Function.Injective Entry.toJson := by
  rintro ⟨author, text⟩ ⟨author', text'⟩ h
  simpa [toJson] using h

theorem Exchange.toJson_injective : Function.Injective Exchange.toJson := by
  rintro ⟨id, request, response⟩ ⟨id', request', response'⟩ h
  simp only [toJson, Json.obj.injEq, List.cons.injEq, Prod.mk.injEq, Json.str.injEq, true_and,
    and_true] at h
  obtain ⟨rfl, hrequest, hresponse⟩ := h
  rw [Json.injective_of_read ToolRequest.ofJson?_toJson hrequest,
    Json.injective_of_read ToolResponse.ofJson?_toJson hresponse]

/-- Several exchanges as a JSON value. -/
def Exchange.listToJson (es : List Exchange) : Json := .arr (es.map Exchange.toJson)

theorem Exchange.listToJson_injective : Function.Injective listToJson := fun _ _ h =>
  List.map_injective_iff.mpr toJson_injective (Json.arr.inj h)

section Optional

variable {α : Type} {name : String} {toJson : List α → Json} {xs ys : List α} {r s : Fields}

/-- The field for a list, which is left out if the list is empty. -/
def optionalField (name : String) (toJson : List α → Json) (xs : List α) : Fields :=
  if xs.isEmpty then [] else [(name, toJson xs)]

theorem of_mem_optionalField {field : String × Json} (h : field ∈ optionalField name toJson xs) :
    field = (name, toJson xs) := by
  cases xs with
  | nil => cases h
  | cons x xs => exact List.mem_singleton.mp h

theorem floatFree_optionalField (h : (toJson xs).FloatFree) :
    ∀ field ∈ optionalField name toJson xs, field.2.FloatFree := by
  intro field hfield
  rw [of_mem_optionalField hfield]
  exact h

/-- A list can be told from its field, if what stands behind it has other names. -/
theorem optionalField_append_inj (hinj : Function.Injective toJson)
    (hr : ∀ field ∈ r, field.1 ≠ name) (hs : ∀ field ∈ s, field.1 ≠ name)
    (h : optionalField name toJson xs ++ r = optionalField name toJson ys ++ s) :
    xs = ys ∧ r = s := by
  cases xs with
  | nil =>
    cases ys with
    | nil => exact ⟨rfl, h⟩
    | cons y ys =>
      obtain rfl : r = (name, toJson (y :: ys)) :: s := h
      exact absurd rfl (hr _ List.mem_cons_self)
  | cons x xs =>
    cases ys with
    | nil =>
      obtain rfl : (name, toJson (x :: xs)) :: r = s := h
      exact absurd rfl (hs _ List.mem_cons_self)
    | cons y ys =>
      obtain ⟨hfield, hrest⟩ := List.cons.inj h
      exact ⟨hinj (Prod.mk.inj hfield).2, hrest⟩

end Optional

namespace Context

theorem toJson_eq (c : Context) :
    c.toJson =
      .obj
        ([("session_id", .str c.sessionId), ("user_id", .str c.userId), ("request", .str c.request),
          ("entries", .arr (c.entries.map Entry.toJson))] ++
          (optionalField "attachments" Attachment.listToJson c.attachments ++
            (optionalField "exchanges" Exchange.listToJson c.exchanges ++ []))) := by
  rw [List.append_nil, ← List.append_assoc]
  rfl

/-- Contexts with the same form are the same. -/
theorem toJson_injective : Function.Injective toJson := by
  intro c d h
  have hnames (c : Context) :
      ∀ field ∈ optionalField "exchanges" Exchange.listToJson c.exchanges ++ [],
        field.1 ≠ "attachments" := by
    intro field hfield
    rw [List.append_nil] at hfield
    rw [of_mem_optionalField hfield]
    exact (by decide : "exchanges" ≠ "attachments")
  simp only [toJson_eq, Json.obj.injEq, List.cons_append, List.nil_append, List.cons.injEq,
    Prod.mk.injEq, Json.str.injEq, Json.arr.injEq, true_and] at h
  obtain ⟨hsession, huser, hrequest, hentries, hoptional⟩ := h
  obtain ⟨hattachments, hexchanges⟩ := optionalField_append_inj
    (Json.injective_of_read Attachment.listOfJson?_listToJson) (hnames c) (hnames d) hoptional
  obtain ⟨hexchanges, -⟩ := optionalField_append_inj Exchange.listToJson_injective
    (List.forall_mem_nil _) (List.forall_mem_nil _) hexchanges
  have hentries : c.entries = d.entries :=
    List.map_injective_iff.mpr Entry.toJson_injective hentries
  cases c
  cases d
  congr

/-- Whether no doubles have come into the exchanges of a context. -/
def FloatFree (c : Context) : Prop :=
  ∀ e ∈ c.exchanges,
    (Json.obj e.request.arguments).FloatFree ∧ e.response.response.FloatFree

theorem floatFree_toJson {c : Context} (hc : c.FloatFree) : c.toJson.FloatFree := by
  have hentry (e : Entry) : e.toJson.FloatFree := by simp [Entry.toJson]
  have hattachment (a : Attachment) : a.toJson.FloatFree := by
    obtain ⟨_ | m, payload⟩ := a <;> simp [Attachment.toJson, Attachment.fields]
  have hexchange : ∀ e ∈ c.exchanges, e.toJson.FloatFree := by
    intro e he
    obtain ⟨harguments, hresponse⟩ := hc e he
    simp [Exchange.toJson, ToolRequest.toJson, ToolResponse.toJson, harguments, hresponse]
  have hattachments : (Attachment.listToJson c.attachments).FloatFree := by
    simpa [Attachment.listToJson] using fun a _ => hattachment a
  have hexchanges : (Exchange.listToJson c.exchanges).FloatFree := by
    simpa [Exchange.listToJson] using hexchange
  rw [toJson_eq, List.append_nil, Json.floatFree_obj]
  refine List.forall_mem_append.mpr ⟨by simp [hentry], List.forall_mem_append.mpr ⟨?_, ?_⟩⟩
  · exact floatFree_optionalField hattachments
  · exact floatFree_optionalField hexchanges

/-- Contexts with the same written form are the same. -/
theorem serialize_inj {c d : Context} (hc : c.FloatFree) (hd : d.FloatFree)
    (h : c.serialize = d.serialize) : c = d :=
  toJson_injective (Json.print_inj (floatFree_toJson hc) (floatFree_toJson hd) h)

/-- Two contexts collide if their written forms differ and the digest does not tell them apart. -/
def Collide (c d : Context) : Prop :=
  Text.encode c.serialize ≠ Text.encode d.serialize ∧
    Digest.blake3 (Text.encode c.serialize) = Digest.blake3 (Text.encode d.serialize)

theorem eq_or_collide {c d : Context} (hc : c.FloatFree) (hd : d.FloatFree)
    (h : c.snapshot = d.snapshot) : c = d ∨ c.Collide d := by
  by_cases hbytes : Text.encode c.serialize = Text.encode d.serialize
  · exact .inl (serialize_inj hc hd (Text.encode_injective hbytes))
  · exact .inr ⟨hbytes, Digest.hex_injective h⟩

/-- What is hashed for a snapshot identifies a context without doubles, and two invocations whose
    entries in an audit trail refer to one snapshot were given the same context, or contexts that
    collide. -/
theorem snapshot_identifies {σ τ : Type} (c d : Context) (hc : c.FloatFree) (hd : d.FloatFree) :
    (c.serialize = d.serialize → c = d) ∧
      (Text.encode c.serialize = Text.encode d.serialize → c = d) ∧
      (c.snapshot = d.snapshot → c = d ∨ c.Collide d) ∧
      ∀ (p q : Progress) (agent : Agent σ) (other : Agent τ) (s : σ) (t : τ),
        ∀ e ∈ (p.invoke agent c s).1.2.audit.getLast?,
        ∀ f ∈ (q.invoke other d t).1.2.audit.getLast?,
          e.snapshot = f.snapshot → c = d ∨ c.Collide d := by
  refine ⟨serialize_inj hc hd, fun h => serialize_inj hc hd (Text.encode_injective h),
    eq_or_collide hc hd, ?_⟩
  intro p q agent other s t e he f hf h
  simp only [Progress.invoke_eq, Progress.recorded, List.getLast?_concat, Option.mem_some] at he hf
  rw [← he, ← hf, AuditTrail.entryOf_snapshot, AuditTrail.entryOf_snapshot] at h
  exact eq_or_collide hc hd h

/-- A request that imitates the end of another request does not lead to the same snapshot, but by a
    collision. -/
theorem snapshot_identifies_imitation :
    let exchange : Exchange := ⟨"c1", ⟨"f", [("x", .int 1)]⟩, ⟨"f", .arr [.null, .str "8.0"]⟩⟩
    let c : Context := { sessionId := "s", userId := "u", request := "a", exchanges := [exchange] }
    let d : Context := { c with request := "a\",\"entries\":[]" }
    (c.FloatFree ∧ d.FloatFree) ∧ (c.snapshot = d.snapshot → c.Collide d) := by
  intro exchange c d
  have hc : c.FloatFree := by
    intro e he
    obtain rfl : e = exchange := List.mem_singleton.mp he
    simp [exchange]
  have hd : d.FloatFree := hc
  have hne : c ≠ d := fun h => absurd (congrArg request h) (by decide)
  refine ⟨⟨hc, hd⟩, fun h => ?_⟩
  exact ((@snapshot_identifies Unit Unit c d hc hd).2.2.1 h).resolve_left hne

end Context

end MathAgents
