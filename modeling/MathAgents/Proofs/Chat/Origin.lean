import Mathlib.Data.List.Infix
import MathAgents.Proofs.Chat.Braces
import MathAgents.Proofs.Json.Canonical

namespace MathAgents.Chat

/-!
# Where tool calls come from

A tool call that is found in a text is not made up.  There is an object in the text that says which
function is called and with what, and where more than one object might be meant, the whole text
comes before the first fenced block and the block before the middle of a sentence.

* `Denotes`, `ToolCall.ofObject?_eq_some_iff` — the objects that are read as a call.
* `FirstBlock`, `fenced?_eq_some_iff` — the body of the first fenced block.
* `ToolCall.inText?_origin` — every call comes from a piece of the text.
-/

open Json (Braced)
open Text (trimLeft trimRight trimChars Trimmed)

variable {cs piece body : List Char} {id content name arguments : String} {call : ToolCall}

/-! ### Objects that are read as a call -/

/-- Whether a piece of a text is an object, from brace to brace, that denotes a call: the last
    field `function` is the name, and the last field `arguments` is written as the arguments. -/
structure Denotes (piece : List Char) (name arguments : String) : Prop where
  first : piece.head? = some '{'
  last : piece.getLast? = some '}'
  object : ∃ fields : Fields, Json.read Json.maxNesting piece = .ok (.obj fields) ∧
    fields.last? "function" = some (.str name) ∧
    (fields.last? "arguments").map (fun value => value.canonical.print) = some arguments

theorem Denotes.trimmed (h : Denotes piece name arguments) : Trimmed piece :=
  trimmed_of_ends h.first h.last

/-- A text without blanks around it is read as a call exactly if it is an object that denotes the
    call. -/
theorem ToolCall.ofObject?_eq_some_iff (hcs : Trimmed cs) :
    ToolCall.ofObject? id cs = some call ↔ call.id = id ∧ Denotes cs call.name call.arguments := by
  constructor
  · intro h
    obtain ⟨j, hj, h⟩ := Option.bind_eq_some_iff.mp h
    obtain ⟨name, hname, h⟩ := Option.bind_eq_some_iff.mp h
    obtain ⟨arguments, harguments, h⟩ := Option.bind_eq_some_iff.mp h
    obtain rfl := Option.some.inj h
    have hparse : Json.parse (String.ofList cs) = .ok j := toOption_eq_some_iff.mp hj
    obtain ⟨raw, hread, rfl⟩ := map_eq_ok_iff.mp hparse
    rw [String.toList_ofList] at hread
    -- only an object has fields to look up
    cases raw with
    | obj fields =>
      obtain ⟨hfirst, hlast⟩ := ends_of_braced (Json.braced_of_read hcs hread)
      refine ⟨rfl, hfirst, hlast, fields, hread, Json.getString?_canonical.mp hname, ?_⟩
      rw [Json.get?_canonical] at harguments
      obtain ⟨value, hvalue, rfl⟩ := Option.map_eq_some_iff.mp harguments
      rw [hvalue, Option.map_some]
    | null | bool | int | float | str | arr => cases harguments
  · rintro ⟨rfl, hdenotes⟩
    obtain ⟨fields, hread, hname, harguments⟩ := hdenotes.object
    obtain ⟨value, hvalue, hprint⟩ := Option.map_eq_some_iff.mp harguments
    have hparse : Json.parse (String.ofList cs) = .ok (Json.canonical (.obj fields)) := by
      rw [Json.parse, String.toList_ofList, hread]
      rfl
    have hfunction := Json.getString?_canonical.mpr hname
    simp [ToolCall.ofObject?, hparse, hfunction, Json.get?_canonical, hvalue, hprint,
      Except.toOption]

theorem Denotes.ofObject? (h : Denotes piece name arguments) (id : String) :
    ToolCall.ofObject? id piece = some ⟨id, name, arguments⟩ :=
  (ToolCall.ofObject?_eq_some_iff h.trimmed).mpr ⟨rfl, h⟩

theorem SpellsCall.denotes {arguments : Json} (h : SpellsCall piece name arguments) :
    Denotes piece name arguments.print :=
  ((ToolCall.ofObject?_eq_some_iff h.ends).mp (h.ofObject? "")).2

/-! ### The first fenced block -/

/-- Whether a text is the body of the first fenced block of another one: the fence that opens the
    block is the first one, the body starts on the next line, and the next fence ends it. -/
def FirstBlock (cs body : List Char) : Prop :=
  ∃ pre tag post, cs = pre ++ fence ++ tag ++ ['\n'] ++ body ++ fence ++ post ∧
    ¬ fence <:+: pre ++ fence.dropLast ∧ '\n' ∉ tag ∧ ¬ fence <:+: body ++ fence.dropLast

/-- The body that is found is that of the first fenced block, unless the block is empty. -/
theorem fenced?_eq_some_iff : fenced? cs = some body ↔ FirstBlock cs body ∧ body ≠ [] := by
  have hline (tag : List Char) : ¬ ['\n'] <:+: tag ++ ['\n'].dropLast ↔ '\n' ∉ tag := by
    simp [List.singleton_infix_iff]
  have hfence : fence ≠ [] := by decide
  unfold fenced? FirstBlock
  simp only [Option.bind_eq_bind, Option.bind_eq_some_iff, Prod.exists,
    Text.cut?_eq_some_iff hfence, Text.cut?_eq_some_iff (List.cons_ne_nil '\n' []), hline]
  constructor
  · rintro ⟨pre, opened, ⟨rfl, hpre⟩, tag, behind, ⟨rfl, htag⟩, inner, post, ⟨rfl, hinner⟩, h⟩
    split at h
    · cases h
    · next hne =>
      obtain rfl := Option.some.inj h
      refine ⟨⟨pre, tag, post, by simp, hpre, htag, hinner⟩, ?_⟩
      simpa using hne
  · rintro ⟨⟨pre, tag, post, rfl, hpre, htag, hbody⟩, hne⟩
    have hopened : pre ++ fence ++ tag ++ ['\n'] ++ body ++ fence ++ post =
        pre ++ fence ++ (tag ++ ['\n'] ++ (body ++ fence ++ post)) := by simp
    refine ⟨pre, _, ⟨hopened, hpre⟩, tag, _, ⟨rfl, htag⟩, body, post, ⟨rfl, hbody⟩, ?_⟩
    rw [if_neg (by simpa using hne)]

/-- The first block stays where it is when the blanks around the text go. -/
theorem FirstBlock.trimChars (h : FirstBlock cs body) : FirstBlock (trimChars cs) body := by
  obtain ⟨pre, tag, post, rfl, hpre, htag, hbody⟩ := h
  -- fences are not blank, so only what stands before the first and behind the last one is trimmed
  refine ⟨trimLeft pre, tag, trimRight post, ?_, ?_, htag, hbody⟩
  · have hpieces : pre ++ fence ++ tag ++ ['\n'] ++ body ++ fence ++ post =
        pre ++ (fence ++ (tag ++ ['\n'] ++ body) ++ fence) ++ post := by simp
    rw [hpieces, Text.trimChars_append (trimmed_fenced _) (by simp [fence])]
    simp
  · intro hwithin
    apply hpre
    obtain ⟨blanks, hblanks⟩ := Text.trimLeft_isSuffix pre
    have hsuffix : trimLeft pre ++ fence.dropLast <:+ pre ++ fence.dropLast :=
      ⟨blanks, by rw [← List.append_assoc, hblanks]⟩
    exact hwithin.trans hsuffix.isInfix

theorem FirstBlock.isInfix (h : FirstBlock cs body) : body <:+: cs := by
  obtain ⟨pre, tag, post, rfl, -, -, -⟩ := h
  exact ⟨pre ++ fence ++ tag ++ ['\n'], fence ++ post, by simp⟩

/-! ### Pieces of the text -/

/-- What is found in the middle of a text is a piece of it, from brace to brace. -/
theorem of_embedded? (h : embedded? cs = some piece) : piece <:+: cs ∧ Braced piece := by
  obtain ⟨⟨before, behind⟩, hcut, hfound⟩ := Option.bind_eq_some_iff.mp h
  obtain ⟨hfront, hbraced⟩ := balanced?_eq_some_iff.mp hfound
  refine ⟨hfront.isInfix.trans ?_, hbraced⟩
  rw [← Text.append_of_cut? hcut, List.append_assoc]
  exact (List.suffix_append before _).isInfix

/-- A call is read from one of three pieces: the whole text, the body of the first fenced block, or
    what is found in the middle of the text. -/
theorem ToolCall.exists_piece (h : ToolCall.inText? id content = some call) :
    ∃ piece, piece <:+: content.toList ∧ Trimmed piece ∧
      ToolCall.ofObject? id piece = some call := by
  have hwhole : trimChars content.toList <:+: content.toList := Text.trimChars_isInfix _
  -- one case for each of the places, which are looked at in this order
  simp only [ToolCall.inText?] at h
  rcases Option.or_eq_some_iff.mp h with halone | ⟨-, h⟩
  · exact ⟨_, hwhole, Text.trimmed_trimChars _, halone⟩
  rcases Option.or_eq_some_iff.mp h with hfenced | ⟨-, hembedded⟩
  · obtain ⟨body, hbody, hcall⟩ := Option.bind_eq_some_iff.mp hfenced
    have hblock : FirstBlock (trimChars content.toList) body := (fenced?_eq_some_iff.mp hbody).1
    have hinner : trimChars body <:+: body := Text.trimChars_isInfix body
    exact ⟨_, (hinner.trans hblock.isInfix).trans hwhole, Text.trimmed_trimChars body, hcall⟩
  · obtain ⟨piece, hpiece, hcall⟩ := Option.bind_eq_some_iff.mp hembedded
    obtain ⟨hwithin, hbraced⟩ := of_embedded? hpiece
    obtain ⟨hfirst, hlast⟩ := ends_of_braced hbraced
    exact ⟨piece, hwithin.trans hwhole, trimmed_of_ends hfirst hlast, hcall⟩

/-- **Origin.** A call that is found has the id that was asked for, and some piece of the text is an
    object that denotes it.
    If the whole text is such an object, but for the blanks around it, the call is read from it; and
    if it is none, but the body of the first fenced block is, the call is read from the body. -/
theorem ToolCall.inText?_origin (id content : String) :
    (∀ call, ToolCall.inText? id content = some call → call.id = id ∧
      ∃ piece, piece <:+: content.toList ∧ Denotes piece call.name call.arguments) ∧
    (∀ name arguments, Denotes (trimChars content.toList) name arguments →
      ToolCall.inText? id content = some ⟨id, name, arguments⟩) ∧
    (∀ body name arguments, FirstBlock content.toList body →
      (¬ ∃ name arguments, Denotes (trimChars content.toList) name arguments) →
      Denotes (trimChars body) name arguments →
      ToolCall.inText? id content = some ⟨id, name, arguments⟩) := by
  refine ⟨?_, ?_, ?_⟩
  · intro call h
    obtain ⟨piece, hpiece, htrimmed, hcall⟩ := ToolCall.exists_piece h
    obtain ⟨hid, hdenotes⟩ := (ToolCall.ofObject?_eq_some_iff htrimmed).mp hcall
    exact ⟨hid, piece, hpiece, hdenotes⟩
  · intro name arguments h
    rw [ToolCall.inText?, h.ofObject?, Option.some_or]
  · intro body name arguments hblock hwhole h
    have hnone : ToolCall.ofObject? id (trimChars content.toList) = none := by
      refine Option.eq_none_iff_forall_ne_some.mpr fun call hcall => hwhole ?_
      have htrimmed : Trimmed (trimChars content.toList) := Text.trimmed_trimChars _
      exact ⟨_, _, ((ToolCall.ofObject?_eq_some_iff htrimmed).mp hcall).2⟩
    have hne : body ≠ [] := by
      rintro rfl
      cases h.first
    have hbody : fenced? (trimChars content.toList) = some body :=
      fenced?_eq_some_iff.mpr ⟨hblock.trimChars, hne⟩
    rw [ToolCall.inText?, hnone, hbody, Option.none_or, Option.bind_some, h.ofObject?,
      Option.some_or]

/-- A call in a fenced block comes from the block. -/
theorem ToolCall.inText?_origin_writtenCall :
    let content := "```json\n" ++ writtenCall ++ "\n```"
    let call : ToolCall := ⟨"id", "f", (Json.str "1").print⟩
    Denotes writtenCall.toList "f" (Json.str "1").print ∧
      ToolCall.inText? "id" writtenCall = some call ∧
      ToolCall.inText? "id" content = some call ∧
      ∃ piece, piece <:+: content.toList ∧ Denotes piece "f" (Json.str "1").print := by
  intro content call
  have hdenotes : Denotes writtenCall.toList "f" (Json.str "1").print :=
    spellsCall_writtenCall.denotes
  have hwhole : Denotes (trimChars writtenCall.toList) "f" (Json.str "1").print := by
    rwa [spellsCall_writtenCall.trimmed]
  have hblock : FirstBlock content.toList (writtenCall.toList ++ ['\n']) :=
    ⟨[], "json".toList, [], by simp [content, fence], by decide, by decide, by decide +kernel⟩
  have hbody : trimChars (writtenCall.toList ++ ['\n']) = writtenCall.toList := by
    show trimChars ([] ++ writtenCall.toList ++ ['\n']) = writtenCall.toList
    exact Text.trimChars_blanks spellsCall_writtenCall.ends spellsCall_writtenCall.ne_nil rfl
      (by decide)
  have hnone : ¬ ∃ name arguments, Denotes (trimChars content.toList) name arguments := by
    rintro ⟨name, arguments, h⟩
    have hfirst : (trimChars content.toList).head? = some '`' := by decide +kernel
    cases hfirst.symm.trans h.first
  have hfound : ToolCall.inText? "id" content = some call :=
    (ToolCall.inText?_origin "id" content).2.2 _ _ _ hblock hnone (by rwa [hbody])
  refine ⟨hdenotes, (ToolCall.inText?_origin "id" writtenCall).2.1 _ _ hwhole, hfound, ?_⟩
  exact ((ToolCall.inText?_origin "id" content).1 call hfound).2

end MathAgents.Chat
