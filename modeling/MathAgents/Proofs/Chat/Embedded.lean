import MathAgents.Chat.Embedded
import MathAgents.Proofs.Json.Extent

namespace MathAgents.Chat

/-!
# Tool calls are recovered from plain text

A model may write a tool call with nothing around it, in a fenced block or in the middle of a
sentence.  Either way the call that is found is the one that was written: the places that are tried
before do not pass for a call, and the piece that is cut out at the right place is the object.

* `closeBraces_balanced` — counting braces passes over a balanced text.
* `balanced?_append` — an object is found whatever stands behind it.
* `SpellsCall` — an object that names a function and has arguments.
* `ToolCall.inText?_recovers` — a call is recovered from all three presentations.
-/

open Json (Plain Quoted Balanced Braced)
open Text (isBlankChar trimLeft trimRight trimChars Trimmed cut?)

variable {s t o cs : List Char} {c : Char} {depth : Nat}

/-! ### Counting braces -/

section

variable (depth : Nat) (cs : List Char)

theorem closeBraces_plain (hc : Plain c) :
    closeBraces depth false false (c :: cs) =
      (closeBraces depth false false cs).map (c :: ·) := by
  simp [closeBraces, hc.quote, hc.opening, hc.closing]

theorem closeBraces_quote :
    closeBraces depth false false ('"' :: cs) =
      (closeBraces depth true false cs).map ('"' :: ·) := by
  simp [closeBraces]

theorem closeBraces_opening :
    closeBraces depth false false ('{' :: cs) =
      (closeBraces (depth + 1) false false cs).map ('{' :: ·) := by
  simp [closeBraces]

theorem closeBraces_inner (hdepth : 1 ≤ depth) :
    closeBraces (depth + 1) false false ('}' :: cs) =
      (closeBraces depth false false cs).map ('}' :: ·) := by
  simp [closeBraces, Nat.one_le_iff_ne_zero.mp hdepth]

theorem closeBraces_outermost : closeBraces 1 false false ('}' :: cs) = some ['}'] := by
  simp [closeBraces]

end

/-- Counting passes over what stands in quotes. -/
theorem closeBraces_quoted (hs : Quoted s) (depth : Nat) (rest : List Char) :
    closeBraces depth true false (s ++ rest) =
      (closeBraces depth false false rest).map (s ++ ·) := by
  induction hs with
  | close => simp [closeBraces]
  | plain hquote hslash _ ih => simp [closeBraces, hquote, hslash, ih, Function.comp_def]
  | escaped _ ih => simp [closeBraces, ih, Function.comp_def]

/-- Counting passes over a balanced text, at any depth that it does not close. -/
theorem closeBraces_balanced (ht : Balanced t) (hdepth : 1 ≤ depth) (rest : List Char) :
    closeBraces depth false false (t ++ rest) =
      (closeBraces depth false false rest).map (t ++ ·) := by
  -- by induction on the pairs of braces: what stands in a pair is passed over one level deeper
  induction ht generalizing depth rest with
  | nil => simp
  | plain hc _ ih =>
    rw [List.cons_append, closeBraces_plain depth _ hc, ih hdepth, Option.map_map]
    rfl
  | @quoted s t hs _ ih =>
    rw [List.append_assoc, List.cons_append, closeBraces_quote, closeBraces_quoted hs, ih hdepth,
      Option.map_map, Option.map_map]
    simp [Function.comp_def]
  | @braces t u _ _ iht ihu =>
    rw [List.append_assoc, List.cons_append, closeBraces_opening, iht (Nat.succ_pos depth),
      List.cons_append, closeBraces_inner depth _ hdepth, ihu hdepth, Option.map_map,
      Option.map_map, Option.map_map]
    simp [Function.comp_def]

/-- An object is found in front of a text, whatever stands behind it. -/
theorem balanced?_append (ho : Braced o) (rest : List Char) : balanced? (o ++ rest) = some o := by
  obtain ⟨t, ht, rfl⟩ := ho
  rw [List.append_assoc, List.cons_append, balanced?, closeBraces_balanced ht (Nat.le_refl 1),
    List.singleton_append, closeBraces_outermost]
  rfl

/-- Nothing that goes on behind an object is an object. -/
theorem eq_of_braced_append {rest : List Char} (ho : Braced o) (h : Braced (o ++ rest)) :
    o ++ rest = o := by
  have hwhole := balanced?_append h []
  rw [List.append_nil, balanced?_append ho rest] at hwhole
  exact (Option.some.inj hwhole).symm

/-- An object starts with a brace. -/
theorem eq_nil_of_braced_append {front rest : List Char} (hfront : front.head? ≠ some '{')
    (h : Braced (front ++ rest)) : front = [] := by
  obtain ⟨t, -, hfirst⟩ := h
  cases front with
  | nil => rfl
  | cons c front =>
    obtain ⟨rfl, -⟩ := List.cons.inj hfirst
    exact absurd rfl hfront

/-! ### Objects that spell a call -/

/-- Whether a text is an object, without blanks around it, that names a function and has
    arguments. -/
structure SpellsCall (o : List Char) (name : String) (arguments : Json) : Prop where
  parsed : ∃ j, Json.parse (String.ofList o) = .ok j ∧ j.getString? "function" = some name ∧
    j.get? "arguments" = some arguments
  trimmed : trimChars o = o

variable {id name : String} {arguments : Json} {call : ToolCall}

theorem SpellsCall.ofObject? (h : SpellsCall o name arguments) (id : String) :
    ToolCall.ofObject? id o = some ⟨id, name, arguments.print⟩ := by
  obtain ⟨j, hparse, hname, harguments⟩ := h.parsed
  simp [ToolCall.ofObject?, hparse, hname, harguments, Except.toOption]

/-- What passes for a call is one pair of braces with what is in them. -/
theorem braced_of_ofObject? (hcs : Trimmed cs) (h : ToolCall.ofObject? id cs = some call) :
    Braced cs := by
  obtain ⟨j, hj, h⟩ := Option.bind_eq_some_iff.mp h
  obtain ⟨name, -, h⟩ := Option.bind_eq_some_iff.mp h
  obtain ⟨arguments, harguments, -⟩ := Option.bind_eq_some_iff.mp h
  have hparse : Json.parse (String.ofList cs) = .ok j := toOption_eq_some_iff.mp hj
  have hbraced := Json.braced_of_parse (by rwa [String.toList_ofList]) hparse harguments
  rwa [String.toList_ofList] at hbraced

theorem SpellsCall.braced (h : SpellsCall o name arguments) : Braced o :=
  braced_of_ofObject? (h.trimmed ▸ Text.trimmed_trimChars o) (h.ofObject? "")

theorem SpellsCall.ends (h : SpellsCall o name arguments) : Trimmed o :=
  h.trimmed ▸ Text.trimmed_trimChars o

theorem SpellsCall.ne_nil (h : SpellsCall o name arguments) : o ≠ [] := by
  obtain ⟨t, -, rfl⟩ := h.braced
  exact List.cons_ne_nil _ _

/-! ### Fenced blocks -/

/-- The backtick is not blank, so it does not stand among blanks. -/
theorem fence_head?_ne_of_blank {b : Char} {before : List Char} (h : before.all isBlankChar)
    (hb : b ∈ before) : fence.head? ≠ some b := by
  intro hfence
  obtain rfl : '`' = b := Option.some.inj hfence
  exact absurd (List.all_eq_true.mp h _ hb) (by decide)

/-- There are no blanks around a fenced block. -/
theorem trimmed_fenced (block : List Char) : Trimmed (fence ++ block ++ fence) := by
  constructor
  · intro c hc
    obtain rfl : '`' = c := by simpa [fence] using hc
    decide
  · intro c hc
    rw [List.getLast?_append] at hc
    obtain rfl : '`' = c := by simpa [fence] using hc
    decide

/-- An object between blanks ends in front of the next fence, if it holds none. -/
theorem cut?_fence_object {before after : List Char} (ho : Braced o) (hfence : ¬ fence <:+: o)
    (hbefore : before.all isBlankChar) (hafter : after.all isBlankChar) (post : List Char) :
    cut? fence (before ++ o ++ after ++ (fence ++ post)) = some (before ++ o ++ after, post) := by
  obtain ⟨t, -, rfl⟩ := ho
  have hinner : ¬ fence <:+: '{' :: t := fun hwithin =>
    hfence (hwithin.trans (List.prefix_append _ _).isInfix)
  have hend : cut? fence (after ++ (fence ++ post)) = some (after, post) :=
    Text.cut?_first (by decide) (fun _ => fence_head?_ne_of_blank hafter) post
  have hpieces : before ++ ('{' :: t ++ ['}']) ++ after ++ (fence ++ post) =
      before ++ ('{' :: t ++ '}' :: (after ++ (fence ++ post))) := by simp
  rw [hpieces, Text.cut?_skip (by decide) fun _ => fence_head?_ne_of_blank hbefore,
    Text.cut?_past (by decide) (by decide) hinner, hend]
  simp

/-- The body of a fenced block is found, if it is an object between blanks that holds no fence. -/
theorem fenced?_eq {pre tag before after : List Char} (ho : Braced o) (hfence : ¬ fence <:+: o)
    (hpre : '`' ∉ pre) (htag : '\n' ∉ tag) (hbefore : before.all isBlankChar)
    (hafter : after.all isBlankChar) (post : List Char) :
    fenced? (pre ++ (fence ++ (tag ++ ('\n' :: (before ++ o ++ after ++ (fence ++ post)))))) =
      some (before ++ o ++ after) := by
  have hopened : ∀ b ∈ pre, fence.head? ≠ some b := by
    rintro b hb hfirst
    obtain rfl : '`' = b := Option.some.inj hfirst
    exact hpre hb
  have hline : ∀ b ∈ tag, ['\n'].head? ≠ some b := by
    rintro b hb hfirst
    obtain rfl : '\n' = b := Option.some.inj hfirst
    exact htag hb
  have hbody : cut? ['\n'] (tag ++ '\n' :: (before ++ o ++ after ++ (fence ++ post))) =
      some (tag, before ++ o ++ after ++ (fence ++ post)) := Text.cut?_first (by decide) hline _
  have hne : before ++ o ++ after ≠ [] := by
    obtain ⟨t, -, rfl⟩ := ho
    simp
  rw [fenced?, Text.cut?_first (by decide) hopened]
  simp only [Option.bind_eq_bind, Option.bind_some]
  rw [hbody, Option.bind_some, cut?_fence_object ho hfence hbefore hafter post, Option.bind_some,
    if_neg (by simpa using hne)]

/-- There is no fenced block without a fence. -/
theorem fenced?_eq_none (h : ¬ fence <:+: cs) : fenced? cs = none := by
  unfold fenced?
  cases hcut : cut? fence cs with
  | none => rfl
  | some pieces => exact absurd (Text.infix_of_cut? hcut) h

/-! ### The first object that seems to name a function -/

/-- An object that starts like a call is found behind a text in which nothing does. -/
theorem embedded?_eq {before : List Char} (ho : Braced o) (hstart : objectStart <+: o)
    (hbefore : ¬ objectStart <:+: before) (behind : List Char) :
    embedded? (before ++ o ++ behind) = some o := by
  obtain ⟨back, rfl⟩ := hstart
  have hcut : cut? objectStart (before ++ (objectStart ++ (back ++ behind))) =
      some (before, back ++ behind) := Text.cut?_start (by decide) hbefore
  have hobject := balanced?_append ho behind
  rw [List.append_assoc] at hobject
  rw [embedded?, List.append_assoc, List.append_assoc, hcut]
  exact hobject

/-! ### All presentations -/

section

variable {content : String} {pre tag before after post : List Char}

/-- A call with nothing but blanks around it is recovered. -/
theorem SpellsCall.alone (h : SpellsCall o name arguments) (id : String)
    (hcontent : content.toList = before ++ o ++ after) (hbefore : before.all isBlankChar)
    (hafter : after.all isBlankChar) :
    ToolCall.inText? id content = some ⟨id, name, arguments.print⟩ := by
  have htrimmed : trimChars content.toList = o := by
    rw [hcontent, Text.trimChars_blanks h.ends h.ne_nil hbefore hafter]
  simp only [ToolCall.inText?, htrimmed, h.ofObject?, Option.some_or]

/-- A call in the first fenced block is recovered, whatever the tag of the block is and whatever
    stands behind it. -/
theorem SpellsCall.fenced (h : SpellsCall o name arguments) (id : String)
    (hcontent : content.toList =
      pre ++ fence ++ tag ++ ['\n'] ++ (before ++ o ++ after) ++ fence ++ post)
    (hpre : '`' ∉ pre) (hhead : (trimLeft pre).head? ≠ some '{') (htag : '\n' ∉ tag)
    (hbefore : before.all isBlankChar) (hafter : after.all isBlankChar)
    (hfence : ¬ fence <:+: o) :
    ToolCall.inText? id content = some ⟨id, name, arguments.print⟩ := by
  have hblock : Trimmed (fence ++ (tag ++ ['\n'] ++ (before ++ o ++ after)) ++ fence) :=
    trimmed_fenced _
  have htrimmed : trimChars content.toList = trimLeft pre ++ (fence ++ (tag ++ ('\n' ::
      (before ++ o ++ after ++ (fence ++ trimRight post))))) := by
    have hpieces : content.toList =
        pre ++ (fence ++ (tag ++ ['\n'] ++ (before ++ o ++ after)) ++ fence) ++ post := by
      simp [hcontent]
    rw [hpieces, Text.trimChars_append hblock (by simp)]
    simp
  have hnone : ToolCall.ofObject? id (trimChars content.toList) = none := by
    cases hcall : ToolCall.ofObject? id (trimChars content.toList) with
    | none => rfl
    | some call =>
      have hbraced := braced_of_ofObject? (Text.trimmed_trimChars _) hcall
      rw [htrimmed] at hbraced
      -- the whole text would start with a brace, but it starts with the fence
      rw [eq_nil_of_braced_append hhead hbraced] at hbraced
      obtain ⟨t, -, hfirst⟩ := hbraced
      cases hfirst
  have hbody : fenced? (trimChars content.toList) = some (before ++ o ++ after) := by
    rw [htrimmed]
    refine fenced?_eq h.braced hfence ?_ htag hbefore hafter _
    exact fun hmem => hpre ((Text.trimLeft_isSuffix pre).subset hmem)
  have hobject : trimChars (before ++ o ++ after) = o :=
    Text.trimChars_blanks h.ends h.ne_nil hbefore hafter
  simp only [ToolCall.inText?, hnone, hbody, hobject, h.ofObject?, Option.none_or, Option.bind_some,
    Option.some_or]

/-- A call that starts in the usual way is recovered from the middle of a text. -/
theorem SpellsCall.embedded (h : SpellsCall o name arguments) (id : String)
    (hcontent : content.toList = pre ++ o ++ post) (hstart : objectStart <+: o)
    (hpre : ¬ objectStart <:+: pre) (hhead : (trimLeft pre).head? ≠ some '{')
    (hfence : ¬ fence <:+: content.toList) :
    ToolCall.inText? id content = some ⟨id, name, arguments.print⟩ := by
  have htrimmed : trimChars content.toList = trimLeft pre ++ o ++ trimRight post := by
    rw [hcontent, Text.trimChars_append h.ends h.ne_nil]
  have hblock : fenced? (trimChars content.toList) = none :=
    fenced?_eq_none fun hwithin => hfence (hwithin.trans (Text.trimChars_isInfix _))
  have hfound : embedded? (trimChars content.toList) = some o := by
    rw [htrimmed]
    refine embedded?_eq h.braced hstart (fun hwithin => hpre ?_) _
    exact hwithin.trans (Text.trimLeft_isSuffix pre).isInfix
  cases hcall : ToolCall.ofObject? id (trimChars content.toList) with
  | none =>
    simp only [ToolCall.inText?, hcall, hblock, hfound, h.ofObject?, Option.none_or,
      Option.bind_none, Option.bind_some]
  | some call =>
    -- the whole text passes for a call only if it is nothing but the object
    have hbraced := braced_of_ofObject? (Text.trimmed_trimChars _) hcall
    rw [htrimmed, List.append_assoc] at hbraced
    have hnil := eq_nil_of_braced_append hhead hbraced
    rw [hnil, List.nil_append] at hbraced
    have hwhole : trimChars content.toList = o := by
      rw [htrimmed, hnil, List.nil_append, eq_of_braced_append h.braced hbraced]
    simp only [ToolCall.inText?, hwhole, h.ofObject?, Option.some_or]

end

/-- **Recovery.** An object that names a function and has arguments is found as the call of that
    function, with the arguments written compactly:
    with nothing but blanks around it;
    as the body of the first fenced block, between blanks, whatever the tag of the block is and
    whatever follows it, if the object itself holds no fence;
    and in the middle of a text without a fence, if it starts with the name of the function and
    nothing in front of it starts like that.
    What stands in front of the block or of the object must not start with a brace, and there are no
    backticks in front of the block. -/
theorem ToolCall.inText?_recovers (id name : String) (o : List Char) (arguments : Json)
    (h : SpellsCall o name arguments) (content : String) :
    let found := ToolCall.inText? id content = some ⟨id, name, arguments.print⟩
    (∀ before after, content.toList = before ++ o ++ after →
      before.all isBlankChar → after.all isBlankChar → found) ∧
    (∀ pre tag before after post,
      content.toList = pre ++ fence ++ tag ++ ['\n'] ++ (before ++ o ++ after) ++ fence ++ post →
      '`' ∉ pre → (trimLeft pre).head? ≠ some '{' → '\n' ∉ tag →
      before.all isBlankChar → after.all isBlankChar → ¬ fence <:+: o → found) ∧
    (∀ pre post, content.toList = pre ++ o ++ post → objectStart <+: o →
      ¬ objectStart <:+: pre → (trimLeft pre).head? ≠ some '{' →
      ¬ fence <:+: content.toList → found) := by
  refine ⟨?_, ?_, ?_⟩
  · intro before after hcontent hbefore hafter
    exact h.alone id hcontent hbefore hafter
  · intro pre tag before after post hcontent hpre hhead htag hbefore hafter hfence
    exact h.fenced id hcontent hpre hhead htag hbefore hafter hfence
  · intro pre post hcontent hstart hpre hhead hfence
    exact h.embedded id hcontent hstart hpre hhead hfence

/-- A call as a model may write it. -/
def writtenCall : String := "\x7b\"function\":\"f\",\"arguments\":\"1\"\x7d"

theorem spellsCall_writtenCall : SpellsCall writtenCall.toList "f" (.str "1") := by
  have hname : (Json.parse writtenCall).toOption.bind (·.getString? "function") = some "f" := by
    decide +kernel
  have harguments : ((Json.parse writtenCall).toOption.bind (·.get? "arguments")).bind
      Json.asString? = some "1" := by decide +kernel
  refine ⟨?_, by decide⟩
  rw [String.ofList_toList]
  cases hparse : Json.parse writtenCall with
  | error e =>
    rw [hparse] at hname
    cases hname
  | ok j =>
    rw [hparse] at hname harguments
    refine ⟨j, rfl, hname, ?_⟩
    obtain ⟨v, hv, htext⟩ := Option.bind_eq_some_iff.mp harguments
    cases v with
    | str text => rw [← Option.some.inj htext]; exact hv
    | _ => cases htext

/-- The three presentations of a call. -/
theorem ToolCall.inText?_recovers_writtenCall :
    let call : ToolCall := ⟨"id", "f", (Json.str "1").print⟩
    SpellsCall writtenCall.toList "f" (.str "1") ∧
      ToolCall.inText? "id" ("\u2003" ++ writtenCall ++ "\n") = some call ∧
      ToolCall.inText? "id" ("Sure:\n```json\n" ++ writtenCall ++ "\n```\nDone.") = some call ∧
      ToolCall.inText? "id" ("Sure: " ++ writtenCall ++ " Done.") = some call := by
  have hrecovers :=
    ToolCall.inText?_recovers "id" "f" writtenCall.toList (.str "1") spellsCall_writtenCall
  refine ⟨spellsCall_writtenCall, ?_, ?_, ?_⟩
  · exact (hrecovers _).1 ['\u2003'] ['\n'] (by simp) (by decide) (by decide)
  · exact (hrecovers _).2.1 "Sure:\n".toList "json".toList [] ['\n'] "\nDone.".toList
      (by simp [fence]) (by decide) (by decide) (by decide) (by decide) (by decide)
      (by decide +kernel)
  · exact (hrecovers _).2.2 "Sure: ".toList " Done.".toList (by simp) (by decide)
      (by decide +kernel) (by decide) (by simp only [String.toList_append]; decide +kernel)

end MathAgents.Chat
