import MathAgents.Proofs.Chat.Embedded

namespace MathAgents.Chat

/-!
# Where an object ends

Braces are counted to find the end of an object in a text.  Counting looks at quotes, backslashes
and braces only, and all the same it stops where the object stops that a reader would read.

* `Closes`, `Completes` — what closes some open braces, from within quotes or from without.
* `completes_of_closeBraces` — what is counted off closes the braces that were open.
* `balanced?_eq_some_iff` — what is found in front of a text is a pair of braces with what is in it.
* `balanced?_finds_objects` — objects are found, and what is found ends where it has to.
-/

open Json (Plain Quoted Balanced Braced)
open Text (Trimmed)

variable {s p q t u o cs : List Char} {depth : Nat} {quoted escaped : Bool}

/-! ### What is counted off -/

/-- Texts that close some open braces, the outermost one with their last character. -/
inductive Closes : Nat → List Char → Prop
  | done : Closes 0 []
  | close {depth : Nat} {t u : List Char} (ht : Balanced t) (hu : Closes depth u) :
      Closes (depth + 1) (t ++ '}' :: u)

/-- A balanced text in front closes nothing. -/
theorem Closes.behind (hdepth : 1 ≤ depth) (ht : Balanced t) (h : Closes depth u) :
    Closes depth (t ++ u) := by
  cases h with
  | done => omega
  | close hinner hrest =>
    rw [← List.append_assoc]
    exact .close (ht.append hinner) hrest

/-- An opening brace is closed first. -/
theorem Closes.opening (hdepth : 1 ≤ depth) (h : Closes (depth + 1) u) :
    Closes depth ('{' :: u) := by
  cases h with
  | @close _ t u ht hrest =>
    have hpair : Closes depth ('{' :: t ++ '}' :: [] ++ u) :=
      hrest.behind hdepth (.braces ht .nil)
    simpa using hpair

/-- What is still to come where `depth` braces are open: in quotes it completes what stands there
    first, and behind a backslash in quotes it starts with what the backslash escapes. -/
def Completes (depth : Nat) : (quoted escaped : Bool) → List Char → Prop
  | false, _, p => Closes depth p
  | true, false, p => ∃ s u, p = s ++ u ∧ Quoted s ∧ Closes depth u
  | true, true, p => ∃ s u, p = s ++ u ∧ Quoted ('\\' :: s) ∧ Closes depth u

/-- **Counting.** What is counted off closes the braces that were open, and no more. -/
theorem completes_of_closeBraces (hdepth : 1 ≤ depth) (hescaped : escaped → quoted)
    (h : closeBraces depth quoted escaped cs = some p) : Completes depth quoted escaped p := by
  -- by induction on the text, along the cases of the count: each of them goes on in another state
  fun_induction closeBraces depth quoted escaped cs generalizing p with
  | case1 => cases h
  | case2 depth quoted c cs ih =>
    -- the character behind a backslash
    obtain ⟨q, hq, rfl⟩ := Option.map_eq_some_iff.mp h
    obtain rfl : quoted = true := hescaped rfl
    obtain ⟨s, u, rfl, hs, hu⟩ := ih hdepth nofun hq
    exact ⟨c :: s, u, rfl, .escaped hs, hu⟩
  | case3 depth quoted escaped c cs hesc hc ih =>
    -- a backslash in quotes
    obtain ⟨q, hq, rfl⟩ := Option.map_eq_some_iff.mp h
    obtain ⟨rfl, rfl⟩ := hc
    obtain rfl : escaped = false := by simpa using hesc
    obtain ⟨s, u, rfl, hs, hu⟩ := ih hdepth (fun _ => rfl) hq
    exact ⟨'\\' :: s, u, rfl, hs, hu⟩
  | case4 depth quoted escaped cs hesc hc ih =>
    -- a quote, which closes quotes or opens them
    obtain ⟨q, hq, rfl⟩ := Option.map_eq_some_iff.mp h
    obtain rfl : escaped = false := by simpa using hesc
    have hrest := ih hdepth nofun hq
    cases quoted with
    | true => exact ⟨['"'], q, rfl, .close, hrest⟩
    | false =>
      obtain ⟨s, u, rfl, hs, hu⟩ := hrest
      have hquoted : Closes depth ('"' :: s ++ [] ++ u) := hu.behind hdepth (.quoted hs .nil)
      show Closes depth ('"' :: (s ++ u))
      simpa using hquoted
  | case5 depth quoted escaped c cs hesc _ _ hc ih =>
    -- an opening brace
    obtain ⟨q, hq, rfl⟩ := Option.map_eq_some_iff.mp h
    obtain ⟨rfl, hquoted⟩ := hc
    obtain rfl : quoted = false := by simpa using hquoted
    exact (ih (Nat.le_add_left 1 depth) nofun hq).opening hdepth
  | case6 depth quoted escaped c cs hesc _ _ _ hc hone =>
    -- the closing brace of the outermost pair
    obtain rfl := Option.some.inj h
    obtain ⟨rfl, hquoted⟩ := hc
    obtain rfl : quoted = false := by simpa using hquoted
    obtain rfl : depth = 1 := by omega
    exact .close .nil .done
  | case7 depth quoted escaped c cs hesc _ _ _ hc hone ih =>
    -- the closing brace of an inner pair
    obtain ⟨q, hq, rfl⟩ := Option.map_eq_some_iff.mp h
    obtain ⟨rfl, hquoted⟩ := hc
    obtain rfl : quoted = false := by simpa using hquoted
    obtain ⟨depth, rfl⟩ : ∃ n, depth = n + 1 := ⟨depth - 1, by omega⟩
    exact .close .nil (ih (by omega) nofun hq)
  | case8 depth quoted escaped c cs hesc hslash hquote hopening hclosing ih =>
    -- any other character, in quotes or between the parts of the text
    obtain ⟨q, hq, rfl⟩ := Option.map_eq_some_iff.mp h
    obtain rfl : escaped = false := by simpa using hesc
    have hrest := ih hdepth nofun hq
    cases quoted with
    | true =>
      obtain ⟨s, u, rfl, hs, hu⟩ := hrest
      exact ⟨c :: s, u, rfl, .plain hquote (fun heq => hslash ⟨heq, rfl⟩) hs, hu⟩
    | false =>
      have hc : Plain c :=
        ⟨hquote, fun heq => hopening ⟨heq, rfl⟩, fun heq => hclosing ⟨heq, rfl⟩⟩
      exact Closes.behind hdepth (.plain hc .nil) hrest

/-- What is counted off stands in front of the text. -/
theorem closeBraces_isPrefix (h : closeBraces depth quoted escaped cs = some p) : p <+: cs := by
  fun_induction closeBraces depth quoted escaped cs generalizing p with
  | case1 => cases h
  | case6 depth quoted escaped c cs =>
    obtain rfl := Option.some.inj h
    exact List.prefix_append [c] cs
  | case2 _ _ _ _ ih | case3 _ _ _ _ _ _ _ ih | case4 _ _ _ _ _ _ ih
  | case5 _ _ _ _ _ _ _ _ _ ih | case7 _ _ _ _ _ _ _ _ _ _ _ ih
  | case8 _ _ _ _ _ _ _ _ _ _ ih =>
    obtain ⟨q, hq, rfl⟩ := Option.map_eq_some_iff.mp h
    exact List.cons_prefix_cons.mpr ⟨rfl, ih hq⟩

/-! ### What is found -/

/-- What is found is a pair of braces with what is in them. -/
theorem braced_of_balanced? (h : balanced? s = some p) : Braced p := by
  unfold balanced? at h
  split at h
  · next cs =>
    obtain ⟨q, hq, rfl⟩ := Option.map_eq_some_iff.mp h
    have hcompletes : Completes 1 false false q :=
      completes_of_closeBraces (Nat.le_refl 1) nofun hq
    have hcloses : Closes 1 q := hcompletes
    cases hcloses with
    | close ht hrest =>
      cases hrest
      exact ⟨_, ht, rfl⟩
  · cases h

/-- What is found stands in front of the text. -/
theorem isPrefix_of_balanced? (h : balanced? s = some p) : p <+: s := by
  unfold balanced? at h
  split at h
  · obtain ⟨q, hq, rfl⟩ := Option.map_eq_some_iff.mp h
    exact List.cons_prefix_cons.mpr ⟨rfl, closeBraces_isPrefix hq⟩
  · cases h

/-- **What is found.** A piece is found exactly if it stands in front of the text and is a pair of
    braces with what is in them. -/
theorem balanced?_eq_some_iff : balanced? s = some p ↔ p <+: s ∧ Braced p := by
  constructor
  · intro h
    exact ⟨isPrefix_of_balanced? h, braced_of_balanced? h⟩
  · rintro ⟨⟨rest, rfl⟩, hp⟩
    exact balanced?_append hp rest

/-! ### Objects -/

theorem ends_of_braced (h : Braced o) : o.head? = some '{' ∧ o.getLast? = some '}' := by
  obtain ⟨t, -, rfl⟩ := h
  exact ⟨rfl, List.getLast?_concat⟩

/-- Braces are not blank, so there are no blanks around a text that starts and ends with them. -/
theorem trimmed_of_ends (hfirst : o.head? = some '{') (hlast : o.getLast? = some '}') :
    Trimmed o := by
  constructor
  · intro c hc
    obtain rfl : '{' = c := Option.some.inj (hfirst.symm.trans hc)
    decide
  · intro c hc
    obtain rfl : '}' = c := Option.some.inj (hlast.symm.trans hc)
    decide

/-- No piece that ends earlier is found in what is found. -/
theorem balanced?_eq_none_of_isPrefix (hp : Braced p) (hq : q <+: p) (hne : q ≠ p) :
    balanced? q = none := by
  cases hfound : balanced? q with
  | none => rfl
  | some r =>
    exfalso
    apply hne
    -- a pair of braces in front of another one is all of it, and `q` stands between them
    obtain ⟨hrq, hr⟩ := balanced?_eq_some_iff.mp hfound
    obtain ⟨rest, rfl⟩ := hrq.trans hq
    have hwhole : r ++ rest = r := eq_of_braced_append hr hp
    rw [hwhole] at hq ⊢
    exact hq.eq_of_length_le hrq.length_le

/-- **Ends of objects.** A text that is read as an object, from its opening brace to its closing
    one, is found whatever stands behind it.
    And whatever is found stands in front of the text, starts with an opening brace and ends with a
    closing one; it is found whatever stands behind it, and nothing is found in less of it. -/
theorem balanced?_finds_objects :
    (∀ (levels : Nat) (o : List Char) (fields : Fields), Json.read levels o = .ok (.obj fields) →
      o.head? = some '{' → o.getLast? = some '}' → ∀ rest, balanced? (o ++ rest) = some o) ∧
    ∀ s p, balanced? s = some p →
      p <+: s ∧ p.head? = some '{' ∧ p.getLast? = some '}' ∧
      (∀ rest, balanced? (p ++ rest) = some p) ∧
      ∀ q, q <+: p → q ≠ p → balanced? q = none := by
  constructor
  · intro levels o fields hread hfirst hlast rest
    have hbraced := Json.braced_of_read (trimmed_of_ends hfirst hlast) hread
    exact balanced?_append hbraced rest
  · intro s p hfound
    obtain ⟨hfront, hbraced⟩ := balanced?_eq_some_iff.mp hfound
    obtain ⟨hfirst, hlast⟩ := ends_of_braced hbraced
    refine ⟨hfront, hfirst, hlast, fun rest => balanced?_append hbraced rest, fun q hq hne => ?_⟩
    exact balanced?_eq_none_of_isPrefix hbraced hq hne

/-- An object with a brace and a quote in a string is found to its end, and none of it before. -/
theorem balanced?_finds_objects_quoted :
    let o := "\x7b\"k\":\"\x7d\\\"\"\x7d".toList
    (∃ fields, Json.read Json.maxNesting o = .ok (.obj fields)) ∧
      balanced? (o ++ " \x7d".toList) = some o ∧ balanced? o.dropLast = none := by
  intro o
  have hobject : ((Json.read Json.maxNesting o).toOption.bind Json.asObject?).isSome := by
    decide +kernel
  obtain ⟨fields, hread⟩ : ∃ fields, Json.read Json.maxNesting o = .ok (.obj fields) := by
    cases hread : Json.read Json.maxNesting o with
    | error e =>
      rw [hread] at hobject
      cases hobject
    | ok j =>
      rw [hread] at hobject
      cases j with
      | obj fields => exact ⟨fields, rfl⟩
      | _ => cases hobject
  have hfound : ∀ rest, balanced? (o ++ rest) = some o :=
    balanced?_finds_objects.1 Json.maxNesting o fields hread (by decide) (by decide)
  have halone := hfound []
  rw [List.append_nil] at halone
  obtain ⟨-, -, -, -, hless⟩ := balanced?_finds_objects.2 o o halone
  exact ⟨⟨fields, hread⟩, hfound _, hless _ (List.dropLast_prefix o) (by decide)⟩

end MathAgents.Chat
