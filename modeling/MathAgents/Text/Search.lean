namespace MathAgents.Text

/-!
# Searching in texts

`cut?` finds the first occurrence of a pattern and gives the text on either side of it, and
`pieces` cuts a text at every character of a kind.
-/

/-- The text in front of and behind the first occurrence of a pattern. -/
def cut? (pattern : List Char) : List Char → Option (List Char × List Char)
  | [] => if pattern.isEmpty then some ([], []) else none
  | c :: cs =>
    if pattern.isPrefixOf (c :: cs) then some ([], (c :: cs).drop pattern.length)
    else (cut? pattern cs).map fun (before, behind) => (c :: before, behind)

/-- What was cut makes up the text again. -/
theorem append_of_cut? {pattern cs before behind : List Char}
    (h : cut? pattern cs = some (before, behind)) : before ++ pattern ++ behind = cs := by
  induction cs generalizing before behind with
  | nil =>
    simp only [cut?] at h
    split at h
    · simp_all
    · simp at h
  | cons c cs ih =>
    simp only [cut?] at h
    split at h
    · next hp =>
      obtain ⟨t, ht⟩ := List.isPrefixOf_iff_prefix.1 hp
      simp only [Option.some.injEq, Prod.mk.injEq] at h
      rw [← h.1, ← h.2, ← ht]
      simp
    · obtain ⟨⟨b, a⟩, hb, he⟩ := Option.map_eq_some_iff.1 h
      simp only [Prod.mk.injEq] at he
      rw [← he.1, ← he.2]
      simpa using ih hb

/-- The pieces of a text between characters that separate them. -/
def pieces (separates : Char → Bool) : List Char → List (List Char)
  | [] => [[]]
  | c :: cs =>
    if separates c then [] :: pieces separates cs
    else match pieces separates cs with
      | [] => [[c]]
      | s :: rest => (c :: s) :: rest

end MathAgents.Text
