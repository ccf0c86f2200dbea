import MathAgents.Json.Basic

namespace MathAgents

/-!
# State kept for sessions

Values under keys, apart for each session.  `get?_set` says that storing a value changes what is
found under that key of that session, and nothing else.
-/

/-- The values kept for sessions. -/
structure StateStore where
  /-- A session, a key and a value; of equal sessions and keys the first entry counts. -/
  entries : List ((String × String) × Json) := []

namespace StateStore

/-- The value under a key of a session. -/
def get? (s : StateStore) (session key : String) : Option Json :=
  s.entries.lookup (session, key)

/-- Stores a value under a key of a session, whatever was there before. -/
def set (s : StateStore) (session key : String) (value : Json) : StateStore :=
  ⟨((session, key), value) :: s.entries.filter (·.1 != (session, key))⟩

private theorem lookup_filter_ne (entries : List ((String × String) × Json)) {p q : String × String}
    (h : q ≠ p) : (entries.filter (·.1 != p)).lookup q = entries.lookup q := by
  induction entries with
  | nil => rfl
  | cons e es ih =>
    obtain ⟨k, v⟩ := e
    by_cases hk : k = p
    · subst hk
      have hb : (q == k) = false := by simpa using h
      simp [List.lookup_cons, hb, ih]
    · by_cases hq : q = k <;> simp [List.lookup_cons, hk, hq, ih]

/-- What is found after storing a value. -/
theorem get?_set (s : StateStore) (session key : String) (value : Json) (session' key' : String) :
    (s.set session key value).get? session' key' =
      if (session', key') = (session, key) then some value else s.get? session' key' := by
  unfold get? set
  by_cases h : (session', key') = (session, key)
  · simp [h]
  · rw [if_neg h, List.lookup_cons]
    have hb : ((session', key') == (session, key)) = false := by simpa using h
    rw [hb]
    exact lookup_filter_ne s.entries h

end StateStore

end MathAgents
