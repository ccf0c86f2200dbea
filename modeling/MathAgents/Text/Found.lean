namespace MathAgents.Text

/-!
# What is found in front of a text

A reader takes a text and gives what it found in front of it together with the text behind, which
is shorter.  A loop of readers ends because every step shortens the text.
-/

theorem length_dropWhile (p : Char → Bool) (cs : List Char) :
    (cs.dropWhile p).length ≤ cs.length :=
  (List.dropWhile_sublist p).length_le

/-- What a reader found in front of a text, and the shorter text behind it. -/
structure Found (cs : List Char) (α : Type) where
  value : α
  rest : List Char
  shorter : rest.length < cs.length

namespace Found

variable {cs ds : List Char} {α β : Type}

/-- What the first character of a text stands for by itself. -/
def head (a : α) (c : Char) (rest : List Char) : Found (c :: rest) α :=
  ⟨a, rest, Nat.lt_succ_self _⟩

/-- What the first character of a text and the `n` behind it stand for. -/
def headAnd (a : α) (n : Nat) (c : Char) (rest : List Char) : Found (c :: rest) α :=
  ⟨a, rest.drop n, Nat.lt_succ_of_le (List.drop_sublist n rest).length_le⟩

/-- What the first character of a text and those behind it that satisfy `p` stand for. -/
def headWhile (a : α) (p : Char → Bool) (c : Char) (rest : List Char) : Found (c :: rest) α :=
  ⟨a, rest.dropWhile p, Nat.lt_succ_of_le (length_dropWhile p rest)⟩

/-- What was found in a text is found in any text that is no shorter. -/
def within (f : Found cs α) (h : cs.length ≤ ds.length) : Found ds α :=
  ⟨f.value, f.rest, Nat.lt_of_lt_of_le f.shorter h⟩

/-- What was found in the rest of a text is found in the text. -/
def past (f : Found cs α) (h : cs.length < ds.length) : Found ds α := f.within (Nat.le_of_lt h)

/-- What was found, changed by a function. -/
def map (g : α → β) (f : Found cs α) : Found cs β := ⟨g f.value, f.rest, f.shorter⟩

@[simp] theorem value_map (g : α → β) (f : Found cs α) : (f.map g).value = g f.value := rfl

/-- What was found without a text's first character is found in the text. -/
def behind (c : Char) (f : Found cs α) : Found (c :: cs) α := f.within (Nat.le_succ _)

@[simp] theorem value_behind (c : Char) (f : Found cs α) : (f.behind c).value = f.value := rfl

end Found

end MathAgents.Text
