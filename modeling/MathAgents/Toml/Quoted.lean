import MathAgents.Text.Hexadecimal
import MathAgents.Toml.Layout

namespace MathAgents.Toml

/-!
# Quoted texts and keys

A text is quoted in one of four ways: between double quotes, where a backslash escapes, or between
single quotes, where nothing does; on one line between single marks, or over several between
triple marks.  A key is a quoted text on one line or a bare word, and a path is a list of keys
with points between them.
-/

open Text (Found)

/-- A way of quoting. -/
structure Quoting where
  mark : Char
  /-- Whether a backslash escapes. -/
  escapes : Bool
  /-- Whether the marks are triple and the text may have several lines. -/
  triple : Bool

/-! ### Escapes -/

/-- The character whose code point some hexadecimal digits denote. -/
def hexChar? (digits : List Char) : Option Char := do
  let n ← Text.hexNat? digits
  if n.isValidChar then some (Char.ofNat n) else none

/-- Reads exactly `count` hexadecimal digits as the character that they denote. -/
def readHexChar (count : Nat) (cs : List Char) : Option (Found cs Char) :=
  if h : 0 < count ∧ count ≤ cs.length then
    (hexChar? (cs.take count)).map fun c => ⟨c, cs.drop count, by rw [List.length_drop]; omega⟩
  else none

/-- Reads the character that an escape stands for, behind its backslash. -/
def readEscape (cs : List Char) : Option (Found cs Char) :=
  match cs with
  | [] => none
  | c :: rest =>
    let plain (d : Char) : Option (Found (c :: rest) Char) := some (.head d c rest)
    if c = 'b' then plain '\x08'
    else if c = 't' then plain '\t'
    else if c = 'n' then plain '\n'
    else if c = 'f' then plain '\x0c'
    else if c = 'r' then plain '\r'
    else if c = '"' then plain '"'
    else if c = '\\' then plain '\\'
    else if c = 'u' then (readHexChar 4 rest).map (·.behind c)
    else if c = 'U' then (readHexChar 8 rest).map (·.behind c)
    else none

/-- The text behind a line that a backslash joins with the next one, if nothing but space stands
    between the backslash and the line end; all space and empty lines behind it are passed over. -/
def joined? (cs : List Char) : Option (List Char) :=
  (newline? (skipSpace cs)).map (skipLines false false)

theorem length_joined? {cs rest : List Char} (h : joined? cs = some rest) :
    rest.length < cs.length := by
  obtain ⟨r, hr, rfl⟩ := Option.map_eq_some_iff.1 h
  have h₁ := length_newline? hr
  have h₂ := length_skipSpace cs
  have h₃ := length_skipLines false false r
  omega

/-! ### Quoted texts -/

/-- How many marks in front of a text belong to the end of a text in triple marks: three that
    close it, and up to two before them that are part of it.  Fewer than three close nothing. -/
def closingCount (mark : Char) (cs : List Char) : Nat :=
  let count := (cs.takeWhile (· == mark)).length
  if count < 3 then 0 else min count 5

/-- The text behind the line end in front of a text, where a quoted text may have several
    lines. -/
def Quoting.newline? (q : Quoting) (cs : List Char) : Option (List Char) :=
  if q.triple then Toml.newline? cs else none

/-- The text behind the line that a backslash joins with the next one, where a quoted text may
    have several lines. -/
def Quoting.joined? (q : Quoting) (cs : List Char) : Option (List Char) :=
  if q.triple then Toml.joined? cs else none

theorem Quoting.length_newline? {q : Quoting} {c : Char} {cs rest : List Char}
    (h : q.newline? (c :: cs) = some rest) : rest.length ≤ cs.length := by
  unfold Quoting.newline? at h
  split at h
  · exact Nat.le_of_lt_succ (Toml.length_newline? h)
  · cases h

theorem Quoting.length_joined? {q : Quoting} {cs rest : List Char}
    (h : q.joined? cs = some rest) : rest.length < cs.length := by
  unfold Quoting.joined? at h
  split at h
  · exact Toml.length_joined? h
  · cases h

/-- Reads a quoted text behind its opening mark; `acc` holds what was read, backwards. -/
def readQuoted (q : Quoting) (acc : List Char) (cs : List Char) : Option (Found cs String) :=
  match cs with
  | [] => none
  | c :: rest =>
    if c = q.mark then
      if q.triple then
        let count := closingCount q.mark (c :: rest)
        if 3 ≤ count then
          let text := String.ofList (acc.reverse ++ List.replicate (count - 3) c)
          some (.headAnd text (count - 1) c rest)
        else (readQuoted q (c :: acc) rest).map (·.behind c)
      else some (.head (String.ofList acc.reverse) c rest)
    else if c = '\\' ∧ q.escapes then
      match hj : q.joined? rest with
      | some rest' =>
        have h : rest'.length < rest.length := q.length_joined? hj
        (readQuoted q acc rest').map fun f => (f.past h).behind c
      | none =>
        match readEscape rest with
        | none => none
        | some ⟨d, rest', h⟩ =>
          (readQuoted q (d :: acc) rest').map fun f => (f.past h).behind c
    else if isPrintable c then (readQuoted q (c :: acc) rest).map (·.behind c)
    else
      match hn : q.newline? (c :: rest) with
      | some rest' =>
        have h : rest'.length ≤ rest.length := q.length_newline? hn
        (readQuoted q ('\n' :: acc) rest').map fun f => (f.within h).behind c
      | none => none
termination_by cs.length

/-- Reads a quoted text on one line, behind its opening mark. -/
def readLineText (mark : Char) (cs : List Char) : Option (Found cs String) :=
  readQuoted ⟨mark, mark == '"', false⟩ [] cs

/-- The text without a line end right in front of it. -/
def dropNewline (cs : List Char) : List Char := (newline? cs).getD cs

theorem length_dropNewline (cs : List Char) : (dropNewline cs).length ≤ cs.length := by
  unfold dropNewline
  cases h : newline? cs with
  | none => simp
  | some rest => simpa using Nat.le_of_lt (length_newline? h)

/-- Reads a quoted text behind the first character of its opening mark.  A line end right behind
    a triple mark is no part of the text. -/
def readText (mark : Char) (cs : List Char) : Option (Found cs String) :=
  match cs with
  | a :: b :: rest =>
    if a = mark ∧ b = mark then
      (readQuoted ⟨mark, mark == '"', true⟩ [] (dropNewline rest)).map fun f =>
        ((f.within (length_dropNewline rest)).behind b).behind a
    else readLineText mark (a :: b :: rest)
  | cs => readLineText mark cs

/-! ### Keys -/

/-- Whether a character may stand in a bare key. -/
def isBare (c : Char) : Bool := c.isAlphanum || c == '-' || c == '_'

/-- Reads a key. -/
def readKey (cs : List Char) : Option (Found cs String) :=
  match cs with
  | [] => none
  | c :: rest =>
    if c = '"' ∨ c = '\'' then (readLineText c rest).map (·.behind c)
    else if isBare c then
      some (.headWhile (String.ofList (c :: rest.takeWhile isBare)) isBare c rest)
    else none

/-- How many keys a path may have. -/
def maxPath : Nat := 79

/-- Reads the keys of a path, with space around each of them. -/
def readKeys (cs : List Char) : Option (Found cs (List String)) := do
  let ⟨key, r, hr⟩ ← (readKey (skipSpace cs)).map (·.within (length_skipSpace cs))
  match h : skipSpace r with
  | '.' :: rest =>
    have hl : rest.length < cs.length := Nat.lt_trans (length_of_skipSpace h) hr
    return ((← readKeys rest).map (key :: ·)).past hl
  | _ => return ⟨[key], skipSpace r, Nat.lt_of_le_of_lt (length_skipSpace r) hr⟩
termination_by cs.length

/-- Reads a path. -/
def readPath (cs : List Char) : Option (Found cs (List String)) :=
  (readKeys cs).filter (·.value.length ≤ maxPath)

end MathAgents.Toml
