import MathAgents.Text.Found

namespace MathAgents.Toml

/-!
# Space, line ends and comments

What may stand between the parts of a TOML text.  Within a line that is space; at the end of a
line a comment; inside an array line ends as well.
-/

open Text (length_dropWhile)

/-- Whether a character is space within a line. -/
def isSpace (c : Char) : Bool := c == ' ' || c == '\t'

/-- A text without the space in front of it. -/
def skipSpace (cs : List Char) : List Char := cs.dropWhile isSpace

theorem length_skipSpace (cs : List Char) : (skipSpace cs).length ≤ cs.length :=
  length_dropWhile isSpace cs

theorem length_of_skipSpace {cs s : List Char} {c : Char} (h : skipSpace cs = c :: s) :
    s.length < cs.length := by
  have hl := length_skipSpace cs
  rw [h] at hl
  exact hl

/-- Whether a character may stand in a comment or a string: a tab, or any character that is not
    an ASCII control character. -/
def isPrintable (c : Char) : Bool := c == '\t' || (' ' ≤ c && c != '\x7f')

/-- The text behind the line end in front of a text. -/
def newline? : List Char → Option (List Char)
  | '\n' :: rest => some rest
  | '\r' :: '\n' :: rest => some rest
  | _ => none

theorem length_newline? {cs rest : List Char} (h : newline? cs = some rest) :
    rest.length < cs.length := by
  unfold newline? at h
  split at h
  · cases h
    exact Nat.lt_succ_self _
  · cases h
    exact Nat.lt_succ_of_lt (Nat.lt_succ_self _)
  · cases h

/-- The text behind a comment, if one stands in front of a text. -/
def skipComment : List Char → List Char
  | '#' :: rest => rest.dropWhile isPrintable
  | cs => cs

/-- The text behind the end of a line: space, perhaps a comment, and a line end or the end of the
    text. -/
def lineEnd? (cs : List Char) : Option (List Char) :=
  match skipComment (skipSpace cs) with
  | [] => some []
  | c :: rest => newline? (c :: rest)

theorem length_skipComment (cs : List Char) : (skipComment cs).length ≤ cs.length := by
  unfold skipComment
  split
  · next rest => exact Nat.le_trans (length_dropWhile _ rest) (Nat.le_succ _)
  · exact Nat.le_refl _

theorem length_lineEnd? {cs rest : List Char} (h : lineEnd? cs = some rest) :
    rest.length ≤ cs.length := by
  have h₁ := length_skipComment (skipSpace cs)
  have h₂ := length_skipSpace cs
  unfold lineEnd? at h
  split at h
  · simp_all
  · next c r hc =>
    have h₃ := length_newline? h
    rw [hc] at h₁
    omega

/-- A text without the space and line ends in front of it, and without comments if they are
    allowed; `inComment` says whether a comment has been opened. -/
def skipLines (comments inComment : Bool) : List Char → List Char
  | [] => []
  | c :: cs =>
    if c = '\n' then skipLines comments false cs
    else if c = '\r' ∧ cs.head? = some '\n' then skipLines comments inComment cs
    else if inComment then
      if isPrintable c then skipLines comments true cs else c :: cs
    else if isSpace c then skipLines comments false cs
    else if c = '#' ∧ comments then skipLines comments true cs
    else c :: cs

theorem length_skipLines (comments inComment : Bool) (cs : List Char) :
    (skipLines comments inComment cs).length ≤ cs.length := by
  fun_induction skipLines comments inComment cs with
  | case1 | case5 | case8 => exact Nat.le_refl _
  | case2 | case3 | case4 | case6 | case7 => next ih => exact Nat.le_succ_of_le ih

/-- A text without the space, line ends and comments in front of it. -/
def skipLayout (cs : List Char) : List Char := skipLines true false cs

theorem length_skipLayout (cs : List Char) : (skipLayout cs).length ≤ cs.length :=
  length_skipLines true false cs

theorem length_of_skipLayout {cs s : List Char} {c : Char} (h : skipLayout cs = c :: s) :
    s.length < cs.length := by
  have hl := length_skipLayout cs
  rw [h] at hl
  exact hl

end MathAgents.Toml
