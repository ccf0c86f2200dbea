import MathAgents.Expr.Basic
import MathAgents.Text.Letter

namespace MathAgents.Expr

/-!
# Tokens of arithmetic expressions

`Token.scan` cuts a text into numbers, operators and parentheses; blanks separate tokens and
mean nothing else.  The first character sequence that is no token ends the scan with a fault.
-/

/-- A token. -/
inductive Token where
  | number (text : String)
  | plus
  | minus
  | star
  | slash
  | opening
  | closing
  deriving DecidableEq, Repr

/-- Why a text cannot be cut into tokens. -/
inductive ScanFault where
  /-- An operator that expressions do not have. -/
  | unsupported (symbol : String)
  /-- A point without any digit. -/
  | malformedNumber (text : String)
  /-- A variable or a function. -/
  | name (text : String)
  /-- A character of any other kind. -/
  | stray (c : Char)
  deriving DecidableEq, Repr

/-- Characters that elsewhere stand for operators, and that expressions do not have. -/
def isForeignOperator (c : Char) : Bool :=
  ['%', '^', '&', '|', '<', '>', '=', '!', '~', '@', '×', '÷'].contains c

/-- Whether a character may start a name. -/
def startsName (c : Char) : Bool := Text.isLetter c || c == '_'

/-- Whether a character may stand inside a name. -/
def continuesName (c : Char) : Bool := Text.isLetterOrNumeral c || c == '_'

/-- Whether a character may start a number. -/
def startsNumber (c : Char) : Bool := c.isDigit || c == '.'

/-- The longest number in front of a text: digits, with at most one point among them. -/
def takeNumber (cs : List Char) : List Char :=
  let whole := cs.takeWhile Char.isDigit
  match cs.dropWhile Char.isDigit with
  | '.' :: r => whole ++ '.' :: r.takeWhile Char.isDigit
  | _ => whole

/-- What the longest number in front of a text leaves. -/
def dropNumber (cs : List Char) : List Char :=
  match cs.dropWhile Char.isDigit with
  | '.' :: r => r.dropWhile Char.isDigit
  | r => r

theorem takeNumber_append_dropNumber (cs : List Char) :
    takeNumber cs ++ dropNumber cs = cs := by
  have h : cs.takeWhile Char.isDigit ++ cs.dropWhile Char.isDigit = cs :=
    List.takeWhile_append_dropWhile
  unfold takeNumber dropNumber
  split
  · next r hr =>
    rw [hr] at h
    rw [List.append_assoc, List.cons_append, List.takeWhile_append_dropWhile, h]
  · exact h

/-- A number that starts in front of a text takes at least one character of it. -/
theorem length_dropNumber {c : Char} (cs : List Char) (hc : startsNumber c) :
    (dropNumber (c :: cs)).length < (c :: cs).length := by
  have key (p : Char → Bool) (l : List Char) : (l.dropWhile p).length ≤ l.length :=
    (List.dropWhile_sublist p).length_le
  unfold dropNumber
  split
  · next r hr =>
    have h := key Char.isDigit (c :: cs)
    rw [hr, List.length_cons] at h
    have := key Char.isDigit r
    omega
  · next r hr =>
    by_cases hd : c.isDigit
    · have := key Char.isDigit cs
      simp only [List.dropWhile_cons, hd, if_true, List.length_cons]
      omega
    · have hp : c = '.' := by simpa [startsNumber, hd] using hc
      exact absurd (by simp [hp]) (hr cs)

namespace Token

/-- The tokens of a text. -/
def scan (cs : List Char) : Except ScanFault (List Token) :=
  match cs with
  | [] => .ok []
  | c :: r =>
    if Text.isBlankChar c then scan r
    else if hc : startsNumber c then
      let text := takeNumber (c :: r)
      if text.any Char.isDigit then
        have : (dropNumber (c :: r)).length < r.length + 1 := length_dropNumber r hc
        (scan (dropNumber (c :: r))).map (.number (String.ofList text) :: ·)
      else .error (.malformedNumber (String.ofList text))
    else if c = '+' then (scan r).map (.plus :: ·)
    else if c = '-' then (scan r).map (.minus :: ·)
    else if c = '*' then
      if r.head? = some '*' then .error (.unsupported "**") else (scan r).map (.star :: ·)
    else if c = '/' then
      if r.head? = some '/' then .error (.unsupported "//") else (scan r).map (.slash :: ·)
    else if c = '(' then (scan r).map (.opening :: ·)
    else if c = ')' then (scan r).map (.closing :: ·)
    else if isForeignOperator c then .error (.unsupported (String.singleton c))
    else if startsName c then .error (.name (String.ofList (c :: r.takeWhile continuesName)))
    else .error (.stray c)
termination_by cs.length

/-- How a token is named in messages. -/
def describe : Token → String
  | .number text => s!"number '{text}'"
  | .plus => "'+'"
  | .minus => "'-'"
  | .star => "'*'"
  | .slash => "'/'"
  | .opening => "'('"
  | .closing => "')'"

end Token

namespace ScanFault

/-- The detail that a malformed text is reported with. -/
def detail : ScanFault → String
  | .unsupported symbol => s!"Unsupported operator: {symbol}"
  | .malformedNumber text => s!"malformed number '{text}'"
  | .name text =>
    s!"unsupported expression component '{text}'; variables and functions are not allowed"
  | .stray c => s!"unexpected character '{c}'"

end ScanFault

end MathAgents.Expr
