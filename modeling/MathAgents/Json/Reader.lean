import MathAgents.Json.Numeral
import MathAgents.Text.Found
import MathAgents.Text.Hexadecimal

namespace MathAgents.Json

/-!
# Reading JSON texts

`read` reads a text as one JSON value, fields in the order in which they stand; `parse` is the
same value in canonical form.  Arrays and objects may be nested as deeply as the caller allows.
-/

open Text (Found length_dropWhile)

/-- A reader of values of a type. -/
abbrev Reader (α : Type) := (cs : List Char) → Except Fault (Found cs α)

/-- Whether a character may stand between the parts of a text. -/
def isSpace (c : Char) : Bool := c == ' ' || c == '\n' || c == '\t' || c == '\x0d'

/-- A text without the space in front of it. -/
def skipSpace (cs : List Char) : List Char := cs.dropWhile isSpace

theorem length_skipSpace (cs : List Char) : (skipSpace cs).length ≤ cs.length :=
  length_dropWhile isSpace cs

theorem length_of_skipSpace {cs s : List Char} {c : Char} (h : skipSpace cs = c :: s) :
    s.length < cs.length := by
  have hl := length_skipSpace cs
  rw [h] at hl
  exact hl

/-! ### Words and strings -/

/-- Reads the letters of a word whose first letter was read before. -/
def readWord (word : List Char) (cs : List Char) : Except Fault (List Char) :=
  match word, cs with
  | [], cs => .ok cs
  | _ :: _, [] => .error (.at .endInValue [])
  | w :: ws, c :: cs => if w = c then readWord ws cs else .error (.at .expectedIdent (c :: cs))

theorem length_readWord {word cs rest : List Char} (h : readWord word cs = .ok rest) :
    rest.length ≤ cs.length := by
  fun_induction readWord word cs with
  | case1 cs => simp_all
  | case2 => simp at h
  | case3 w ws cs ih => have := ih h; simp only [List.length_cons]; omega
  | case4 => simp at h

/-- Reads four bytes as hexadecimal digits. -/
def readHex (cs : List Char) : Except Fault (Found cs Nat) :=
  if byteCount (cs.take 4) < 4 then .error (.at .endInString [])
  else match cs with
    | a :: b :: c :: d :: rest =>
      match Text.hexNat? [a, b, c, d] with
      | some n => .ok ((((Found.head n d rest).behind c).behind b).behind a)
      | none => .error ⟨.invalidEscape, byteCount (a :: b :: c :: d :: rest) - 4⟩
    | cs => .error ⟨.invalidEscape, byteCount cs - 4⟩

/-- Whether a 16-bit unit is the first of a surrogate pair. -/
def isLeading (n : Nat) : Bool := 0xD800 ≤ n && n ≤ 0xDBFF

/-- Whether a 16-bit unit is the second of a surrogate pair. -/
def isTrailing (n : Nat) : Bool := 0xDC00 ≤ n && n ≤ 0xDFFF

/-- Reads the second half of a surrogate pair, which has to be escaped like the first. -/
def readTrailing (leading : Nat) (cs : List Char) : Except Fault (Found cs Char) :=
  match cs with
  | [] => .error (.at .endInString [])
  | '\\' :: [] => .error (.at .endInString [])
  | '\\' :: 'u' :: digits => do
    let found ← readHex digits
    if isTrailing found.value then
      let pair (n : Nat) := Char.ofNat ((leading - 0xD800) * 0x400 + (n - 0xDC00) + 0x10000)
      return ((found.map pair).behind 'u').behind '\\'
    else throw (.before .loneSurrogate found.rest)
  | '\\' :: c :: rest => .error (.at .unfinishedEscape (c :: rest))
  | c :: rest => .error (.at .unfinishedEscape (c :: rest))

/-- Reads an escaped character behind its backslash. -/
def readEscape (cs : List Char) : Except Fault (Found cs Char) :=
  match cs with
  | [] => .error (.at .endInString [])
  | 'u' :: digits => do
    let found ← readHex digits
    if isTrailing found.value then throw (.before .loneSurrogate found.rest)
    else if isLeading found.value then
      return ((← readTrailing found.value found.rest).past found.shorter).behind 'u'
    else return (found.map Char.ofNat).behind 'u'
  | c :: rest =>
    let plain (d : Char) : Except Fault (Found (c :: rest) Char) := .ok (.head d c rest)
    if c = '"' then plain '"'
    else if c = '\\' then plain '\\'
    else if c = '/' then plain '/'
    else if c = 'b' then plain '\x08'
    else if c = 'f' then plain '\x0c'
    else if c = 'n' then plain '\n'
    else if c = 'r' then plain '\x0d'
    else if c = 't' then plain '\t'
    else .error (.at .invalidEscape (c :: rest))

/-- Reads a string behind its opening quote; `acc` holds what was read, backwards. -/
def readString (acc : List Char) (cs : List Char) : Except Fault (Found cs String) :=
  match cs with
  | [] => .error (.at .endInString [])
  | c :: rest =>
    if c = '"' then .ok (.head (String.ofList acc.reverse) c rest)
    else if c = '\\' then
      match readEscape rest with
      | .error fault => .error fault
      | .ok ⟨d, rest', h⟩ =>
        match readString (d :: acc) rest' with
        | .error fault => .error fault
        | .ok found => .ok ((found.past h).behind c)
    else if c.toNat < 0x20 then .error (.at .controlCharacter (c :: rest))
    else
      match readString (c :: acc) rest with
      | .error fault => .error fault
      | .ok found => .ok (found.behind c)
termination_by cs.length

/-! ### Arrays and objects -/

/-- Reads the items of an array, of which there is at least one, and its closing bracket. -/
def readItems (item : Reader Json) (cs : List Char) : Except Fault (Found cs (List Json)) := do
  let ⟨v, r, hr⟩ ← item cs
  match hs : skipSpace r with
  | [] => throw (.at .endInList [])
  | c :: s =>
    have hl : s.length < cs.length := Nat.lt_trans (length_of_skipSpace hs) hr
    if c = ']' then return ⟨[v], s, hl⟩
    else if c = ',' then
      match skipSpace s with
      | [] => throw (.at .endInValue [])
      | d :: t =>
        if d = ']' then throw (.at .trailingComma (d :: t))
        else
          return ((← readItems item s).map (v :: ·)).past hl
    else throw (.at .expectedCommaOrBracket (c :: s))
termination_by cs.length

/-- Reads a field: its key, whose opening quote was read before, a colon and its value. -/
def readField (value : Reader Json) (cs : List Char) :
    Except Fault (Found cs (String × Json)) := do
  let ⟨key, r, hr⟩ ← readString [] cs
  match hs : skipSpace r with
  | [] => throw (.at .endInObject [])
  | c :: s =>
    if c = ':' then
      return (((← value s).map (key, ·)).past (length_of_skipSpace hs)).past hr
    else throw (.at .expectedColon (c :: s))

/-- Reads the fields of an object, of which there is at least one and whose first quote was read
    before, and its closing brace. -/
def readFields (value : Reader Json) (cs : List Char) : Except Fault (Found cs Fields) := do
  let ⟨field, r, hr⟩ ← readField value cs
  match hs : skipSpace r with
  | [] => throw (.at .endInObject [])
  | c :: s =>
    have hl : s.length < cs.length := Nat.lt_trans (length_of_skipSpace hs) hr
    if c = '}' then return ⟨[field], s, hl⟩
    else if c = ',' then
      match ht : skipSpace s with
      | [] => throw (.at .endInValue [])
      | d :: t =>
        have hl' : t.length < cs.length := Nat.lt_trans (length_of_skipSpace ht) hl
        if d = '"' then
          return ((← readFields value t).map (field :: ·)).past hl'
        else if d = '}' then throw (.at .trailingComma (d :: t))
        else throw (.at .keyNotString (d :: t))
    else throw (.at .expectedCommaOrBrace (c :: s))
termination_by cs.length

/-- Reads an array behind its opening bracket. -/
def readArray (item : Reader Json) (cs : List Char) : Except Fault (Found cs Json) :=
  match hs : skipSpace cs with
  | [] => .error (.at .endInList [])
  | c :: s =>
    if c = ']' then .ok ⟨.arr [], s, length_of_skipSpace hs⟩
    else (readItems item cs).map (·.map .arr)

/-- Reads an object behind its opening brace. -/
def readObject (value : Reader Json) (cs : List Char) : Except Fault (Found cs Json) :=
  match hs : skipSpace cs with
  | [] => .error (.at .endInObject [])
  | c :: s =>
    have hl : s.length < cs.length := length_of_skipSpace hs
    if c = '}' then .ok ⟨.obj [], s, hl⟩
    else if c = '"' then (readFields value s).map fun f => (f.map .obj).past hl
    else .error (.at .keyNotString (c :: s))

/-! ### Values -/

/-- Reads the number in front of a text. -/
def readNumberFound (negative : Bool) (cs : List Char) : Except Fault (Found cs Json) :=
  match h : readNumber negative cs with
  | .error fault => .error fault
  | .ok (j, rest) => .ok ⟨j, rest, length_readNumber h⟩

/-- Reads a word that stands for a value, behind its first letter. -/
def readWordFound (first : Char) (j : Json) (word cs : List Char) :
    Except Fault (Found (first :: cs) Json) :=
  match h : readWord word cs with
  | .error fault => .error fault
  | .ok rest => .ok ⟨j, rest, Nat.lt_succ_of_le (length_readWord h)⟩

/-- Reads the value that starts with the first character of a text.  `nested` reads the values
    inside an array or an object; there is none where nesting has reached its limit. -/
def readStart (nested : Option (Reader Json)) (cs : List Char) : Except Fault (Found cs Json) :=
  match cs with
  | [] => .error (.at .endInValue [])
  | c :: r =>
    if c = '"' then (readString [] r).map fun f => (f.map .str).behind c
    else if c = '[' then
      match nested with
      | none => .error (.at .nestedTooDeeply (c :: r))
      | some value => (readArray value r).map (·.behind c)
    else if c = '{' then
      match nested with
      | none => .error (.at .nestedTooDeeply (c :: r))
      | some value => (readObject value r).map (·.behind c)
    else if c = '-' then (readNumberFound true r).map (·.behind c)
    else if c.isDigit then readNumberFound false (c :: r)
    else if c = 't' then readWordFound c (.bool true) ['r', 'u', 'e'] r
    else if c = 'f' then readWordFound c (.bool false) ['a', 'l', 's', 'e'] r
    else if c = 'n' then readWordFound c .null ['u', 'l', 'l'] r
    else .error (.at .expectedValue (c :: r))

/-- Reads a value with at most `levels` arrays and objects around any of its parts. -/
def readValue : (levels : Nat) → Reader Json
  | 0, cs => (readStart none (skipSpace cs)).map (·.within (length_skipSpace cs))
  | levels + 1, cs =>
    (readStart (some (readValue levels)) (skipSpace cs)).map (·.within (length_skipSpace cs))

/-- Reads a text that holds one value and nothing else. -/
def read (levels : Nat) (cs : List Char) : Except Fault Json := do
  let found ← readValue levels cs
  match skipSpace found.rest with
  | [] => return found.value
  | c :: r => throw (.at .trailingCharacters (c :: r))

/-- How deeply arrays and objects may be nested in a text. -/
def maxNesting : Nat := 127

/-- The value of a text in canonical form. -/
def parse (text : String) : Except Fault Json := (read maxNesting text.toList).map canonical

end MathAgents.Json
