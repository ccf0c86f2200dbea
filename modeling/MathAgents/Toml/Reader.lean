import MathAgents.Toml.Draft
import MathAgents.Toml.Quoted
import MathAgents.Toml.Scalar

namespace MathAgents.Toml

/-!
# Reading TOML texts

`parse` reads a text as a table, or finds that it is not TOML.  A text is a sequence of lines:
empty ones, headers, which open a table, and assignments to the table that was opened last.
-/

open Text (Found)

/-- A reader of values. -/
abbrev ValueReader := (cs : List Char) → Option (Found cs Value)

/-! ### Values -/

/-- Reads a value without quotes and brackets.  A date may be followed by a space and a time. -/
def readWord (cs : List Char) : Option (Found cs Value) :=
  match h : splitWord cs with
  | ([], _) => none
  | (c :: word, rest) =>
    have hr : rest.length < cs.length := by
      have := length_splitWord cs
      simp only [h, List.length_cons] at this
      omega
    let plain : Option (Found cs Value) := (Value.ofWord? (c :: word)).map (⟨·, rest, hr⟩)
    match rest, hr with
    | ' ' :: r, hr =>
      let time := (splitWord r).1
      if dropDate? (c :: word) = some [] ∧ isTimeWithOffset time then
        (Value.ofWord? (c :: word ++ 'T' :: time)).map (⟨·, (splitWord r).2, by
          have := length_splitWord r
          rw [List.length_cons] at hr
          omega⟩)
      else plain
    | _, _ => plain

theorem length_of_item {cs s r t : List Char} {c d : Char} (hs : skipLayout cs = c :: s)
    (hr : r.length < (c :: s).length) (ht : skipLayout r = d :: t) : t.length < cs.length :=
  Nat.lt_trans (Nat.lt_of_lt_of_le (length_of_skipLayout ht) (Nat.le_of_lt_succ hr))
    (length_of_skipLayout hs)

/-- Reads the items of an array up to its closing bracket, which stands behind an item or behind
    a comma. -/
def readItems (item : ValueReader) (cs : List Char) : Option (Found cs (List Value)) :=
  match hs : skipLayout cs with
  | [] => none
  | c :: s =>
    if c = ']' then some ⟨[], s, length_of_skipLayout hs⟩
    else do
      let ⟨v, r, hr⟩ ← item (c :: s)
      match ht : skipLayout r with
      | [] => none
      | d :: t =>
        have h : t.length < cs.length := length_of_item hs hr ht
        if d = ']' then return ⟨[v], t, h⟩
        else if d = ',' then return ((← readItems item t).map (v :: ·)).past h
        else none
termination_by cs.length

/-- Reads an assignment up to the end of its value. -/
def readAssignment (value : ValueReader) (cs : List Char) :
    Option (Found cs (List String × Value)) := do
  let ⟨path, r, hr⟩ ← readPath cs
  match r, hr with
  | '=' :: s, hr =>
    let v ← value (skipSpace s)
    return (((v.map (path, ·)).within (length_skipSpace s)).behind '=').past hr
  | _, _ => none

/-- Reads the assignments of a table in braces, of which there is at least one, and its closing
    brace. -/
def readInline (value : ValueReader) (d : Draft) (cs : List Char) : Option (Found cs Value) := do
  let ⟨(path, v), r, hr⟩ ← readAssignment value cs
  let d ← d.assign path v
  match hs : skipSpace r with
  | [] => none
  | c :: s =>
    have h : s.length < cs.length := Nat.lt_trans (length_of_skipSpace hs) hr
    if c = '}' then return ⟨.table d.finish, s, h⟩
    else if c = ',' then return (← readInline value d s).past h
    else none
termination_by cs.length

/-- Reads a table in braces behind its opening brace. -/
def readBraces (value : ValueReader) (cs : List Char) : Option (Found cs Value) :=
  match hs : skipSpace cs with
  | '}' :: s =>
    some ⟨.table [], s, length_of_skipSpace hs⟩
  | _ => readInline value {} cs

/-- Reads the value that starts with the first character of a text.  `nested` reads the values
    inside brackets and braces; there is none where nesting has reached its limit. -/
def readStart (nested : Option ValueReader) (cs : List Char) : Option (Found cs Value) :=
  match cs with
  | [] => none
  | c :: r =>
    if c = '"' ∨ c = '\'' then (readText c r).map fun f => (f.map .string).behind c
    else if c = '[' then do
      let items ← readItems (← nested) r
      return (items.map .array).behind c
    else if c = '\x7b' then do
      let table ← readBraces (← nested) r
      return table.behind c
    else readWord (c :: r)

/-- Reads a value with at most `levels` brackets and braces around any of its parts. -/
def readValue : (levels : Nat) → ValueReader
  | 0, cs => readStart none cs
  | levels + 1, cs => readStart (some (readValue levels)) cs

/-- How deeply brackets and braces may be nested. -/
def maxNesting : Nat := 79

/-! ### Lines -/

/-- A line of a text. -/
inductive Line where
  | header (path : List String)
  /-- A header that opens one more table under its path. -/
  | repeatedHeader (path : List String)
  | assignment (path : List String) (v : Value)

theorem length_of_header {n : Nat} {cs r rest : List Char} (hr : r.length < cs.length)
    (h : lineEnd? (r.drop n) = some rest) : rest.length < cs.length :=
  Nat.lt_of_le_of_lt (Nat.le_trans (length_lineEnd? h) (List.drop_sublist n r).length_le) hr

/-- Reads the rest of a header behind its opening brackets: a path, the closing brackets, and the
    end of the line. -/
def readHeader (closing cs : List Char) : Option (Found cs (List String)) := do
  let ⟨path, r, hr⟩ ← readPath cs
  if closing.isPrefixOf r then
    match h : lineEnd? (r.drop closing.length) with
    | some rest => return ⟨path, rest, length_of_header hr h⟩
    | none => none
  else none

/-- Reads a line that is not empty, up to its end. -/
def readLine (cs : List Char) : Option (Found cs Line) :=
  match cs with
  | '[' :: '[' :: r => (readHeader [']', ']'] r).map fun f =>
    ((f.map Line.repeatedHeader).behind '[').behind '['
  | '[' :: r => (readHeader [']'] r).map fun f => (f.map Line.header).behind '['
  | cs => do
    let ⟨(path, v), r, hr⟩ ← readAssignment (readValue maxNesting) cs
    match h : lineEnd? r with
    | some rest =>
      return ⟨.assignment path v, rest, Nat.lt_of_le_of_lt (length_lineEnd? h) hr⟩
    | none => none

/-- Reads the lines of a text; empty lines and comments are passed over. -/
def readLines (cs : List Char) : Option (List Line) :=
  match hs : skipSpace cs with
  | [] => some []
  | c :: s =>
    have hl : s.length < cs.length := length_of_skipSpace hs
    match hn : newline? (c :: s) with
    | some rest =>
      have : rest.length < cs.length :=
        Nat.lt_of_le_of_lt (Nat.le_of_lt_succ (length_newline? hn)) hl
      readLines rest
    | none =>
      if c = '#' then
        have : (s.dropWhile isPrintable).length < cs.length :=
          Nat.lt_of_le_of_lt (Text.length_dropWhile isPrintable s) hl
        readLines (s.dropWhile isPrintable)
      else do
        let ⟨line, r, hr⟩ ← readLine (c :: s)
        have : r.length < cs.length := Nat.lt_of_le_of_lt (Nat.le_of_lt_succ hr) hl
        return line :: (← readLines r)
termination_by cs.length

/-! ### Texts -/

/-- The table that lines build, with the path of the header above the first of them. -/
def Draft.follow (header : List String) : List Line → Draft → Option Draft
  | [], d => some d
  | .header path :: lines, d => do follow path lines (← d.openTable false path)
  | .repeatedHeader path :: lines, d => do follow path lines (← d.openTable true path)
  | .assignment path v :: lines, d => do follow header lines (← d.assignIn header path v)

/-- A text without the mark that may stand in front of it to tell its encoding. -/
def dropMark : List Char → List Char
  | '\uFEFF' :: cs => cs
  | cs => cs

/-- The table that a text denotes. -/
def parse (text : String) : Option Table := do
  let lines ← readLines (dropMark text.toList)
  return (← Draft.follow [] lines {}).finish

end MathAgents.Toml
