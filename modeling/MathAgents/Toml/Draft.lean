import MathAgents.Toml.Basic

namespace MathAgents.Toml

/-!
# Tables under construction

A text builds its tables line by line: a header opens a table, and an assignment puts a value at
a path inside it.  How a table came about decides what may still be added to it, so a draft keeps
that beside the entries; `Draft.finish` forgets it.  No key is ever assigned twice.
-/

/-- How a table came about. -/
inductive Origin where
  /-- A header names it. -/
  | opened
  /-- A header names a table inside it. -/
  | implied
  /-- An assignment to a path goes through it. -/
  | dotted
  deriving DecidableEq, Repr

/-- What a key stands for while tables are under construction. -/
inductive Node where
  | value (v : Value)
  | table (origin : Origin) (entries : List (String × Node))
  /-- The tables that repeated headers open under one key, the first one first. -/
  | tables (elements : List (List (String × Node)))

/-- The entries of a table under construction. -/
abbrev Entries := List (String × Node)

/-- A table under construction, with how it came about. -/
structure Draft where
  origin : Origin := .opened
  entries : Entries := []

namespace Draft

/-- The table with the node under a key replaced, or added if there is none. -/
def put (d : Draft) (key : String) (node : Node) : Draft :=
  if (d.entries.lookup key).isSome then
    { d with entries := d.entries.map fun e => if e.1 = key then (key, node) else e }
  else { d with entries := d.entries ++ [(key, node)] }

/-- Changes the table at a path.  Tables that are missing on the way come about as `missing`
    says; if that is by an assignment, the way leads through no table that a header names.  Of
    repeated tables the way leads through the last one. -/
def change (missing : Origin) (f : Draft → Option Draft) : List String → Draft → Option Draft
  | [], d => f d
  | key :: path, d => do
    let node ← match d.entries.lookup key with
      | none => do
        let inner ← change missing f path ⟨missing, []⟩
        some (.table inner.origin inner.entries)
      | some (.value _) => none
      | some (.table origin entries) =>
        if missing = .dotted ∧ origin = .opened then none
        else do
          let inner ← change missing f path ⟨origin, entries⟩
          some (.table inner.origin inner.entries)
      | some (.tables elements) => do
        let inner ← change missing f path ⟨.opened, ← elements.getLast?⟩
        some (.tables (elements.dropLast ++ [inner.entries]))
    return d.put key node

/-- Puts a value under a new key.  A table that came about by assignments to paths takes values
    by such assignments only, and any other table by assignments to a single key only. -/
def assignKey (atPath : Bool) (key : String) (v : Value) (d : Draft) : Option Draft :=
  if (d.origin == .dotted) != atPath || (d.entries.lookup key).isSome then none
  else some (d.put key (.value v))

/-- Assigns a value to a path. -/
def assign (path : List String) (v : Value) (d : Draft) : Option Draft := do
  let key ← path.getLast?
  let way := path.dropLast
  d.change .dotted (assignKey (!way.isEmpty) key v) way

/-- Opens the table that a header names. -/
def openKey (key : String) (d : Draft) : Option Draft :=
  match d.entries.lookup key with
  | none => some (d.put key (.table .opened []))
  | some (.table .implied entries) => some (d.put key (.table .opened entries))
  | some _ => none

/-- Adds one more table to those of a repeated header. -/
def repeatKey (key : String) (d : Draft) : Option Draft :=
  match d.entries.lookup key with
  | none => some (d.put key (.tables [[]]))
  | some (.tables elements) => some (d.put key (.tables (elements ++ [[]])))
  | some _ => none

/-- Opens the table at a path, once or as one more of several. -/
def openTable (repeated : Bool) (path : List String) (d : Draft) : Option Draft := do
  let key ← path.getLast?
  d.change .implied (if repeated then repeatKey key else openKey key) path.dropLast

/-- Assigns a value to a path inside the table at another path, which a header has opened. -/
def assignIn (header path : List String) (v : Value) (d : Draft) : Option Draft :=
  d.change .implied (assign path v) header

end Draft

mutual

/-- The value that a node stands for. -/
def Node.finish : Node → Value
  | .value v => v
  | .table _ entries => .table (finishEntries entries)
  | .tables elements => .array (finishElements elements)

/-- The finished table with some entries. -/
def finishEntries : Entries → Table
  | [] => []
  | (key, node) :: rest => (key, node.finish) :: finishEntries rest

/-- The finished tables of a repeated header. -/
def finishElements : List Entries → List Value
  | [] => []
  | entries :: rest => .table (finishEntries entries) :: finishElements rest

end

/-- The finished table. -/
def Draft.finish (d : Draft) : Table := finishEntries d.entries

end MathAgents.Toml
