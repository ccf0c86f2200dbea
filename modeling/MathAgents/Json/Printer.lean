import MathAgents.Decimal.Notation
import MathAgents.Json.Basic
import MathAgents.Json.Quoted

namespace MathAgents.Json

/-!
# Writing JSON values

`print` writes a value on one line without any blanks; `printPretty` writes one item or field a
line, indented by two spaces a level.  Fields are written in the order in which they stand.
-/

/-- A number without a fraction. -/
def printInt (n : Int) : List Char :=
  if n < 0 then '-' :: Nat.toDigits 10 n.natAbs else Nat.toDigits 10 n.natAbs

mutual

/-- The compact text of a value. -/
def printChars : Json → List Char
  | .null => "null".toList
  | .bool b => (if b then "true" else "false").toList
  | .int n => printInt n
  | .float x => (Decimal.Notation.data.write x).toList
  | .str s => quote s.toList
  | .arr items => '[' :: printItems items
  | .obj fields => '{' :: printFields fields

/-- The items of an array with its closing bracket. -/
def printItems : List Json → List Char
  | [] => [']']
  | [item] => printChars item ++ [']']
  | item :: rest => printChars item ++ ',' :: printItems rest

/-- The fields of an object with its closing brace. -/
def printFields : List (String × Json) → List Char
  | [] => ['}']
  | [(key, value)] => quote key.toList ++ ':' :: printChars value ++ ['}']
  | (key, value) :: rest =>
    quote key.toList ++ ':' :: printChars value ++ ',' :: printFields rest

end

/-- The compact text of a value. -/
def print (j : Json) : String := String.ofList (printChars j)

/-- A new line at a level of indentation. -/
def newline (level : Nat) : List Char := '\n' :: List.replicate (2 * level) ' '

mutual

/-- The text of a value at a level of indentation, one item or field a line. -/
def prettyChars (level : Nat) : Json → List Char
  | .arr (item :: rest) => '[' :: newline (level + 1) ++ prettyItems level (item :: rest)
  | .obj (field :: rest) => '{' :: newline (level + 1) ++ prettyFields level (field :: rest)
  | .arr [] => ['[', ']']
  | .obj [] => ['{', '}']
  | .null => printChars .null
  | .bool b => printChars (.bool b)
  | .int n => printChars (.int n)
  | .float x => printChars (.float x)
  | .str s => printChars (.str s)

/-- The items of an array, a line each, with its closing bracket. -/
def prettyItems (level : Nat) : List Json → List Char
  | [] => newline level ++ [']']
  | [item] => prettyChars (level + 1) item ++ newline level ++ [']']
  | item :: rest =>
    prettyChars (level + 1) item ++ ',' :: newline (level + 1) ++ prettyItems level rest

/-- The fields of an object, a line each, with its closing brace. -/
def prettyFields (level : Nat) : List (String × Json) → List Char
  | [] => newline level ++ ['}']
  | [(key, value)] =>
    quote key.toList ++ ':' :: ' ' :: prettyChars (level + 1) value ++ newline level ++ ['}']
  | (key, value) :: rest =>
    quote key.toList ++ ':' :: ' ' :: prettyChars (level + 1) value ++
      ',' :: newline (level + 1) ++ prettyFields level rest

end

/-- The text of a value, one item or field a line. -/
def printPretty (j : Json) : String := String.ofList (prettyChars 0 j)

example : print (.obj [("b", .arr [.int (-1), .null]), ("a", .str "x\n")]) =
    "\x7b\"b\":[-1,null],\"a\":\"x\\n\"\x7d" := by decide +kernel
example : printPretty (.obj [("k", .arr [.int 1, .arr []])]) =
    "\x7b\n  \"k\": [\n    1,\n    []\n  ]\n\x7d" := by decide +kernel

end MathAgents.Json
