import MathAgents.Decimal.Numeral
import MathAgents.Text.Hexadecimal
import MathAgents.Toml.Basic
import MathAgents.Toml.Layout

namespace MathAgents.Toml

/-!
# Values without quotes and brackets

The words and numerals for truth values, integers, floats and moments.  Such a word ends where
space, a line end, a comment, a comma or a closing bracket begins, so that it is judged as a
whole: `ofWord?`.
-/

/-! ### Digits -/

/-- The digits of a word of digits, where one underscore may stand between two of them. -/
def digits? (isDigit : Char → Bool) : List Char → Option (List Char)
  | [] => none
  | c :: cs =>
    if isDigit c then
      match cs with
      | [] => some [c]
      | '_' :: r => (digits? isDigit r).map (c :: ·)
      | r => (digits? isDigit r).map (c :: ·)
    else none

/-- The digits of a decimal whole number, which has no leading zeros. -/
def wholeDigits? (cs : List Char) : Option (List Char) :=
  (digits? Char.isDigit cs).filter fun ds => ds.length = 1 || ds.head? != some '0'

/-- A word without its sign, and whether the sign is negative. -/
def splitSign : List Char → Bool × List Char
  | '-' :: cs => (true, cs)
  | '+' :: cs => (false, cs)
  | cs => (false, cs)

/-! ### Integers -/

/-- The number that digits denote in a base. -/
def natInBase (base : Nat) (ds : List Char) : Nat :=
  ds.foldl (fun n d => base * n + (Text.hexValue? d).getD 0) 0

/-- Whether a character is a digit in a base of at most sixteen. -/
def isDigitIn (base : Nat) (c : Char) : Bool :=
  match Text.hexValue? c with
  | some v => v < base
  | none => false

/-- An integer that fits in 64 bits. -/
def fitting (n : Int) : Option Int :=
  if Int64.minValue.toInt ≤ n ∧ n ≤ Int64.maxValue.toInt then some n else none

/-- The integer that a word denotes: decimal with an optional sign, or with a base in front. -/
def integer? (cs : List Char) : Option Int :=
  let based (base : Nat) (ds : List Char) : Option Int := do
    fitting (natInBase base (← digits? (isDigitIn base) ds))
  match cs with
  | '0' :: 'x' :: ds => based 16 ds
  | '0' :: 'o' :: ds => based 8 ds
  | '0' :: 'b' :: ds => based 2 ds
  | cs => do
    let (negative, ds) := splitSign cs
    let n : Int := Decimal.natOfDigits (← wholeDigits? ds)
    fitting (if negative then -n else n)

/-! ### Floats -/

/-- The exponent that a word denotes, behind its mark. -/
def exponent? (cs : List Char) : Option Int := do
  let (negative, ds) := splitSign cs
  let n : Int := Decimal.natOfDigits (← digits? Char.isDigit ds)
  return if negative then -n else n

/-- An unsigned float: a whole number with a fraction, an exponent or both. -/
def unsignedFloat? (cs : List Char) : Option Float := do
  let isMark (c : Char) : Bool := c == 'e' || c == 'E'
  let mantissa := cs.takeWhile (!isMark ·)
  let exponent ← match cs.dropWhile (!isMark ·) with
    | [] => some none
    | _ :: r => (exponent? r).map some
  let whole ← wholeDigits? (mantissa.takeWhile (· != '.'))
  let fraction ← match mantissa.dropWhile (· != '.') with
    | [] => some none
    | _ :: r => (digits? Char.isDigit r).map some
  if fraction.isNone && exponent.isNone then none
  else return Decimal.ofPlaces whole (fraction.getD []) (exponent.getD 0)

/-- The float that a word denotes.  One past the greatest finite double is refused, unless it is
    negative. -/
def float? (cs : List Char) : Option Float :=
  let (negative, ds) := splitSign cs
  let signed (x : Float) : Float := if negative then -x else x
  if ds = ['i', 'n', 'f'] then some (signed Decimal.infinity)
  else if ds = ['n', 'a', 'n'] then some (signed (0 / 0))
  else ((unsignedFloat? ds).map signed).filter fun x => x.isFinite || x < 0

/-! ### Moments -/

/-- Two digits in front of a text that denote a number between bounds, and the text behind. -/
def twoDigits? (least greatest : Nat) : List Char → Option (Nat × List Char)
  | a :: b :: rest =>
    let n := Decimal.natOfDigits [a, b]
    if a.isDigit ∧ b.isDigit ∧ least ≤ n ∧ n ≤ greatest then some (n, rest) else none
  | _ => none

/-- The text behind a character, which has to stand in front of it. -/
def dropChar? (c : Char) : List Char → Option (List Char)
  | d :: rest => if d = c then some rest else none
  | [] => none

/-- How many days a month has. -/
def daysIn (year month : Nat) : Nat :=
  let leap := year % 4 = 0 ∧ (year % 100 ≠ 0 ∨ year % 400 = 0)
  if month = 2 then if leap then 29 else 28
  else if month = 4 ∨ month = 6 ∨ month = 9 ∨ month = 11 then 30
  else 31

/-- The text behind a date. -/
def dropDate? (cs : List Char) : Option (List Char) := do
  let year := cs.take 4
  if year.length < 4 || !year.all Char.isDigit then none
  else
    let (month, cs) ← twoDigits? 1 12 (← dropChar? '-' (cs.drop 4))
    let (_, cs) ← twoDigits? 1 (daysIn (Decimal.natOfDigits year) month) (← dropChar? '-' cs)
    return cs

/-- The text behind a time of day. -/
def dropTime? (cs : List Char) : Option (List Char) := do
  let (_, cs) ← twoDigits? 0 23 cs
  let (_, cs) ← twoDigits? 0 59 (← dropChar? ':' cs)
  let (_, cs) ← twoDigits? 0 60 (← dropChar? ':' cs)
  match cs with
  | '.' :: d :: r => if d.isDigit then some (r.dropWhile Char.isDigit) else none
  | cs => some cs

/-- Whether a word is the offset of a time from universal time. -/
def isOffset (cs : List Char) : Bool :=
  let isShift (cs : List Char) : Bool := ((do
    let (_, cs) ← twoDigits? 0 23 cs
    let (_, cs) ← twoDigits? 0 59 (← dropChar? ':' cs)
    return cs.isEmpty) : Option Bool) == some true
  match cs with
  | ['Z'] | ['z'] => true
  | '+' :: cs | '-' :: cs => isShift cs
  | _ => false

/-- Whether a word is a time of day with an optional offset. -/
def isTimeWithOffset (cs : List Char) : Bool :=
  match dropTime? cs with
  | some [] => true
  | some rest => isOffset rest
  | none => false

/-- Whether a word is a date, a time of day, or both with a letter between them. -/
def isMoment (cs : List Char) : Bool :=
  dropTime? cs == some [] ||
    match dropDate? cs with
    | some [] => true
    | some (c :: rest) => (c == 'T' || c == 't') && isTimeWithOffset rest
    | none => false

/-! ### Words -/

/-- The value that a word denotes. -/
def Value.ofWord? (cs : List Char) : Option Value :=
  if cs = "true".toList then some (.boolean true)
  else if cs = "false".toList then some (.boolean false)
  else if isMoment cs then some (.moment (String.ofList cs))
  else ((integer? cs).map .integer).or ((float? cs).map .float)

/-- Whether a word ends before a character. -/
def endsWord (c : Char) : Bool :=
  isSpace c || c == '\n' || c == '\r' || c == '#' || c == ',' || c == ']' || c == '}'

/-- The word in front of a text, and the text behind it. -/
def splitWord (cs : List Char) : List Char × List Char :=
  (cs.takeWhile (!endsWord ·), cs.dropWhile (!endsWord ·))

theorem length_splitWord (cs : List Char) :
    (splitWord cs).1.length + (splitWord cs).2.length = cs.length := by
  rw [← List.length_append]
  exact congrArg List.length List.takeWhile_append_dropWhile

example : (integer? "1_000".toList, integer? "0x10".toList, integer? "01".toList) =
    (some 1000, some 16, none) := by decide
example : isMoment "1979-05-27T07:32:00.5-07:00".toList = true := by decide
example : isMoment "1979-02-29".toList = false := by decide

end MathAgents.Toml
