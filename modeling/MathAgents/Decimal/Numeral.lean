import MathAgents.Decimal.Rounding

namespace MathAgents.Decimal

/-!
# Reading decimal numerals

`ofNumeral` reads an unsigned numeral, digits with at most one point, as the double nearest to
it; `read?` reads the full decimal syntax, with a sign, an exponent, and the words for infinity
and for values that are no number.
-/

/-- The value of a digit character. -/
def digitValue (c : Char) : Nat := c.toNat - '0'.toNat

/-- The natural number that a sequence of digits denotes. -/
def natOfDigits (ds : List Char) : Nat := ds.foldl (fun n c => 10 * n + digitValue c) 0

/-- The double nearest to `whole.fraction · 10^e`. -/
def ofPlaces (whole fraction : List Char) (e : Int) : Float :=
  ofDecimal (natOfDigits (whole ++ fraction)) (e - fraction.length)

/-- The digits on either side of the point of a numeral. -/
def places (cs : List Char) : List Char × List Char :=
  (cs.takeWhile (· != '.'), (cs.dropWhile (· != '.')).drop 1)

/-- The double nearest to a numeral: digits with at most one point. -/
def ofNumeral (text : String) : Float :=
  let (whole, fraction) := places text.toList
  ofPlaces whole fraction 0

/-- An exponent: an optional sign and at least one digit. -/
def exponent? (cs : List Char) : Option Int :=
  let (negative, ds) := match cs with
    | '-' :: r => (true, r)
    | '+' :: r => (false, r)
    | r => (false, r)
  if ds.isEmpty || !ds.all Char.isDigit then none
  else
    let n : Int := natOfDigits ds
    some (if negative then -n else n)

/-- An unsigned decimal: digits with an optional point on either side, and an optional exponent. -/
def unsigned? (cs : List Char) : Option Float :=
  let isMark (c : Char) : Bool := c == 'e' || c == 'E'
  let mantissa := cs.takeWhile (!isMark ·)
  let (whole, fraction) := places mantissa
  let rest := cs.dropWhile (!isMark ·)
  if (whole ++ fraction).isEmpty || !(whole ++ fraction).all Char.isDigit then none
  else match rest with
    | [] => some (ofPlaces whole fraction 0)
    | _ :: r => (exponent? r).map (ofPlaces whole fraction)

/-- A word for a value that no digits denote; case is not significant. -/
def word? (cs : List Char) : Option Float :=
  let lower := String.ofList (cs.map Char.toLower)
  if lower = "inf" ∨ lower = "infinity" then some infinity
  else if lower = "nan" then some (0 / 0)
  else none

/-- The double nearest to a decimal in the full syntax.  There are no blanks in it. -/
def read? (text : String) : Option Float :=
  let value? (cs : List Char) : Option Float := (word? cs).or (unsigned? cs)
  match text.toList with
  | '-' :: cs => (value? cs).map (- ·)
  | '+' :: cs => value? cs
  | cs => value? cs

end MathAgents.Decimal
