import MathAgents.Decimal.Shortest

namespace MathAgents.Decimal

/-!
# Writing doubles

A `Notation` record holds the decisions that a written form takes once the digits are known:
which exponents are written positionally, how an exponent is marked, and the words for the
values that are not finite.  Positional numbers always show a digit on both sides of the point.
`Notation.trace` is the form of evaluation traces and `Notation.data` the form of JSON.
-/

/-- The decisions of a written form of doubles. -/
structure Notation where
  /-- The least exponent of the leading digit that is written positionally. -/
  least : Int
  /-- The least exponent of the leading digit past the positional ones. -/
  past : Int
  /-- What stands between `e` and an exponent that is not negative. -/
  plus : String
  /-- Which of two equally near digits is written. -/
  tie : Tie
  infinite : String
  negativeInfinite : String
  notANumber : String

/-- Evaluation traces: positional from `10^(-4)` and below `10^16`. -/
def Notation.trace : Notation := ⟨-4, 16, "", .up, "inf", "-inf", "NaN"⟩

/-- JSON: positional from `10^(-5)` and below `10^16`; values that are not finite are null. -/
def Notation.data : Notation := ⟨-5, 16, "+", .toEven, "null", "null", "null"⟩

/-- The text of `ds · 10^e` with a point, where `ds` are digits. -/
def positional (ds : List Char) (e : Int) : List Char :=
  if 0 ≤ e then ds ++ List.replicate e.toNat '0' ++ ['.', '0']
  else
    let places := (-e).toNat
    if ds.length ≤ places then
      '0' :: '.' :: List.replicate (places - ds.length) '0' ++ ds
    else ds.take (ds.length - places) ++ '.' :: ds.drop (ds.length - places)

/-- The text of `ds · 10^e` with one digit before the point, if there is a point at all, and
    the exponent of that digit. -/
def scientific (plus : String) (ds : List Char) (e : Int) : List Char :=
  let fraction := match ds.drop 1 with
    | [] => []
    | rest => '.' :: rest
  let exponent : Int := e + ds.length - 1
  let sign := if exponent < 0 then ['-'] else plus.toList
  ds.take 1 ++ fraction ++ 'e' :: sign ++ Nat.toDigits 10 exponent.natAbs

/-- The digits and the layout of a positive finite double. -/
def Notation.magnitude (f : Notation) (x : Float) : List Char :=
  let (m, q) := parts x
  let (n, e) := shortest f.tie m q
  let ds := Nat.toDigits 10 n
  let leading : Int := e + ds.length - 1
  if f.least ≤ leading ∧ leading < f.past then positional ds e else scientific f.plus ds e

/-- The written form of a double. -/
def Notation.write (f : Notation) (x : Float) : String :=
  if x.isNaN then f.notANumber
  else if x.isInf then if isNegative x then f.negativeInfinite else f.infinite
  else
    let sign := if isNegative x then ['-'] else []
    let body := if (parts x).1 = 0 then ['0', '.', '0'] else f.magnitude x
    String.ofList (sign ++ body)

example : Notation.trace.write 12 = "12.0" := by decide +kernel
example : Notation.trace.write (ofDecimal 12 (-6)) = "1.2e-5" := by decide +kernel
example : Notation.data.write (ofDecimal 12 (-6)) = "0.000012" := by decide +kernel
example : Notation.data.write (ofDecimal 15 299) = "1.5e+300" := by decide +kernel

end MathAgents.Decimal
