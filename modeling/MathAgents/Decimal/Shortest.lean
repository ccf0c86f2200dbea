import MathAgents.Decimal.Rounding

namespace MathAgents.Decimal

/-!
# The shortest decimal that reads back

The reals that round to a positive double `m · 2^q` form an interval, whose ends belong to it
exactly when `m` is even.  Among the decimals in that interval `shortest` picks one with the
fewest digits, and of those the one nearest to the double.  It looks, for one digit, two digits
and so on, at the two neighbours of the double on the decimal grid with that many digits: when
any point of a grid lies in the interval, so does one of the two neighbours.  All arithmetic is
on natural numbers.
-/

/-- Which way an exact tie between the two neighbours goes. -/
inductive Tie where
  | up
  | toEven
  deriving DecidableEq

/-- A positive double with the interval that rounds to it, over one denominator. -/
structure Interval where
  /-- The double is `value / den`. -/
  value : Nat
  /-- The lower end is `low / den`. -/
  low : Nat
  /-- The upper end is `high / den`. -/
  high : Nat
  den : Nat
  /-- Whether the ends round to the double too. -/
  closed : Bool

/-- The interval of `m · 2^q`.  Below a power of two the doubles lie twice as close, except
    where the subnormal grid begins. -/
def Interval.ofParts (m : Nat) (q : Int) : Interval :=
  let num := Nat.pow 2 (q - 2).toNat
  let below := if m = leastNormal ∧ -1074 < q then 1 else 2
  { value := 4 * m * num
    low := (4 * m - below) * num
    high := (4 * m + 2) * num
    den := Nat.pow 2 (2 - q).toNat
    closed := m % 2 = 0 }

/-- How many digits stand before the point: the least `p` with `value / den < 10^p`.  No double
    is smaller than `10^(-324)`, so that many places make the quotient a positive integer. -/
def Interval.magnitude (i : Interval) : Int :=
  (Nat.toDigits 10 (i.value * Nat.pow 10 324 / i.den)).length - 324

/-- Whether `num / den`, with the interval's own denominator times `scale`, lies in it. -/
def Interval.holds (i : Interval) (scale num : Nat) : Bool :=
  if i.closed then i.low * scale ≤ num && num ≤ i.high * scale
  else i.low * scale < num && num < i.high * scale

/-- The multiple of `10^g` nearest to the double among its two neighbours that lie in the
    interval, as the coefficient of `10^g`. -/
def Interval.onGrid (i : Interval) (tie : Tie) (g : Int) : Option Nat :=
  let scale := Nat.pow 10 (-g).toNat
  let cell := Nat.pow 10 g.toNat * i.den
  let below := i.value * scale / cell
  let twice := 2 * (i.value * scale % cell)
  match i.holds scale (below * cell), i.holds scale ((below + 1) * cell) with
  | true, false => some below
  | false, true => some (below + 1)
  | false, false => none
  | true, true =>
    if twice < cell then some below
    else if cell < twice then some (below + 1)
    else match tie with
      | .up => some (below + 1)
      | .toEven => some (below + below % 2)

/-- A decimal without the zeros at its end. -/
def dropZeros (n : Nat) (e : Int) : Nat × Int :=
  if h : 0 < n ∧ n % 10 = 0 then dropZeros (n / 10) (e + 1) else (n, e)
termination_by n
decreasing_by omega

/-- The coefficient and the exponent of the shortest decimal that reads back as `m · 2^q`, for
    positive `m`.  Seventeen digits always suffice. -/
def shortest (tie : Tie) (m : Nat) (q : Int) : Nat × Int :=
  let i := Interval.ofParts m q
  let p := i.magnitude
  let hit := (List.range 17).findSome? fun (n : Nat) =>
    (i.onGrid tie (p - (n + 1))).map fun c => (c, p - (n + 1))
  match hit with
  | some (c, g) => dropZeros c g
  | none => (0, 0)

example : shortest .up leastNormal (-52) = (1, 0) := by decide +kernel
example : shortest .up 1 (-1074) = (5, -324) := by decide +kernel
example : shortest .up 0x13333333333334 (-54) = (30000000000000004, -17) := by decide +kernel

end MathAgents.Decimal
