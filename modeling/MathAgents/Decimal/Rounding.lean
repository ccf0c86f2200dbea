namespace MathAgents.Decimal

/-!
# The double nearest to a quotient

A finite double is `m · 2^q` with `m < 2^53` and `-1074 ≤ q ≤ 971`.  `nearest` finds the double
nearest to a quotient of natural numbers, a tie going to the even `m`, in exact integer
arithmetic; `ofDecimal` is the case of a decimal `n · 10^e`, and `parts` the way back from a
double to its `m` and `q`.
-/

/-- The natural number nearest to `num / den`, a tie going to the even one. -/
def roundDiv (num den : Nat) : Nat :=
  let quot := num / den
  let twice := 2 * (num % den)
  if twice < den then quot
  else if twice = den then quot + quot % 2
  else quot + 1

/-- The least coefficient of a double that is not subnormal, `2^52`. -/
def leastNormal : Nat := 0x10000000000000

/-- The bits of a finite double without its sign: `m · 2^q`, where `m` is `2^53` only as the
    result of rounding, which carries into the next exponent.  Past the largest double they are
    the bits of infinity. -/
def assemble (m : Nat) (q : Int) : UInt64 :=
  let bits :=
    if m < leastNormal then m else (q + 1075).toNat * leastNormal + (m - leastNormal)
  UInt64.ofNat (min bits (0x7FF * leastNormal))

/-- The exponent `q` of the grid on which `num / den` is rounded: fine enough that the rounded
    coefficient has 53 bits, but never finer than the grid of the subnormal doubles. -/
def gridExponent (num den : Nat) : Int :=
  let estimate : Int := (num.log2 : Int) - den.log2 - 52
  -- the quotient has one bit fewer than estimated when the leading bits of `num` are smaller
  let short := if 0 ≤ estimate + 52 then num < den * Nat.pow 2 (estimate + 52).toNat
    else num * Nat.pow 2 (-(estimate + 52)).toNat < den
  max (if short then estimate - 1 else estimate) (-1074)

/-- The double nearest to `num / den`, where `den` is not zero. -/
def nearest (num den : Nat) : Float :=
  if num = 0 then 0 else
  let q := gridExponent num den
  let m :=
    if 0 ≤ q then roundDiv num (den * Nat.pow 2 q.toNat)
    else roundDiv (num * Nat.pow 2 (-q).toNat) den
  Float.ofBits (assemble m q)

/-- Infinity. -/
def infinity : Float := Float.ofBits 0x7FF0000000000000

/-- The double nearest to `n · 10^e`.  A value near `10^400` or above is infinite, and one near
    `10^(-400)` or below is zero, so neither power is computed; 30103 / 100000 is close to the
    decimal logarithm of two. -/
def ofDecimal (n : Nat) (e : Int) : Float :=
  let places : Int := (n.log2 * 30103 / 100000 : Nat) + e
  if n = 0 ∨ places < -400 then 0
  else if 400 < places then infinity
  else if 0 ≤ e then nearest (n * Nat.pow 10 e.toNat) 1
  else nearest n (Nat.pow 10 (-e).toNat)

/-- The coefficient and the exponent of a finite double's absolute value. -/
def parts (x : Float) : Nat × Int :=
  let bits := x.toBits.toNat
  let exponent : Nat := bits / leastNormal % 0x800
  let fraction : Nat := bits % leastNormal
  if exponent = 0 then (fraction, -1074)
  else (fraction + leastNormal, (exponent : Int) - 1075)

/-- Whether the sign bit of a double is set. -/
def isNegative (x : Float) : Bool := 0x8000000000000000 ≤ x.toBits.toNat

example : (ofDecimal 1 (-1)).toBits = 0x3FB999999999999A := by decide +kernel
example : (ofDecimal 9007199254740993 0).toBits = 0x4340000000000000 := by decide +kernel
example : (ofDecimal 5 (-324)).toBits = 1 ∧ (ofDecimal 2 (-324)).toBits = 0 := by decide +kernel

end MathAgents.Decimal
