import MathAgents.Decimal.Numeral
import MathAgents.Json.Basic
import MathAgents.Json.Fault
import MathAgents.Text.Found

namespace MathAgents.Json

/-!
# Reading JSON numbers

A number without a fraction and an exponent is an integer when it fits in 64 bits, signed or
unsigned.  Any other number is a double: the digits that fit in 64 bits make a coefficient, the
digits past them only count as places, and the coefficient is multiplied with or divided by a
power of ten, each step rounded to a double.
-/

open Text (length_dropWhile)

/-- The greatest coefficient that fits in 64 bits. -/
def maxCoefficient : Nat := UInt64.size - 1

/-- The digits in front of a text that fit in a coefficient with those already read, and the rest
    of the text.  The rest starts with a digit exactly when that digit no longer fits. -/
def fitDigits (n : Nat) : List Char → Nat × List Char
  | [] => (n, [])
  | c :: cs =>
    if c.isDigit ∧ 10 * n + Decimal.digitValue c ≤ maxCoefficient then
      fitDigits (10 * n + Decimal.digitValue c) cs
    else (n, c :: cs)

/-- `x · 10^e` in steps that a power of ten up to `10^308` allows; none if it is infinite. -/
def scale (x : Float) (e : Int) : Option Float :=
  if 0 ≤ e then
    if x == 0 then some x
    else if 308 < e then none
    else
      let y := x * Decimal.ofDecimal 1 e
      if y.isInf then none else some y
  else if h : e < -308 then
    if x == 0 then some x else scale (x / Decimal.ofDecimal 1 308) (e + 308)
  else some (x / Decimal.ofDecimal 1 (-e))
termination_by (-e).toNat
decreasing_by omega

/-- The double with a coefficient, an exponent and a sign, read in front of `rest`. -/
def double (negative : Bool) (coefficient : Nat) (e : Int) (rest : List Char) :
    Except Fault (Json × List Char) :=
  match scale (Decimal.nearest coefficient 1) e with
  | none => .error (.before .numberOutOfRange rest)
  | some x => .ok (.float (if negative then -x else x), rest)

/-- The digits of an exponent while it stays below `2^31`; then what is left of the text, and
    whether the exponent outgrew that limit with the digit in front of it. -/
def exponentDigits (n : Nat) : List Char → Nat × List Char × Bool
  | [] => (n, [], false)
  | c :: cs =>
    if c.isDigit then
      if 10 * n + Decimal.digitValue c < 0x80000000 then
        exponentDigits (10 * n + Decimal.digitValue c) cs
      else (n, cs, true)
    else (n, c :: cs, false)

/-- The rest of a number behind the sign of its exponent, which shrinks the number or not. -/
def signedExponentTail (negative : Bool) (coefficient : Nat) (e : Int) (shrinks : Bool) :
    List Char → Except Fault (Json × List Char)
  | [] => .error (.at .endInValue [])
  | d :: cs =>
    if !d.isDigit then .error (.at .invalidNumber (d :: cs))
    else
      match exponentDigits (Decimal.digitValue d) cs with
      | (n, rest, false) => double negative coefficient (if shrinks then e - n else e + n) rest
      | (_, rest, true) =>
        if coefficient ≠ 0 ∧ !shrinks then .error (.before .numberOutOfRange rest)
        else .ok (.float (if negative then -0.0 else 0.0), rest.dropWhile Char.isDigit)

/-- The rest of a number behind the mark of its exponent. -/
def exponentTail (negative : Bool) (coefficient : Nat) (e : Int) :
    List Char → Except Fault (Json × List Char)
  | '+' :: cs => signedExponentTail negative coefficient e false cs
  | '-' :: cs => signedExponentTail negative coefficient e true cs
  | cs => signedExponentTail negative coefficient e false cs

/-- The rest of a number behind its point. -/
def fractionTail (negative : Bool) (coefficient : Nat) (e : Int) (cs : List Char) :
    Except Fault (Json × List Char) :=
  let (n, fitted) := fitDigits coefficient cs
  let count := cs.length - fitted.length
  let rest := fitted.dropWhile Char.isDigit
  if count = 0 ∧ rest.length = fitted.length then
    .error (.at (if rest.isEmpty then .endInValue else .invalidNumber) rest)
  else match rest with
    | 'e' :: r => exponentTail negative n (e - count) r
    | 'E' :: r => exponentTail negative n (e - count) r
    | _ => double negative n (e - count) rest

/-- The rest of a number behind the first digits of its whole part. -/
def wholeTail (negative : Bool) (first : Nat) (cs : List Char) :
    Except Fault (Json × List Char) :=
  let (n, fitted) := fitDigits first cs
  let rest := fitted.dropWhile Char.isDigit
  let count : Nat := fitted.length - rest.length
  match rest with
  | '.' :: r => fractionTail negative n count r
  | 'e' :: r => exponentTail negative n count r
  | 'E' :: r => exponentTail negative n count r
  | _ =>
    if count ≠ 0 then double negative n count rest
    else if !negative then .ok (.int n, rest)
    else if n = 0 ∨ 0x8000000000000000 < n then .ok (.float (-(Decimal.nearest n 1)), rest)
    else .ok (.int (-n), rest)

/-- The number in front of a text, whose sign was read before. -/
def readNumber (negative : Bool) : List Char → Except Fault (Json × List Char)
  | [] => .error (.at .endInValue [])
  | c :: cs =>
    if c = '0' then
      match cs with
      | d :: r =>
        if d.isDigit then .error (.at .invalidNumber (d :: r)) else wholeTail negative 0 (d :: r)
      | [] => wholeTail negative 0 []
    else if c.isDigit then wholeTail negative (Decimal.digitValue c) cs
    else .error (.at .invalidNumber (c :: cs))

/-! ### A number takes characters off the front -/

theorem length_fitDigits (n : Nat) (cs : List Char) : (fitDigits n cs).2.length ≤ cs.length := by
  fun_induction fitDigits n cs with
  | case1 n => exact Nat.le_refl _
  | case2 n c cs h ih => exact Nat.le_succ_of_le ih
  | case3 n c cs h => exact Nat.le_refl _

theorem length_exponentDigits (n : Nat) (cs : List Char) :
    (exponentDigits n cs).2.1.length ≤ cs.length := by
  fun_induction exponentDigits n cs with
  | case1 n => exact Nat.le_refl _
  | case2 n c cs hc hn ih => exact Nat.le_succ_of_le ih
  | case3 n c cs hc hn => exact Nat.le_succ _
  | case4 n c cs hc => exact Nat.le_refl _

theorem eq_of_double {negative : Bool} {n : Nat} {e : Int} {cs rest : List Char} {j : Json}
    (h : double negative n e cs = .ok (j, rest)) : rest = cs := by
  unfold double at h
  split at h <;> simp_all

theorem length_signedExponentTail {negative shrinks : Bool} {n : Nat} {e : Int}
    {cs rest : List Char} {j : Json}
    (h : signedExponentTail negative n e shrinks cs = .ok (j, rest)) :
    rest.length ≤ cs.length := by
  cases cs with
  | nil => simp [signedExponentTail] at h
  | cons d cs =>
    have hl := length_exponentDigits (Decimal.digitValue d) cs
    simp only [signedExponentTail] at h
    split at h
    · simp at h
    · split at h
      · next hx =>
        simp only [hx] at hl
        rw [eq_of_double h, List.length_cons]
        omega
      · next r hx =>
        simp only [hx] at hl
        split at h
        · simp at h
        · simp only [Except.ok.injEq, Prod.mk.injEq] at h
          have := length_dropWhile Char.isDigit r
          rw [← h.2, List.length_cons]
          omega

theorem length_exponentTail {negative : Bool} {n : Nat} {e : Int} {cs rest : List Char} {j : Json}
    (h : exponentTail negative n e cs = .ok (j, rest)) : rest.length ≤ cs.length := by
  unfold exponentTail at h
  split at h
  · exact Nat.le_succ_of_le (length_signedExponentTail h)
  · exact Nat.le_succ_of_le (length_signedExponentTail h)
  · exact length_signedExponentTail h

theorem length_fractionTail {negative : Bool} {n : Nat} {e : Int} {cs rest : List Char} {j : Json}
    (h : fractionTail negative n e cs = .ok (j, rest)) : rest.length ≤ cs.length := by
  have h₁ := length_fitDigits n cs
  have h₂ := length_dropWhile Char.isDigit (fitDigits n cs).2
  simp only [fractionTail] at h
  split at h
  · simp at h
  · split at h
    · next hr => rw [hr, List.length_cons] at h₂; have := length_exponentTail h; omega
    · next hr => rw [hr, List.length_cons] at h₂; have := length_exponentTail h; omega
    · rw [eq_of_double h]; omega

theorem length_wholeTail {negative : Bool} {n : Nat} {cs rest : List Char} {j : Json}
    (h : wholeTail negative n cs = .ok (j, rest)) : rest.length ≤ cs.length := by
  have h₁ := length_fitDigits n cs
  have h₂ := length_dropWhile Char.isDigit (fitDigits n cs).2
  simp only [wholeTail] at h
  split at h
  · next hr => rw [hr, List.length_cons] at h₂; have := length_fractionTail h; omega
  · next hr => rw [hr, List.length_cons] at h₂; have := length_exponentTail h; omega
  · next hr => rw [hr, List.length_cons] at h₂; have := length_exponentTail h; omega
  · split at h
    · rw [eq_of_double h]; omega
    · split at h
      · simp only [Except.ok.injEq, Prod.mk.injEq] at h; rw [← h.2]; omega
      · split at h <;>
          · simp only [Except.ok.injEq, Prod.mk.injEq] at h; rw [← h.2]; omega

/-- A number has at least one character. -/
theorem length_readNumber {negative : Bool} {cs rest : List Char} {j : Json}
    (h : readNumber negative cs = .ok (j, rest)) : rest.length < cs.length := by
  cases cs with
  | nil => simp [readNumber] at h
  | cons c cs =>
    simp only [readNumber] at h
    split at h
    · split at h
      · split at h
        · simp at h
        · exact Nat.lt_succ_of_le (length_wholeTail h)
      · exact Nat.lt_succ_of_le (length_wholeTail h)
    · split at h
      · exact Nat.lt_succ_of_le (length_wholeTail h)
      · simp at h

end MathAgents.Json
