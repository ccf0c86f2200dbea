import MathAgents.Text.Utf8

namespace MathAgents.Text

/-!
# Texts with a byte order mark

A byte sequence that is meant for a reader may start with a mark which tells its encoding.  The
mark is no part of the text; without one the encoding is UTF-8.  Malformed pieces are replaced
by U+FFFD.
-/

/-- The 16-bit units of a byte sequence; an odd byte at its end makes a malformed unit. -/
def units (bigEndian : Bool) : List UInt8 → List (Option Nat)
  | [] => []
  | [_] => [none]
  | a :: b :: rest =>
    let (high, low) := if bigEndian then (a, b) else (b, a)
    some (high.toNat * 256 + low.toNat) :: units bigEndian rest

/-- The character that a pair of surrogates encodes. -/
def pairChar (leading trailing : Nat) : Char :=
  Char.ofNat (0x10000 + (leading - 0xD800) * 0x400 + (trailing - 0xDC00))

/-- The characters of a sequence of 16-bit units, with U+FFFD for each unit that is malformed or
    half a pair. -/
def unitChars : List (Option Nat) → List Char
  | [] => []
  | none :: rest => '\uFFFD' :: unitChars rest
  | some n :: rest =>
    if 0xD800 ≤ n ∧ n ≤ 0xDBFF then
      match rest with
      | [none] => ['\uFFFD']
      | some m :: rest' =>
        if 0xDC00 ≤ m ∧ m ≤ 0xDFFF then pairChar n m :: unitChars rest'
        else '\uFFFD' :: unitChars (some m :: rest')
      | rest => '\uFFFD' :: unitChars rest
    else if 0xDC00 ≤ n ∧ n ≤ 0xDFFF then '\uFFFD' :: unitChars rest
    else Char.ofNat n :: unitChars rest

/-- The text of a byte sequence, in the encoding that its mark tells. -/
def decodeMeant : List UInt8 → String
  | 0xEF :: 0xBB :: 0xBF :: rest => decodeReplacing rest
  | 0xFE :: 0xFF :: rest => String.ofList (unitChars (units true rest))
  | 0xFF :: 0xFE :: rest => String.ofList (unitChars (units false rest))
  | bytes => decodeReplacing bytes

example : decodeMeant [0xFF, 0xFE, 0x7B, 0x7D] = "\u7d7b" := by decide
example : decodeMeant [0xEF, 0xBB, 0xBF, 0x41] = "A" := by decide

end MathAgents.Text
