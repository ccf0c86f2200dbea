import MathAgents.Text.Hexadecimal
import MathAgents.Text.Utf8

namespace MathAgents.Endpoint

/-!
# Percent-encoding

A byte may stand in an address as a percent sign and two hexadecimal digits.  `percentDecode`
reads such bytes back and leaves alone the percent signs that start none.
-/

/-- A byte as a percent sign and two digits. -/
def encodeByte (b : UInt8) : List Char :=
  let digit (n : Nat) : Char := Nat.digitChar n |>.toUpper
  ['%', digit (b.toNat / 16), digit (b.toNat % 16)]

/-- A text with the characters of a set, and everything outside ASCII, percent-encoded. -/
def percentEncode (set : Char → Bool) (cs : List Char) : String :=
  String.ofList <| cs.flatMap fun c =>
    if set c || '\x7e' < c then (Text.encode (String.singleton c)).flatMap encodeByte else [c]

/-- The bytes of a text with percent-encoded bytes in it. -/
def percentDecode : List Char → List UInt8
  | '%' :: a :: b :: cs =>
    match Text.hexNat? [a, b] with
    | some n => UInt8.ofNat n :: percentDecode cs
    | none => 0x25 :: percentDecode (a :: b :: cs)
  | c :: cs => Text.encode (String.singleton c) ++ percentDecode cs
  | [] => []

end MathAgents.Endpoint
