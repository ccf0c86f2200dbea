namespace MathAgents.Json

/-!
# Writing JSON strings

A string is written between quotes.  Quotes, backslashes and the characters below U+0020 are
escaped, the common ones by a letter and the others by four hexadecimal digits; every other
character stands for itself.
-/

/-- A hexadecimal digit in lower case. -/
def hexDigit (n : Nat) : Char := (Nat.toDigits 16 (n % 16)).headD '0'

/-- A character inside a written string. -/
def escapeChar (c : Char) : List Char :=
  if c = '"' then ['\\', '"']
  else if c = '\\' then ['\\', '\\']
  else if c = '\x08' then ['\\', 'b']
  else if c = '\x0c' then ['\\', 'f']
  else if c = '\n' then ['\\', 'n']
  else if c = '\x0d' then ['\\', 'r']
  else if c = '\t' then ['\\', 't']
  else if c.toNat < 0x20 then
    ['\\', 'u', '0', '0', hexDigit (c.toNat / 16), hexDigit (c.toNat % 16)]
  else [c]

/-- A written string. -/
def quote (cs : List Char) : List Char := '"' :: cs.flatMap escapeChar ++ ['"']

example : quote "a\"\\\n\x01\x7f".toList = "\"a\\\"\\\\\\n\\u0001\x7f\"".toList := by decide

end MathAgents.Json
