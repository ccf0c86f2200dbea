namespace MathAgents.Text

/-!
# Reading bytes as UTF-8

`decodeMarked` reads a byte sequence as UTF-8 and marks each malformed piece: a piece is the
longest run of bytes that starts a well-formed character and goes no further, or one byte that
starts none.  `decode?` refuses malformed input; `decodeReplacing` puts U+FFFD for each piece.
The decoder is a machine with one transition per byte, so that it is a fold over its input.
-/

/-- A character whose first bytes have been read. -/
structure Unfinished where
  /-- The bits read so far. -/
  bits : Nat
  /-- How many bytes are still to come. -/
  missing : Nat
  /-- The least value that the next byte may have. -/
  least : Nat
  /-- The greatest value that the next byte may have. -/
  greatest : Nat

/-- What a byte means where a character starts: what it writes, and what it leaves open.
    The bounds on the second byte rule out overlong forms, surrogates and values past U+10FFFF. -/
def startByte (b : Nat) : List (Option Char) × Option Unfinished :=
  if b ≤ 0x7F then ([some (Char.ofNat b)], none)
  else if 0xC2 ≤ b ∧ b ≤ 0xDF then ([], some ⟨b - 0xC0, 1, 0x80, 0xBF⟩)
  else if b = 0xE0 then ([], some ⟨0, 2, 0xA0, 0xBF⟩)
  else if b = 0xED then ([], some ⟨0xD, 2, 0x80, 0x9F⟩)
  else if 0xE1 ≤ b ∧ b ≤ 0xEF then ([], some ⟨b - 0xE0, 2, 0x80, 0xBF⟩)
  else if b = 0xF0 then ([], some ⟨0, 3, 0x90, 0xBF⟩)
  else if 0xF1 ≤ b ∧ b ≤ 0xF3 then ([], some ⟨b - 0xF0, 3, 0x80, 0xBF⟩)
  else if b = 0xF4 then ([], some ⟨4, 3, 0x80, 0x8F⟩)
  else ([none], none)

/-- What a byte means inside a character: it continues it, or it breaks it off and starts anew. -/
def nextByte (p : Unfinished) (b : Nat) : List (Option Char) × Option Unfinished :=
  if p.least ≤ b ∧ b ≤ p.greatest then
    let bits := p.bits * 64 + (b - 0x80)
    if p.missing ≤ 1 then ([some (Char.ofNat bits)], none)
    else ([], some ⟨bits, p.missing - 1, 0x80, 0xBF⟩)
  else
    let (out, open?) := startByte b
    (none :: out, open?)

/-- The characters of a byte sequence, with `none` for each malformed piece. -/
def decodeMarked (open? : Option Unfinished) : List UInt8 → List (Option Char)
  | [] => if open?.isSome then [none] else []
  | b :: bs =>
    let (out, next?) := match open? with
      | none => startByte b.toNat
      | some p => nextByte p b.toNat
    out ++ decodeMarked next? bs

/-- The text of a byte sequence that is well-formed UTF-8. -/
def decode? (bytes : List UInt8) : Option String :=
  ((decodeMarked none bytes).mapM id).map String.ofList

/-- The text of a byte sequence, with U+FFFD for each malformed piece. -/
def decodeReplacing (bytes : List UInt8) : String :=
  String.ofList ((decodeMarked none bytes).map (·.getD '\uFFFD'))

/-- The UTF-8 bytes of a string. -/
def encode (s : String) : List UInt8 := s.toUTF8.toList

example : decode? [0xC3, 0xA9, 0x41] = some "éA" := by decide
example : decode? [0xED, 0xA0, 0x80] = none := by decide
example : decodeReplacing [0xE2, 0x82, 0x41, 0xFF] = "\uFFFDA\uFFFD" := by decide

end MathAgents.Text
