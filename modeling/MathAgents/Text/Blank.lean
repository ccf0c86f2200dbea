namespace MathAgents.Text

/-!
# Blank characters and trimming

A character is *blank* when it has the Unicode property `White_Space`.  This file holds the
class, and the two operations the rest of the library builds on it: cutting blanks off both
ends of a text, and asking whether a text holds nothing else.  `trimLeft_append` and
`trimRight_append` say that trimming looks past blanks and at nothing behind them.
-/

/-- Whether a code point lies in one of the given closed ranges. -/
def inRanges (ranges : List (Nat × Nat)) (n : Nat) : Bool :=
  ranges.any fun r => r.1 ≤ n && n ≤ r.2

/-- The characters with the property `White_Space`, as closed ranges of code points. -/
def blankRanges : List (Nat × Nat) :=
  [(0x9, 0xD), (0x20, 0x20), (0x85, 0x85), (0xA0, 0xA0), (0x1680, 0x1680), (0x2000, 0x200A),
   (0x2028, 0x2029), (0x202F, 0x202F), (0x205F, 0x205F), (0x3000, 0x3000)]

/-- Whether a character is blank. -/
def isBlankChar (c : Char) : Bool := inRanges blankRanges c.toNat

/-- A text without its leading blanks. -/
def trimLeft (cs : List Char) : List Char := cs.dropWhile isBlankChar

/-- A text without its trailing blanks. -/
def trimRight (cs : List Char) : List Char := (cs.reverse.dropWhile isBlankChar).reverse

/-- A text without the blanks at either end. -/
def trimChars (cs : List Char) : List Char := trimRight (trimLeft cs)

/-- A string without the blanks at either end. -/
def trim (s : String) : String := String.ofList (trimChars s.toList)

/-- Whether a string holds nothing but blanks. -/
def isBlank (s : String) : Bool := s.toList.all isBlankChar

/-! ### What trimming does -/

/-- Blanks in front of a text are passed over. -/
theorem trimLeft_append {bs : List Char} (hb : bs.all isBlankChar) (cs : List Char) :
    trimLeft (bs ++ cs) = trimLeft cs := by
  induction bs with
  | nil => rfl
  | cons b bs ih =>
    simp only [List.all_cons, Bool.and_eq_true] at hb
    simpa [trimLeft, hb.1] using ih hb.2

/-- Blanks behind a text are passed over. -/
theorem trimRight_append {bs : List Char} (hb : bs.all isBlankChar) (cs : List Char) :
    trimRight (cs ++ bs) = trimRight cs := by
  have h : bs.reverse.all isBlankChar := by simpa using hb
  have key := trimLeft_append h cs.reverse
  simp only [trimLeft] at key
  simp [trimRight, key]

example : trim " \t\u2003a b\u00a0\n" = "a b" := by decide
example : isBlank "\u3000 \r\n" = true ∧ isBlank "\u200b" = false := by decide

end MathAgents.Text
