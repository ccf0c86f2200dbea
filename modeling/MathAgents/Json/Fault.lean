namespace MathAgents.Json

/-!
# Faults in JSON texts

Why a text is not JSON, and where.  A fault counts the bytes that are left unread behind the
position it reports; `Fault.message` turns that into a line and a column.  Columns count bytes,
so that a position may fall inside a character.
-/

/-- Why a text is not JSON. -/
inductive Cause where
  | endInValue
  | endInObject
  | endInList
  | endInString
  | expectedValue
  | expectedIdent
  | expectedColon
  | expectedCommaOrBrace
  | expectedCommaOrBracket
  | trailingComma
  | trailingCharacters
  | keyNotString
  | invalidNumber
  | numberOutOfRange
  | invalidEscape
  | unfinishedEscape
  | loneSurrogate
  | controlCharacter
  | nestedTooDeeply
  deriving DecidableEq, Repr

/-- The wording of a cause. -/
def Cause.text : Cause → String
  | .endInValue => "EOF while parsing a value"
  | .endInObject => "EOF while parsing an object"
  | .endInList => "EOF while parsing a list"
  | .endInString => "EOF while parsing a string"
  | .expectedValue => "expected value"
  | .expectedIdent => "expected ident"
  | .expectedColon => "expected `:`"
  | .expectedCommaOrBrace => "expected `,` or `\x7d`"
  | .expectedCommaOrBracket => "expected `,` or `]`"
  | .trailingComma => "trailing comma"
  | .trailingCharacters => "trailing characters"
  | .keyNotString => "key must be a string"
  | .invalidNumber => "invalid number"
  | .numberOutOfRange => "number out of range"
  | .invalidEscape => "invalid escape"
  | .unfinishedEscape => "unexpected end of hex escape"
  | .loneSurrogate => "lone leading surrogate in hex escape"
  | .controlCharacter => "control character (\\u0000-\\u001F) found while parsing a string"
  | .nestedTooDeeply => "recursion limit exceeded"

/-- A fault: its cause, and how many bytes of the text lie behind its position. -/
structure Fault where
  cause : Cause
  unread : Nat
  deriving DecidableEq, Repr

/-- The number of bytes of a text. -/
def byteCount : List Char → Nat
  | [] => 0
  | c :: cs => c.utf8Size + byteCount cs

/-- A fault at the first byte of `rest`, or at the end of the text if nothing is left. -/
def Fault.at (cause : Cause) (rest : List Char) : Fault := ⟨cause, byteCount rest - 1⟩

/-- A fault at the last byte in front of `rest`. -/
def Fault.before (cause : Cause) (rest : List Char) : Fault := ⟨cause, byteCount rest⟩

/-- The line and the column that `bytes` more bytes lead to. -/
def locate (line column : Nat) : List Char → Nat → Nat × Nat
  | [], _ => (line, column)
  | c :: cs, bytes =>
    if bytes < c.utf8Size then (line, column + bytes)
    else if c = '\n' then locate (line + 1) 0 cs (bytes - 1)
    else locate line (column + c.utf8Size) cs (bytes - c.utf8Size)

/-- The message for a fault in a text. -/
def Fault.message (f : Fault) (text : List Char) : String :=
  let (line, column) := locate 1 0 text (byteCount text - f.unread)
  s!"{f.cause.text} at line {line} column {column}"

end MathAgents.Json
