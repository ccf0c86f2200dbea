import MathAgents.Chat.Message
import MathAgents.Json.Printer
import MathAgents.Json.Reader
import MathAgents.Text.Blank
import MathAgents.Text.Search

namespace MathAgents.Chat

/-!
# Tool calls in plain text

Some models write a tool call into their answer instead of asking for it.  `ToolCall.inText?`
looks for an object with the fields `function` and `arguments` in three places: the whole text,
the first fenced block, and the first place where such an object seems to start.
-/

/-- The tool call that a text spells out as a JSON object and nothing else. -/
def ToolCall.ofObject? (id : String) (cs : List Char) : Option ToolCall := do
  let j ← (Json.parse (String.ofList cs)).toOption
  let name ← j.getString? "function"
  let arguments ← j.get? "arguments"
  return ⟨id, name, arguments.print⟩

/-- What opens and closes a fenced block. -/
def fence : List Char := "```".toList

/-- The body of the first fenced block, behind the line that opens it; an empty body is none. -/
def fenced? (cs : List Char) : Option (List Char) := do
  let (_, opened) ← Text.cut? fence cs
  let (_, body) ← Text.cut? ['\n'] opened
  let (inner, _) ← Text.cut? fence body
  if inner.isEmpty then none else some inner

/-- The text up to the brace that closes the outermost of `depth` open braces.  Braces inside
    quotes do not count, and neither does a quote behind a backslash inside quotes. -/
def closeBraces (depth : Nat) (quoted escaped : Bool) : List Char → Option (List Char)
  | [] => none
  | c :: cs =>
    if escaped then (closeBraces depth quoted false cs).map (c :: ·)
    else if c = '\\' ∧ quoted then (closeBraces depth quoted true cs).map (c :: ·)
    else if c = '"' then (closeBraces depth (!quoted) false cs).map (c :: ·)
    else if c = '{' ∧ !quoted then (closeBraces (depth + 1) quoted false cs).map (c :: ·)
    else if c = '}' ∧ !quoted then
      if depth ≤ 1 then some [c] else (closeBraces (depth - 1) quoted false cs).map (c :: ·)
    else (closeBraces depth quoted false cs).map (c :: ·)

/-- The piece in front of a text from its opening brace to the brace that closes it. -/
def balanced? : List Char → Option (List Char)
  | '{' :: cs => (closeBraces 1 false false cs).map ('{' :: ·)
  | _ => none

/-- How an object that names a function starts. -/
def objectStart : List Char := '{' :: "\"function\"".toList

/-- The piece of a text that seems to be an object which names a function. -/
def embedded? (cs : List Char) : Option (List Char) := do
  let (_, behind) ← Text.cut? objectStart cs
  balanced? (objectStart ++ behind)

/-- The tool call that a text holds, to be known by a new id. -/
def ToolCall.inText? (id content : String) : Option ToolCall :=
  let cs := Text.trimChars content.toList
  (ofObject? id cs).or <|
    ((fenced? cs).bind fun body => ofObject? id (Text.trimChars body)).or <|
      (embedded? cs).bind (ofObject? id)

end MathAgents.Chat
