import MathAgents.Decimal.Rounding
import MathAgents.Settings.Basic
import MathAgents.Toml.Reader

namespace MathAgents.Settings

/-!
# Written settings

How settings are written in a TOML text: a table for each of the three groups.  Whatever is not
written keeps its default, and whatever is not known is ignored.  A group may also be written as
an array of its values in the order in which `toJson` writes them.
-/

open Toml (Value Table)

/-- What is written for the settings of a group, by the name of a setting and its place. -/
def group? : Option Value → Option ((name : String) → (place : Nat) → Option Value)
  | none => some fun _ _ => none
  | some (.table fields) => some fun name _ => fields.lookup name
  | some (.array items) => some fun _ place => items[place]?
  | some (.moment _) => some fun _ _ => none
  | some _ => none

/-- A setting that may be left out. -/
def setting? {α : Type} (default : α) (read : Value → Option α) : Option Value → Option α
  | none => some default
  | some v => read v

/-- A text. -/
def text? : Value → Option String
  | .string s => some s
  | _ => none

/-- A number; an integer is read as the nearest double. -/
def number? : Value → Option Float
  | .float x => some x
  | .integer n =>
    let x := Decimal.nearest n.natAbs 1
    some (if n < 0 then -x else x)
  | _ => none

/-- A count. -/
def count? : Value → Option Nat
  | .integer n => if 0 ≤ n then some n.toNat else none
  | _ => none

/-- Whether a value is an empty table or array. -/
def isEmpty : Value → Bool
  | .table fields => fields.isEmpty
  | .array items => items.isEmpty
  | _ => false

/-- A way to run the agents: its name, or a table with an empty value under the name. -/
def kind? : Value → Option PipelineKind
  | .string s => PipelineKind.ofName? s
  | .table [(name, v)] => if isEmpty v then PipelineKind.ofName? name else none
  | _ => none

/-- The settings that a table holds. -/
def ofTable? (t : Table) : Option Settings := do
  let defaults : Settings := {}
  let core ← group? (t.lookup "core")
  let logLevel ← setting? defaults.general.logLevel text? (core "log_level" 0)
  let llm ← group? (t.lookup "llm")
  let baseUrl ← setting? defaults.model.baseUrl text? (llm "base_url" 0)
  let model ← setting? defaults.model.model text? (llm "model" 1)
  let temperature ← setting? defaults.model.temperature number? (llm "temperature" 2)
  let pipeline ← group? (t.lookup "pipeline")
  let kind ← setting? defaults.run.kind kind? (pipeline "default" 0)
  let maxRounds ← setting? defaults.run.maxRounds count? (pipeline "max_controller_rounds" 1)
  let maxIterations ←
    setting? defaults.run.maxIterations count? (pipeline "max_tool_iterations" 2)
  return {
    general := { logLevel }
    model := { baseUrl, model, temperature }
    run := { kind, maxRounds, maxIterations } }

/-- The settings that a text holds. -/
def ofText (text : String) : Except SettingsError Settings :=
  match (Toml.parse text).bind ofTable? with
  | some s => .ok s
  | none => .error .malformed

end MathAgents.Settings
