import MathAgents.Tool.Request

namespace MathAgents.ToolRequest

/-!
# Arguments of tool requests

A model writes the arguments of a tool call as a text, and a tool asks for those that it needs as
strings.  Either may fail, and this file says when.

* `Reads`, `ofText_eq_ok_iff` — the texts that can be read, and as which arguments.
* `argument_eq_ok_iff` — the arguments that are strings.
-/

variable {r : ToolRequest} {name text key : String}

/-- Whether a text can be read as these arguments: a blank text stands for none, and any other text
    has to be an object. -/
def Reads (text : String) (arguments : Fields) : Prop :=
  (Text.isBlank text ∧ arguments = []) ∨
    (¬ Text.isBlank text ∧ Json.parse text = .ok (.obj arguments))

/-- A request is made of a text exactly if its arguments are read from it. -/
theorem ofText_eq_ok_iff : ofText name text = .ok r ↔ r.name = name ∧ Reads text r.arguments := by
  obtain ⟨rname, arguments⟩ := r
  unfold ofText Reads
  by_cases hblank : Text.isBlank text
  · simp [hblank, eq_comm]
  · simp only [hblank]
    cases Json.parse text with
    | error fault => simp
    | ok j => cases j <;> simp [eq_comm]

/-- No request is made of a text exactly if it cannot be read. -/
theorem exists_ofText_eq_error_iff :
    (∃ e, ofText name text = .error e) ↔ ¬ ∃ arguments, Reads text arguments := by
  constructor
  · rintro ⟨e, he⟩ ⟨arguments, hreads⟩
    have hok : ofText name text = .ok ⟨name, arguments⟩ := ofText_eq_ok_iff.mpr ⟨rfl, hreads⟩
    rw [he] at hok
    cases hok
  · intro hnone
    cases hread : ofText name text with
    | error e => exact ⟨e, rfl⟩
    | ok r => exact absurd ⟨r.arguments, (ofText_eq_ok_iff.mp hread).2⟩ hnone

/-- An argument is given exactly if it is a string. -/
theorem argument_eq_ok_iff :
    r.argument key = .ok text ↔ r.arguments.get? key = some (.str text) := by
  have hstring (j : Json) : j.asString? = some text ↔ j = .str text := by
    cases j <;> simp [Json.asString?]
  have hgiven : r.argument? key = some text ↔ r.arguments.get? key = some (.str text) := by
    simp [argument?, Option.bind_eq_some_iff, hstring]
  rw [← hgiven, argument]
  cases r.argument? key <;> simp

/-- An argument that is no string, or that is left out, is reported to be missing. -/
theorem argument_eq_error (h : ¬ ∃ text, r.arguments.get? key = some (.str text)) :
    r.argument key = .error (.missingArgument key) := by
  cases hargument : r.argument? key with
  | none => rw [argument, hargument]
  | some text =>
    have hok : r.argument key = .ok text := by rw [argument, hargument]
    exact absurd ⟨text, argument_eq_ok_iff.mp hok⟩ h

end MathAgents.ToolRequest
