import DocumentSearch.Json.Reading

/-!
What can go wrong, by cause. All but the faults of the engine and of the connection arise before a
command is sent. `message` holds the whole wording.
-/

namespace DocumentSearch

inductive Fault where
  /-- A condition on a field has no operand. -/
  | missingOperand (field : String)
  | unknownComparison (name : String)
  /-- A field is named without any condition. -/
  | noConditions (field : String)
  | badFilter (reason : String)
  /-- A range is asked of a field whose kind has no order. -/
  | rangeOnUnordered (field comparison kind : String)
  | unknownStorage (name : String)
  | unknownLanguage (name : String)
  /-- A document is not a schema, or a schema is not usable. -/
  | badSchema (reason : String)
  | server (text : String)
  | connection (text : String)
  /-- A command without a word. -/
  | emptyCommand
  /-- A document is not the record that was wanted. -/
  | mismatch (cause : Json.Mismatch)
deriving DecidableEq

namespace Fault

def message : Fault → String
  | .missingOperand field => s!"No value provided for field '{field}'"
  | .unknownComparison name => s!"Unsupported operation: {name}"
  | .noConditions field => s!"No operations provided for field '{field}'"
  | .badFilter reason => s!"Invalid filter: {reason}"
  | .rangeOnUnordered field comparison kind =>
    s!"Operation '{comparison}' is not supported on {kind} field '{field}'"
  | .unknownStorage name => s!"Invalid data type '{name}', expected one of: hash, string, json"
  | .unknownLanguage name => s!"Invalid language '{name}'"
  | .badSchema reason => s!"Invalid schema: {reason}"
  | .server text => text
  | .connection text => s!"Connection error: {text}"
  | .emptyCommand => "Cannot send an empty command"
  | .mismatch cause => cause.message

end Fault

theorem map_eq_ok_iff {ε α β : Type} {f : α → β} {result : Except ε α} {b : β} :
    result.map f = .ok b ↔ ∃ a, result = .ok a ∧ f a = b := by
  cases result <;> simp [Except.map]

theorem map_eq_error_iff {ε α β : Type} {f : α → β} {result : Except ε α} {fault : ε} :
    result.map f = .error fault ↔ result = .error fault := by
  cases result <;> simp [Except.map]

end DocumentSearch
