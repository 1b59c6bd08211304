import LintRules.Json.Basic

/-!
# Log entries

What a component reports besides its result: a list of entries, in order.
-/

namespace LintRules

/-- How serious an entry is. -/
inductive Level where
  | info
  | warn
  deriving DecidableEq, Repr

/-- The level in words. -/
def Level.text : Level → String
  | .info => "INFO"
  | .warn => "WARN"

/-- The value of a field of an entry. -/
inductive LogValue where
  | text (s : String)
  | count (n : Nat)
  deriving DecidableEq, Repr

/-- An entry: a message, and named values that belong to it. -/
structure LogEntry where
  level : Level
  message : String
  fields : List (String × LogValue) := []
  deriving DecidableEq, Repr

/-- An information without fields. -/
def LogEntry.info (message : String) : LogEntry := ⟨.info, message, []⟩

end LintRules
