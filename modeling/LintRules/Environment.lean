import LintRules.Table

/-!
# Environment variables

An environment gives values to names.  A variable that is set to the empty text counts as unset
where a setting is read from it (`setting?`), but not where it would be overridden by another
source of variables (`withDefault`).
-/

namespace LintRules

/-- The variables that are set. -/
structure Environment where
  assigned : Table String := .empty
  deriving DecidableEq

namespace Environment

/-- The environment with the given variables; of equal names the last counts. -/
def ofList (assignments : List (String × String)) : Environment := ⟨.ofList assignments⟩

/-- The value of a variable that is set. -/
def value? (env : Environment) (name : String) : Option String := env.assigned.get? name

/-- The value of a variable that is set to something. -/
def setting? (env : Environment) (name : String) : Option String :=
  (env.value? name).filter (· ≠ "")

/-- Sets a variable unless it is set already. -/
def withDefault (env : Environment) (name value : String) : Environment :=
  if (env.value? name).isSome then env else ⟨env.assigned.insert name value⟩

theorem withDefault_of_isSome {env : Environment} {name : String}
    (h : (env.value? name).isSome) (value : String) : env.withDefault name value = env := by
  rw [withDefault, if_pos h]

theorem value?_withDefault_of_ne (env : Environment) {name other : String} (value : String)
    (h : other ≠ name) : (env.withDefault name value).value? other = env.value? other := by
  rw [withDefault]
  split
  · rfl
  · exact Table.get?_insert_of_ne _ _ h

end Environment
end LintRules
