import LintRules.Json.Basic
import LintRules.Text.Column

/-!
# Rule handlers and processors

What packages export: handlers of rules and processors of files.  The loading layer hands them on
and looks only at what they say about themselves.

A handler is made from the terms of a manifest, or is built in; of a built-in one only its name
and what it says about itself are known here, and two of them are the same handler when all of it
agrees.
-/

namespace LintRules

/-- What a handler is able to do. -/
structure Capabilities where
  /-- It reports issues. -/
  linter : Bool := false
  /-- It proposes replacements. -/
  fixer : Bool := false
  deriving DecidableEq, Repr

namespace Capabilities

/-- Reports issues only. -/
def lint : Capabilities := ⟨true, false⟩

/-- Reports issues and proposes replacements. -/
def fix : Capabilities := ⟨true, true⟩

/-- The capabilities in words. -/
def text : Capabilities → String
  | ⟨true, true⟩ => "lint+fix"
  | ⟨true, false⟩ => "lint"
  | ⟨false, true⟩ => "fix"
  | ⟨false, false⟩ => "none"

/-- The capabilities in a column of a report. -/
def textIn (column : Text.Column) (c : Capabilities) : String :=
  String.ofList (column.fit c.text.toList)

/-- The capabilities as an object. -/
def toJson (c : Capabilities) : Json :=
  .obj [("linter", .bool c.linter), ("fixer", .bool c.fixer)]

end Capabilities

/-- A term that a rule looks for. -/
structure Term where
  pattern : String
  replacement : Option String := none
  message : Option String := none
  deriving DecidableEq, Repr, Inhabited

/-- A rule made of terms. -/
structure TermRule where
  description : Option String := none
  terms : List Term := []
  deriving DecidableEq, Repr, Inhabited

/-- A rule of terms always reports, and it proposes replacements if one of its terms has one. -/
def TermRule.capabilities (rule : TermRule) : Capabilities :=
  if rule.terms.any (·.replacement.isSome) then .fix else .lint

/-- A handler of a rule. -/
inductive Handler where
  | ofTerms (rule : TermRule)
  | builtIn (name : String) (capabilities : Capabilities) (description : Option String)
  deriving DecidableEq, Repr, Inhabited

namespace Handler

/-- What the handler is able to do. -/
def capabilities : Handler → Capabilities
  | .ofTerms rule => rule.capabilities
  | .builtIn _ capabilities _ => capabilities

/-- What the handler says it is for. -/
def description : Handler → Option String
  | .ofTerms rule => rule.description
  | .builtIn _ _ description => description

end Handler

/-- A processor: the extensions of the files that it handles. -/
structure Processor where
  extensions : List String
  deriving DecidableEq, Repr, Inhabited

/-- An extension with a leading dot. -/
def dotted (extension : String) : String :=
  if extension.toList.head? = some '.' then extension else "." ++ extension

/-- The processor of a list of extensions, which get a leading dot where they have none. -/
def Processor.ofExtensions (extensions : List String) : Processor := ⟨extensions.map dotted⟩

/-- A dotted extension stays as it is. -/
theorem dotted_dotted (extension : String) : dotted (dotted extension) = dotted extension := by
  rw [dotted.eq_def (dotted extension), if_pos]
  rw [dotted]
  split
  · next h => exact h
  · simp [String.toList_append]

end LintRules
