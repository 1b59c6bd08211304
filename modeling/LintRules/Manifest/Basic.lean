import LintRules.Module

/-!
# Manifests of packages

A manifest declares the content of a package: a rule by its terms, or the rules of a preset or a
plugin, each by its terms, and the extensions that a plugin processes.

`Manifest.toModule` checks what a manifest declares against its kind and makes the module of it.
-/

namespace LintRules

/-- What a package declares. -/
structure Manifest where
  kind : PackageKind := .rule
  description : Option String := none
  terms : List Term := []
  /-- The rules of a preset or a plugin. -/
  rules : Option (Table TermRule) := none
  /-- The extensions that a plugin processes. -/
  extensions : Option (List String) := none
  deriving DecidableEq, Inhabited

/-- The handler of a rule: it needs a term, and no pattern may be empty. -/
def TermRule.toHandler (package : String) (rule : TermRule) : Except LoadError Handler :=
  if rule.terms.isEmpty then .error (.invalidModule package .noTerms)
  else if rule.terms.any (·.pattern = "") then .error (.invalidModule package .emptyPattern)
  else .ok (.ofTerms rule)

namespace Manifest

/-- The handlers of rules one after another; a rule is reported under the package and its name. -/
def handlers (package : String) :
    List (String × TermRule) → Except LoadError (List (String × Handler))
  | [] => .ok []
  | (name, rule) :: rest => do
    let handler ← rule.toHandler (package ++ "/" ++ name)
    let more ← handlers package rest
    return (name, handler) :: more

/-- The handlers of a table of rules. -/
def handlerTable (package : String) (rules : Table TermRule) : Except LoadError (Table Handler) :=
  (handlers package rules.entries).map Table.ofList

/-- The module that a manifest declares. -/
def toModule (package : String) (manifest : Manifest) : Except LoadError Module :=
  match manifest.kind with
  | .rule =>
    if manifest.rules.isSome || manifest.extensions.isSome then
      .error (.invalidModule package .ruleWithSections)
    else
      (TermRule.toHandler package ⟨manifest.description, manifest.terms⟩).map .rule
  | .preset =>
    if manifest.extensions.isSome then .error (.invalidModule package .presetWithProcessor)
    else
      match manifest.rules with
      | none => .error (.unexpectedExport package .rules)
      | some rules => (handlerTable package rules).map .preset
  | .plugin =>
    let processor := manifest.extensions.map .ofExtensions
    match manifest.rules with
    | none => .ok (.bundle none processor)
    | some rules =>
      (handlerTable package rules).map fun handlers => .bundle (some handlers) processor

end Manifest
end LintRules
