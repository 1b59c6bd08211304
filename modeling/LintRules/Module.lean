import LintRules.Handler
import LintRules.LoadError

/-!
# Modules

What a package exports: one rule, or a bundle of rules with or without a processor.  A reference
asks a module for what it needs, which the module may not export.
-/

namespace LintRules

/-- What a package exports. -/
inductive Module where
  | rule (handler : Handler)
  | bundle (rules : Option (Table Handler)) (processor : Option Processor)
  deriving DecidableEq, Inhabited

namespace Module

/-- The module of a preset. -/
def preset (rules : Table Handler) : Module := .bundle (some rules) none

/-- The rule that a module exports. -/
def toRule (package : String) : Module → Except LoadError Handler
  | .rule handler => .ok handler
  | .bundle .. => .error (.unexpectedExport package .rule)

/-- The rules that a module exports for a preset. -/
def toPreset (package : String) : Module → Except LoadError (Table Handler)
  | .bundle (some rules) _ => .ok rules
  | .bundle none _ | .rule _ => .error (.unexpectedExport package .rules)

/-- The rules and the processor that a module exports for a plugin. -/
def toPlugin (package : String) :
    Module → Except LoadError (Option (Table Handler) × Option Processor)
  | .bundle rules processor => .ok (rules, processor)
  | .rule _ => .error (.unexpectedExport package .plugin)

end Module
end LintRules
