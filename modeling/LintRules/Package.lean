import LintRules.Naming
import LintRules.Path

/-!
# References to packages

A config refers to a rule, a preset or a plugin by a name, which may lack the lead of the package
name.  `Naming.candidates` lists the packages that a name may mean; the one with the full name
comes first.  A `Locator` says which package was found, and where.
-/

namespace LintRules

open Text

/-- What a package is referred to as, and what its manifest says it is. -/
inductive PackageKind where
  | rule
  | preset
  | plugin
  deriving DecidableEq, Repr, Inhabited

/-- The kind in words. -/
def PackageKind.text : PackageKind → String
  | .rule => "rule"
  | .preset => "preset"
  | .plugin => "plugin"

/-- The full name of a package. -/
def Naming.fullName (naming : Naming) (kind : PackageKind) (name : String) : String :=
  match kind with
  | .rule => naming.rulePrefix ++ naming.stripRule name
  | .preset =>
    if naming.isPreset name then naming.rulePrefix ++ naming.stripRule name
    else naming.rulePrefix ++ presetLead ++ naming.stripRule name
  | .plugin => naming.pluginPrefix ++ naming.stripPlugin name

/-- The packages that a name may mean: the one with the full name, and the one with the name as it
is if that is different. -/
def Naming.candidates (naming : Naming) (kind : PackageKind) (name : String) : List String :=
  let full := naming.fullName kind name
  if full = name then [full] else [full, name]

/-- A package that was found. -/
structure Locator where
  /-- What it was referred to as. -/
  kind : PackageKind
  package : String
  /-- The file it is in, if it is in a file. -/
  path : Option Path
  deriving DecidableEq, Repr

end LintRules
