import LintRules.Files
import LintRules.Package
import LintRules.Yaml.Reading

/-!
# What can go wrong while loading

`LoadError` has a constructor for each cause, and `LoadError.message` is the wording.
-/

namespace LintRules

/-- What is wrong with a module. -/
inductive ModuleFault where
  | noTerms
  | emptyPattern
  /-- A rule that also declares what only presets and plugins have. -/
  | ruleWithSections
  | presetWithProcessor
  /-- A second file for a rule of the same directory. -/
  | duplicateRule (rule : String) (directory : Path)
  deriving DecidableEq, Repr

/-- The fault in words. -/
def ModuleFault.message : ModuleFault → String
  | .noTerms => "rule defines no terms"
  | .emptyPattern => "term pattern must not be empty"
  | .ruleWithSections =>
    "a rule manifest cannot declare \x60rules\x60 or \x60processor\x60"
  | .presetWithProcessor => "a preset cannot declare a processor"
  | .duplicateRule rule directory =>
    "duplicate rule name \"" ++ rule ++ "\" in " ++ directory

/-- What a module is expected to export. -/
inductive Export where
  | rule
  | rules
  | plugin
  deriving DecidableEq, Repr

/-- The export in words. -/
def Export.text : Export → String
  | .rule => "a rule"
  | .rules => "a \x60rules\x60 mapping"
  | .plugin => "plugin rules or a processor"

/-- Why something cannot be loaded. -/
inductive LoadError where
  | notFound (kind : PackageKind) (name : String) (searched : List String)
  | file (path : Path) (why : FileError)
  | unreadable (path : Path) (why : Yaml.Unreadable)
  | invalidModule (package : String) (fault : ModuleFault)
  | unexpectedExport (package : String) (expected : Export)
  /-- A directory that cannot be watched. -/
  | unwatchable (path : Path) (why : FileError)
  /-- A listener refused an event. -/
  | rejected (message : String)
  deriving DecidableEq, Repr, Inhabited

namespace LoadError

/-- Whether a package was looked for and not found. -/
def isNotFound : LoadError → Bool
  | .notFound .. => true
  | _ => false

/-- Why a directory cannot be watched, in words; a path with the character U+0000 is refused by the
watcher itself. -/
def watchFailure (path : Path) (why : FileError) : String :=
  let reason := match why with
    | .nulInPath => "data provided contains a nul byte"
    | why => why.message
  reason ++ " about " ++ Text.quotedList [path]

/-- The error in words. -/
def message : LoadError → String
  | .notFound kind name searched =>
    "Failed to load textlint's " ++ kind.text ++ " module: \"" ++ name ++
      "\" is not found (searched: " ++ ", ".intercalate searched ++ ")"
  | .file path why => "IO error at " ++ path ++ ": " ++ why.message
  | .unreadable path why => "Failed to parse " ++ path ++ ": " ++ why.message
  | .invalidModule package fault =>
    "Invalid module \"" ++ package ++ "\": " ++ fault.message
  | .unexpectedExport package expected =>
    "Module \"" ++ package ++ "\" does not export " ++ expected.text
  | .unwatchable path why => "Notify watcher error: " ++ watchFailure path why
  | .rejected message => "Rejected: " ++ message

end LoadError
end LintRules
