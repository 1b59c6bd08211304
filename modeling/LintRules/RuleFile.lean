import LintRules.Path

/-!
# Rule files and their changes

A rule file is a visible file whose name ends in one of three extensions; which files of a
directory are rules depends on their names only.

`RuleFileChange.ofEvent` says what a report of the file system means for the rule files it names.
-/

namespace LintRules

/-- The extensions of rule files. -/
def ruleFileExtensions : List String := ["yml", "yaml", "json"]

/-- Whether a path names a rule file. -/
def isRuleFile (path : Path) : Bool :=
  (Path.fileName? path).any (fun name => name.head? != some '.') &&
    (Path.extension? path).any ruleFileExtensions.contains

/-! ## Reports of a file system -/

/-- What an entry of a directory is said to be. -/
inductive EntryKind where
  | any
  | file
  | folder
  | other
  deriving DecidableEq, Repr

/-- Which end of a renaming is reported. -/
inductive RenameEnd where
  | any
  | to
  | from
  | both
  | other
  deriving DecidableEq, Repr

/-- What about an entry is said to have changed. -/
inductive Modification where
  | any
  | data
  | metadata
  | name (ends : RenameEnd)
  | other
  deriving DecidableEq, Repr

/-- What a file system reports. -/
inductive FileEvent where
  | any
  | access
  | create (what : EntryKind)
  | modify (how : Modification)
  | remove (what : EntryKind)
  | other
  deriving DecidableEq, Repr

/-- What became of a rule file. -/
inductive RuleFileChange where
  /-- The file is new or may have another content. -/
  | upserted (path : Path)
  | removed (path : Path)
  deriving DecidableEq, Repr

namespace RuleFileChange

/-- The file that changed. -/
def path : RuleFileChange → Path
  | .upserted path | .removed path => path

/-- What a report means for a file. -/
def ofKind? (kind : FileEvent) (path : Path) : Option RuleFileChange :=
  match kind with
  | .create .file | .modify .data | .modify (.name _) => some (.upserted path)
  | .remove .file => some (.removed path)
  | _ => none

/-- What a report means for the rule files among the paths that it names, in their order. -/
def ofEvent (kind : FileEvent) (paths : List Path) : List RuleFileChange :=
  (paths.filter isRuleFile).filterMap (ofKind? kind)

end RuleFileChange
end LintRules
