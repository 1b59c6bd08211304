import LintRules.Log
import LintRules.Manifest.Reading
import LintRules.RuleFile

/-!
# Rule directories

Every rule file in a directory is a rule under the name of the file without its extension.  The
files are taken in the order of their names.  A file that cannot be loaded is a failure, and so
is a file for a rule that is there already; the directory itself fails only when it cannot be
listed.

* `RuleDirectory.scan`: the rules and failures of a directory.
* `RuleDirectory.watch`: the directories that are watched, up to the first that cannot be.
-/

namespace LintRules

/-- A rule file that could not be loaded. -/
structure ScanFailure where
  path : Path
  error : LoadError
  deriving DecidableEq, Repr

/-- The rules of a directory and the files that could not be loaded. -/
structure DirectoryScan where
  rules : Table Handler := .empty
  failures : List ScanFailure := []
  deriving DecidableEq, Inhabited

/-- Scans directories: the log entries of a scan, and its result. -/
abbrev Scanner := Path → List LogEntry × Except LoadError DirectoryScan

namespace RuleDirectory

/-- The names of a directory in order. -/
def sortNames (names : List String) : List String :=
  names.mergeSort fun a b => !decide (b < a)

/-- The rule files among the entries of a directory, in the order of their names. -/
def ruleFiles (files : Files) (directory : Path) (names : List String) : List Path :=
  ((sortNames names).map (Path.join directory)).filter fun path =>
    files.isFile path && isRuleFile path

/-- The handler in a rule file. -/
def loadFile (files : Files) (path : Path) (name : String) : Except LoadError Handler := do
  let manifest ← Manifest.ofFile files path
  if manifest.kind ≠ .rule then .error (.unexpectedExport name .rule)
  else
    let module ← manifest.toModule name
    module.toRule name

/-- The handler that a file adds to the rules before it. -/
def loadNew (files : Files) (directory : Path) (rules : Table Handler) (path : Path)
    (name : String) : Except LoadError Handler :=
  if rules.contains name then .error (.invalidModule name (.duplicateRule name directory))
  else loadFile files path name

/-- Enters a file into a scan. -/
def enter (files : Files) (directory : Path) (scan : DirectoryScan) (path : Path) :
    DirectoryScan :=
  match Path.stem? path with
  | none => scan
  | some name =>
    match loadNew files directory scan.rules path name with
    | .ok handler => { scan with rules := scan.rules.insert name handler }
    | .error error => { scan with failures := scan.failures ++ [⟨path, error⟩] }

/-- The rules and failures of a directory. -/
def scan (files : Files) (directory : Path) : Except LoadError DirectoryScan :=
  match files.names directory with
  | .error why => .error (.file directory why)
  | .ok names => .ok ((ruleFiles files directory names).foldl (enter files directory) {})

/-- The warning about a file that could not be loaded. -/
def failureWarning (failure : ScanFailure) : LogEntry :=
  ⟨.warn, "failed to load rule file",
    [("path", .text failure.path), ("error", .text failure.error.message)]⟩

/-- The scanner of a file system: it warns of every failure. -/
def scanner (files : Files) : Scanner := fun directory =>
  match scan files directory with
  | .ok scan => (scan.failures.map failureWarning, .ok scan)
  | .error e => ([], .error e)

/-! ## Watching -/

/-- The entry about a directory that is watched. -/
def watchNote (directory : Path) : LogEntry :=
  ⟨.info, "watching rule directory for changes", [("path", .text directory)]⟩

/-- Watches directories in order up to the first that does not exist.  Each is looked up under its
path from the root on, and the error names it so. -/
def watch (files : Files) (workingDirectory : Path) (all : List Path) :
    List LogEntry × Except LoadError (List Path) :=
  go all
where
  /-- Watches the directories of a list. -/
  go : List Path → List LogEntry × Except LoadError (List Path)
    | [] => ([], .ok all)
    | directory :: rest =>
      let path := Path.join workingDirectory directory
      match files.kind path with
      | .error why => ([], .error (.unwatchable path why))
      | .ok _ =>
        let (log, result) := go rest
        (watchNote directory :: log, result)

end RuleDirectory
end LintRules
