import LintRules.Files

/-!
# Recorded answers of a file system

A `FileRecord` holds what a file system said about some paths.  The answers of a record are those
of the file system for the paths in it, and "not found" for all others, so a computation that asks
only for recorded paths does not see the difference.
-/

namespace LintRules

/-- What a file system said about a path. -/
structure FileAnswers where
  kind : Except FileError FileKind
  text : Except FileError String
  names : Except FileError (List String)

/-- Paths with what a file system said about them. -/
abbrev FileRecord := List (Path × FileAnswers)

namespace FileRecord

/-- What the file system said about a path. -/
def answers (record : FileRecord) (path : Path) : FileAnswers :=
  match record.lookup path with
  | some answers => answers
  | none => ⟨.error .notFound, .error .notFound, .error .notFound⟩

/-- The recorded answers as a file system. -/
def files (record : FileRecord) : Files where
  kind path := (record.answers path).kind
  text path := (record.answers path).text
  names path := (record.answers path).names

end FileRecord
end LintRules
