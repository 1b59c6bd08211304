import LintRules.Path
import LintRules.Text.Octets

/-!
# What a file system answers

The loading layer asks a file system three questions: what stands at a path, what text a file
holds, and which names a directory holds.  `Files` is the three answers as functions of the path,
so that every statement about a load is a statement about every file system that does not change
while it runs.

`FileError` is the reason why a question has no answer, and `FileError.message` its wording.
`decodeFile` is the text of the bytes of a file; of bytes that are no text, the lines before the
first one that cannot be read are kept.
-/

namespace LintRules

/-- Why a path cannot be used. -/
inductive FileError where
  | notFound
  | notADirectory
  | isADirectory
  | nameTooLong
  /-- The file holds bytes that are no text; `before` is the text of the lines before them. -/
  | notText (before : String)
  /-- The path holds the character U+0000. -/
  | nulInPath
  /-- Any other failure, in the words of the system. -/
  | other (message : String)
  deriving DecidableEq, Repr, Inhabited

/-- The reason in words. -/
def FileError.message : FileError → String
  | .notFound => "No such file or directory (os error 2)"
  | .notADirectory => "Not a directory (os error 20)"
  | .isADirectory => "Is a directory (os error 21)"
  | .nameTooLong => "File name too long (os error 36)"
  | .notText _ => "stream did not contain valid UTF-8"
  | .nulInPath => "file name contained an unexpected NUL byte"
  | .other message => message

/-- The text of the bytes of a file. -/
def decodeFile (bytes : List UInt8) : Except FileError String :=
  match Text.ofOctets? bytes with
  | some text => .ok text
  | none => .error (.notText (Text.ofLegibleLines (Text.octetLines bytes)))

/-- What stands at a path. -/
inductive FileKind where
  /-- A regular file. -/
  | file
  | directory
  /-- Anything else, such as a pipe or a device. -/
  | other
  deriving DecidableEq, Repr

/-- The answers of a file system. -/
structure Files where
  /-- What stands at a path. -/
  kind : Path → Except FileError FileKind
  /-- The text of a file. -/
  text : Path → Except FileError String
  /-- The names in a directory, in any order. -/
  names : Path → Except FileError (List String)

/-- Whether a regular file stands at the path. -/
def Files.isFile (files : Files) (path : Path) : Bool :=
  match files.kind path with
  | .ok .file => true
  | _ => false

/-- The file system without any files. -/
def Files.none : Files where
  kind _ := .error .notFound
  text _ := .error .notFound
  names _ := .error .notFound

end LintRules
