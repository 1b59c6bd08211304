import LintRules.Command.Consulted
import LintRules.Files.Record

/-!
# The program

Asks the system what the command needs to know, runs the command on the answers, and prints what it
says.  While directories are watched, the program loads the same config again twice a second and
reports anew when the report has changed.
-/

namespace LintRules
namespace Main

/-- The values of those of some variables that are set. -/
def environment (names : List String) : IO Environment := do
  let values ← names.mapM fun name => do
    -- no variable has such a name, but the system would take it up to that character
    if '\x00' ∈ name.toList then return none
    return (← IO.getEnv name).map fun value => (name, value)
  return Environment.ofList (values.filterMap id)

/-- The number of the reason for an error, and the reason in words.  Some calls give the number with
its sign turned. -/
def errorReason? : IO.Error → Option (Nat × String)
  | .otherError code words | .resourceBusy code words | .resourceVanished code words
  | .unsupportedOperation code words | .hardwareFault code words
  | .unsatisfiedConstraints code words | .illegalOperation code words | .protocolError code words
  | .timeExpired code words | .interrupted _ code words | .noFileOrDirectory _ code words
  | .alreadyExists _ code words | .invalidArgument _ code words | .permissionDenied _ code words
  | .resourceExhausted _ code words | .inappropriateType _ code words
  | .noSuchThing _ code words => some ((if code < 0x80000000 then code else 0 - code).toNat, words)
  | .unexpectedEof | .userError _ => none

/-- Why the file system refuses. -/
def fileError (e : IO.Error) : FileError :=
  match errorReason? e with
  | some (2, _) => .notFound
  | some (13, _) => .other "Permission denied (os error 13)"
  | some (20, _) => .notADirectory
  | some (21, _) => .isADirectory
  | some (36, _) => .nameTooLong
  | some (40, _) => .other "Too many levels of symbolic links (os error 40)"
  | some (number, words) => .other (words ++ " (os error " ++ toString number ++ ")")
  | none => .other (toString e)

/-- The answers to all questions about a path that cannot be used. -/
def refused (why : FileError) : FileAnswers := ⟨.error why, .error why, .error why⟩

/-- Asks the file system about a path.  What is neither a regular file nor a directory is read only
on demand, because a pipe can be read once and may keep its reader waiting. -/
def ask (readsAny : Bool) (path : Path) : IO FileAnswers := do
  if '\x00' ∈ path.toList then return refused .nulInPath
  let entry : IO.FS.DirEntry := { root := path, fileName := "" }
  match ← entry.root.metadata.toBaseIO with
  | .error e => return refused (fileError e)
  | .ok data =>
    if data.type == .dir then
      let names ← match ← entry.root.readDir.toBaseIO with
        | .ok entries => pure (.ok (entries.toList.map (·.fileName)))
        | .error e => pure (.error (fileError e))
      return ⟨.ok .directory, .error .isADirectory, names⟩
    else
      let kind : FileKind := if data.type == .file then .file else .other
      if kind = .other && !readsAny then
        return ⟨.ok kind, .error (.other "not read"), .error .notADirectory⟩
      let text ← match ← (IO.FS.readBinFile entry.root).toBaseIO with
        | .ok bytes => pure (decodeFile bytes.toList)
        | .error e => pure (.error (fileError e))
      return ⟨.ok kind, text, .error .notADirectory⟩

/-- Asks the file system about paths. -/
def askAll (readsAny : Bool) (paths : List Path) : IO FileRecord :=
  paths.mapM fun path => do return (path, ← ask readsAny path)

/-- Asks the file system about all that a load of the config needs. -/
def askForLoad (workingDirectory : Path) (config : Config) : IO FileRecord := do
  let first ← askAll false (config.rulePaths ++
    (Command.watchedPaths workingDirectory config ++ Command.packagePaths config))
  return first ++ (← askAll false (Command.directoryPaths first.files config))

/-- Asks the file system about all that a run with these arguments needs, besides the dot file.  The
config file that is asked for is read whatever it is. -/
def askForRun (dotFile : FileRecord) (env : Environment) (workingDirectory : Path)
    (args : List String) : IO FileRecord := do
  let env := Command.withDotFile dotFile.files workingDirectory env
  match Arguments.parse env args with
  | .error _ => return dotFile
  | .ok arguments =>
    let given ← askAll true arguments.config.toList
    let record := given ++ dotFile ++ (← askAll false [Command.defaultRc])
    match Command.config record.files env arguments with
    | .error _ => return record
    | .ok config => return record ++ (← askForLoad workingDirectory config)

/-- Prints a text at once, whatever the output is connected to. -/
def say (text : String) : IO Unit := do
  let out ← IO.getStdout
  out.putStr text
  out.flush

/-- Loads the config again and again, and prints the report whenever it is another one. -/
partial def watchFor (workingDirectory : Path) (config : Config) (json : Bool) (last : String) :
    IO Unit := do
  IO.sleep 500
  let record ← askForLoad workingDirectory config
  match (Command.load record.files config).2 with
  | .error _ => watchFor workingDirectory config json last
  | .ok report =>
    let text := report.text json
    if text != last then say text
    watchFor workingDirectory config json text

end Main
end LintRules

open LintRules in
/-- Runs the command with the arguments of the program. -/
def main (args : List String) : IO UInt32 := do
  let workingDirectory := toString (← IO.currentDir)
  let dotFile ← Main.askAll false (Command.dotFilePaths workingDirectory)
  let env ← Main.environment (Command.variableNames dotFile.files workingDirectory)
  let record ← Main.askForRun dotFile env workingDirectory args
  let outcome := Command.run record.files env workingDirectory args
  Main.say outcome.stdout
  IO.eprint outcome.stderr
  if !outcome.watching.isEmpty then
    let env := Command.withDotFile record.files workingDirectory env
    if let .ok arguments := Arguments.parse env args then
      if let .ok config := Command.config record.files env arguments then
        Main.watchFor workingDirectory config arguments.json outcome.stdout
  return UInt32.ofNat outcome.code
