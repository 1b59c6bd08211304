import LintRules.Command.Arguments
import LintRules.Command.Report
import LintRules.Config.Rc
import LintRules.Environment.DotFile
import LintRules.Loader

/-!
# The command

The command loads a config and reports what is registered.  The config is that of an rc file (the
one given, or else `.textlintrc` if there is one) or of the environment, with the arguments on
top; packages are looked up in its base directory, or else in the working directory.

* `Command.run`: what the command prints, logs, and ends with.
* `Command.config`, `Command.load`: its two stages.
-/

namespace LintRules

/-- Why the command fails: the error, and the errors that caused it. -/
structure Failure where
  message : String
  causes : List String := []
  deriving DecidableEq, Repr

namespace Failure

/-- The lines of a text after the first one begin with blanks. -/
def indentLines (blanks : Nat) (text : String) : String :=
  String.ofList (text.toList.flatMap fun c =>
    if c = '\n' then '\n' :: List.replicate blanks ' ' else [c])

/-- The causes one below the other, with numbers from `n` on. -/
def numbered (n : Nat) : List String → String
  | [] => ""
  | cause :: rest =>
    let number := toString n
    "\n" ++ String.ofList (List.replicate (5 - number.length) ' ') ++ number ++ ": " ++
      indentLines 7 cause ++ numbered (n + 1) rest

/-- The failure in words; several causes are numbered. -/
def text (failure : Failure) : String :=
  "Error: " ++ failure.message ++
    (match failure.causes with
      | [] => ""
      | [cause] => "\n\nCaused by:\n    " ++ indentLines 4 cause
      | causes => "\n\nCaused by:" ++ numbered 0 causes) ++ "\n"

/-- The failure to get a config from an rc file. -/
def ofConfigError (path : Path) (e : ConfigError) : Failure where
  message := "failed to load config " ++ path
  causes := e.message :: match e with
    | .file why => [why.message]
    | .unreadable _ why => [why.message]
    | .options .. => []

/-- The failure to load something. -/
def ofLoadError (e : LoadError) : Failure where
  message := e.message
  causes := match e with
    | .file _ why => [why.message]
    | .unreadable _ why => [why.message]
    | .unwatchable path why => [LoadError.watchFailure path why]
    | .notFound .. | .invalidModule .. | .unexpectedExport .. | .rejected _ => []

end Failure

/-- What the command does to the world. -/
structure Outcome where
  /-- Zero for success, one for a failure, two for wrong arguments. -/
  code : Nat
  stdout : String := ""
  stderr : String := ""
  log : List LogEntry := []
  /-- The directories that are watched from then on. -/
  watching : List Path := []

namespace Command

/-- The rc file that is read where none is given. -/
def defaultRc : Path := ".textlintrc"

/-- The rc file to read. -/
def rcPath? (files : Files) (arguments : Arguments) : Option Path :=
  arguments.config.or (if files.isFile defaultRc then some defaultRc else none)

/-- The config to load. -/
def config (files : Files) (env : Environment) (arguments : Arguments) :
    Except Failure Config :=
  match rcPath? files arguments with
  | none => .ok ((Config.ofEnvironment env).extend arguments.toConfig)
  | some path =>
    match Config.loadRc files env path with
    | .ok config => .ok (config.extend arguments.toConfig)
    | .error e => .error (.ofConfigError path e)

/-- The directory in which packages are looked up. -/
def baseDirectory (config : Config) : Path := config.rulesBaseDirectory.getD "."

/-- The loader of a config. -/
def loader (files : Files) (config : Config) : Loader where
  config
  source := (Resolver.directory (baseDirectory config)).source files
  scanner := RuleDirectory.scanner files

/-- The warning about a rule file that is left out. -/
def skipWarning (e : LoadError) : LogEntry :=
  ⟨.warn, "skipped rule file", [("error", .text e.message)]⟩

/-- What is logged for a step of a load. -/
def logOf : LoadAction → List LogEntry
  | .log entry => [entry]
  | .announce (.failure e) => [skipWarning e]
  | .announce _ | .scan _ | .resolve .. => []

/-- Loads a config: the log, and the report or the failure. -/
def load (files : Files) (config : Config) : List LogEntry × Except LoadError Report :=
  let (_, done, result) :=
    (loader files config).loadRegistries (.accepting fun _ (s : Unit) => s) ()
  (done.flatMap logOf, result.map fun r => ⟨r.1, r.2⟩)

/-- The end of a run that has loaded a config: the directories to watch, if that is asked for. -/
def watch (files : Files) (workingDirectory : Path) (arguments : Arguments) (config : Config)
    (outcome : Outcome) : Outcome :=
  if !arguments.watch then outcome
  else if config.rulePaths.isEmpty then
    { outcome with
      log := outcome.log ++ [⟨.warn, "--watch given but no rule directories configured", []⟩] }
  else
    match RuleDirectory.watch files workingDirectory config.rulePaths with
    | (log, .ok dirs) => { outcome with log := outcome.log ++ log, watching := dirs }
    | (log, .error e) =>
      { outcome with
        code := 1
        stderr := (Failure.ofLoadError e).text
        log := outcome.log ++ log }

/-- What the command does with parsed arguments. -/
def runArguments (files : Files) (env : Environment) (workingDirectory : Path)
    (arguments : Arguments) : Outcome :=
  match config files env arguments with
  | .error failure => { code := 1, stderr := failure.text }
  | .ok config =>
    match load files config with
    | (log, .error e) =>
      { code := 1, stderr := (Failure.ofLoadError e).text, log := config.summary ++ log }
    | (log, .ok report) =>
      watch files workingDirectory arguments config
        { code := 0, stdout := report.text arguments.json, log := config.summary ++ log }

/-- The name and the version of the command. -/
def versionText : String := "textlint-rules 0.1.0\n"

/-- How the command is used. -/
def usage : String :=
  "Usage: textlint-rules [-c <CONFIG>] [--rulesdir <DIR>] [--rule <NAME>] [--preset <NAME>] " ++
    "[--plugin <NAME>] [--rules-base-directory <DIR>] [--json] [--watch] [-h] [-V]\n"

/-- Where a dot file is looked for: in the working directory, and then in each one above it. -/
def dotFilePaths (workingDirectory : Path) : List Path :=
  (Path.ancestors workingDirectory).map (Path.join · ".env")

/-- The first of some paths at which a regular file stands.  Paths at which nothing stands or
something else are passed over; the search ends at one that cannot be looked up. -/
def firstFile? (files : Files) : List Path → Option Path
  | [] => none
  | path :: rest =>
    match files.kind path with
    | .ok .file => some path
    | .ok _ | .error .notFound => firstFile? files rest
    | .error _ => none

/-- The text of the dot file.  Of one that is no text the lines before the first illegible one
count. -/
def dotFileText? (files : Files) (workingDirectory : Path) : Option String :=
  match firstFile? files (dotFilePaths workingDirectory) with
  | none => none
  | some path =>
    match files.text path with
    | .ok text | .error (.notText text) => some text
    | .error _ => none

/-- The environment with the variables of the dot file. -/
def withDotFile (files : Files) (workingDirectory : Path) (env : Environment) : Environment :=
  (dotFileText? files workingDirectory).elim env env.withDotFile

/-- What the command does. -/
def run (files : Files) (env : Environment) (workingDirectory : Path)
    (arguments : List String) : Outcome :=
  let env := withDotFile files workingDirectory env
  match Arguments.parse env arguments with
  | .error .wrongUsage => { code := 2, stderr := usage }
  | .error .version => { code := 0, stdout := versionText }
  | .error .help => { code := 0, stdout := usage }
  | .ok arguments => runArguments files env workingDirectory arguments

end Command
end LintRules
