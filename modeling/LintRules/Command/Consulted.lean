import LintRules.Command.Basic

/-!
# What the command asks for

Which variables a run of the command looks at, and which paths it asks a file system about, stage by
stage, so that the answers can be had before the run.
-/

namespace LintRules
namespace Command

/-- The names of the settings that the command looks at. -/
def settingNames : List String :=
  ["TEXTLINT_CONFIG", "TEXTLINT_RULE_PREFIX", "TEXTLINT_PLUGIN_PREFIX",
    "TEXTLINT_RULES_BASE_DIRECTORY"]

/-- The names of the variables that a run looks at: the settings, and those that the dot file
mentions. -/
def variableNames (files : Files) (workingDirectory : Path) : List String :=
  settingNames ++ (dotFileText? files workingDirectory).elim [] DotFile.names

/-- The paths asked for while a config is loaded, except for the files of rule directories. -/
def packagePaths (config : Config) : List Path :=
  let below (kind : PackageKind) (names : List String) : List Path :=
    names.flatMap fun name =>
      (config.naming.candidates kind name).flatMap (manifestPaths (baseDirectory config))
  below .rule config.rules ++ (below .preset config.presets ++ below .plugin config.plugins)

/-- The paths of the entries of rule directories. -/
def directoryPaths (files : Files) (config : Config) : List Path :=
  config.rulePaths.flatMap fun directory =>
    match files.names directory with
    | .ok names => names.map (Path.join directory)
    | .error _ => []

/-- The paths of the directories to watch. -/
def watchedPaths (workingDirectory : Path) (config : Config) : List Path :=
  config.rulePaths.map (Path.join workingDirectory)

end Command
end LintRules
