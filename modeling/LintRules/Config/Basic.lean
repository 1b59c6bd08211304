import LintRules.Json.Basic
import LintRules.Log
import LintRules.Naming
import LintRules.Path
import LintRules.Text.Quoted

/-!
# Configs

A `Config` says which rules, presets and plugins to load, from where, and with which options.  It
stays the same while it is loaded.

* `Config.extend`: one config on top of another; lists are appended and single settings replaced.
* `Config.isEmpty`: nothing would be loaded.
* `Config.summary`: the log entries that describe a config.
-/

namespace LintRules

/-- What to load. -/
structure Config where
  /-- Directories whose files are rules. -/
  rulePaths : List Path := []
  /-- Names of rules. -/
  rules : List String := []
  /-- Names of presets. -/
  presets : List String := []
  /-- Names of plugins. -/
  plugins : List String := []
  /-- Names of rules that are switched off. -/
  disabledRules : List String := []
  /-- Options of rules under the names of the rules. -/
  rulesConfig : Table Json := .empty
  /-- The directory in which packages are looked up. -/
  rulesBaseDirectory : Option Path := none
  naming : Naming := {}
  deriving Inhabited

namespace Config

/-- The config without any rules, with the settings of the environment. -/
def ofEnvironment (env : Environment) : Config where
  naming := .ofEnvironment env
  rulesBaseDirectory := env.setting? "TEXTLINT_RULES_BASE_DIRECTORY"

/-- The config with another one on top: its lists are appended, its options entered, and its base
directory counts if it has one.  The naming stays. -/
def extend (config other : Config) : Config where
  rulePaths := config.rulePaths ++ other.rulePaths
  rules := config.rules ++ other.rules
  presets := config.presets ++ other.presets
  plugins := config.plugins ++ other.plugins
  disabledRules := config.disabledRules ++ other.disabledRules
  rulesConfig := config.rulesConfig.extend other.rulesConfig.entries
  rulesBaseDirectory := other.rulesBaseDirectory.or config.rulesBaseDirectory
  naming := config.naming

/-- Whether nothing would be loaded. -/
def isEmpty (config : Config) : Bool :=
  config.rulePaths.isEmpty && config.rules.isEmpty && config.presets.isEmpty &&
    config.plugins.isEmpty

/-- The log entries that describe a config. -/
def summary (config : Config) : List LogEntry :=
  [.info "Config loaded:",
    .info ("  rulePaths: " ++ Text.quotedList config.rulePaths),
    .info ("  rules:     " ++ Text.quotedList config.rules),
    .info ("  presets:   " ++ Text.quotedList config.presets),
    .info ("  plugins:   " ++ Text.quotedList config.plugins),
    .info ("  baseDir:   " ++ config.rulesBaseDirectory.getD "(cwd)")]

end Config
end LintRules
