import LintRules.Config.Basic
import LintRules.Registry
import LintRules.Resolver
import LintRules.RuleDirectory

/-!
# Loading a config

What a load does is laid down as a `Script` before anyone listens: the actions in order (which
directory is scanned, which reference is resolved, what is logged and announced) and how it ends.
A script is the load as it goes when no event is rejected; `Script.perform` plays it to a listener
and stops where the listener rejects an event.

The sources of a config are loaded in the order directories, rules, presets, plugins, so that a
later source wins in a registry.

* `Loader.loadRule`, `Loader.loadPreset`, `Loader.loadPlugin`: the load of one reference.  A name
  with the shape of a plugin's rule is not loaded, and a warning says so.
* `Loader.loadConfig`: the load of a config.
* `Loader.loadRegistries`: the registries that a load fills.
-/

namespace LintRules

/-! ## Scripts -/

/-- A step of a load. -/
inductive LoadAction where
  | scan (directory : Path)
  | resolve (kind : PackageKind) (name : String)
  | log (entry : LogEntry)
  | announce (event : LoadEvent)
  deriving DecidableEq

namespace LoadAction

/-- The entry that a step logs. -/
def logged? : LoadAction → Option LogEntry
  | .log entry => some entry
  | .scan _ | .resolve .. | .announce _ => none

/-- The event that a step announces. -/
def announced? : LoadAction → Option LoadEvent
  | .announce event => some event
  | .scan _ | .resolve .. | .log _ => none

end LoadAction

/-- The steps of a load, and how it ends. -/
structure Script where
  actions : List LoadAction := []
  result : Except LoadError Unit := .ok ()

namespace Script

/-- The entries that a script logs. -/
def log (script : Script) : List LogEntry := script.actions.filterMap (·.logged?)

/-- The events that a script announces. -/
def events (script : Script) : List LoadEvent := script.actions.filterMap (·.announced?)

/-- One script after another, unless the first one fails. -/
def andThen (first second : Script) : Script :=
  match first.result with
  | .ok () => ⟨first.actions ++ second.actions, second.result⟩
  | .error _ => first

/-- Scripts one after another up to the first that fails. -/
def sequence : List Script → Script
  | [] => {}
  | first :: rest => first.andThen (sequence rest)

/-- The script that does `actions` and then goes on with the value that it asked for. -/
def asking {α : Type} (actions : List LoadAction) (answer : Except LoadError α)
    (next : α → List LoadAction) : Script :=
  match answer with
  | .ok a => ⟨actions ++ next a, .ok ()⟩
  | .error e => ⟨actions, .error e⟩

variable {σ : Type}

/-- Plays actions to a listener up to the first event that it rejects: its state, the actions
played, and its objection. -/
def play (listener : Listener σ) (s : σ) :
    List LoadAction → σ × List LoadAction × Except LoadError Unit
  | [] => (s, [], .ok ())
  | .announce event :: rest =>
    match listener.hear event s with
    | (s, .error e) => (s, [.announce event], .error e)
    | (s, .ok ()) =>
      let (s, done, result) := play listener s rest
      (s, .announce event :: done, result)
  | action :: rest =>
    let (s, done, result) := play listener s rest
    (s, action :: done, result)

/-- Plays a script to a listener: its state, the actions played, and how the load ends. -/
def perform (script : Script) (listener : Listener σ) (s : σ) :
    σ × List LoadAction × Except LoadError Unit :=
  match play listener s script.actions with
  | (s, done, .ok ()) => (s, done, script.result)
  | (s, done, .error e) => (s, done, .error e)

@[simp] theorem sequence_nil : sequence [] = {} := rfl

@[simp] theorem sequence_cons (first : Script) (rest : List Script) :
    sequence (first :: rest) = first.andThen (sequence rest) := rfl

theorem andThen_of_ok {first : Script} (h : first.result = .ok ()) (second : Script) :
    first.andThen second = ⟨first.actions ++ second.actions, second.result⟩ := by
  rw [andThen, h]

theorem andThen_of_error {first : Script} {e : LoadError} (h : first.result = .error e)
    (second : Script) : first.andThen second = first := by
  rw [andThen, h]

end Script

/-! ## The loader -/

/-- What a load needs: the config, the packages, and the rule directories. -/
structure Loader where
  config : Config
  source : PackageSource
  scanner : Scanner

namespace Loader

/-- The warning about a name with the shape of a plugin's rule. -/
def pluginRuleWarning (kind : PackageKind) (name : String) : LogEntry :=
  ⟨.warn, name ++ " is Plugin's rule. This is unknown case, please report issue.",
    [(kind.text, .text name)]⟩

/-- The summary of a load. -/
def summary (config : Config) : LogEntry :=
  ⟨.info, "loaded modules from config",
    [("rule_paths", .count config.rulePaths.length), ("rules", .count config.rules.length),
      ("presets", .count config.presets.length), ("plugins", .count config.plugins.length)]⟩

/-- The module of a reference, with what `export` takes from it under the package's name. -/
def module {α : Type} (loader : Loader) (kind : PackageKind) (name : String)
    (take : String → Module → Except LoadError α) : Except LoadError α := do
  let locator ← loader.source.resolve loader.config.naming kind name
  let module ← loader.source.require locator
  take locator.package module

/-- The events of a scan. -/
def scanEvents (scan : DirectoryScan) : List LoadEvent :=
  scan.rules.entries.map (fun e => .rule (.flat e.1) e.2) ++
    scan.failures.map fun f => .failure f.error

/-- The events of a preset under a name. -/
def presetEvents (name : String) (rules : Table Handler) : List LoadEvent :=
  rules.entries.map fun e => .rule (.preset name e.1) e.2

/-- The events of a plugin under a name. -/
def pluginEvents (name : String) (rules : Option (Table Handler))
    (processor : Option Processor) : List LoadEvent :=
  ((rules.map (·.entries)).getD []).map (fun e => .rule (.plugin name e.1) e.2) ++
    processor.toList.map (.processor name)

/-- The load of a rule directory. -/
def loadDirectory (loader : Loader) (directory : Path) : Script :=
  let (log, answer) := loader.scanner directory
  .asking (.scan directory :: log.map .log) answer fun scan => (scanEvents scan).map .announce

/-- The load of a rule. -/
def loadRule (loader : Loader) (name : String) : Script :=
  let defined := loader.config.naming.stripRule name
  if isPluginRuleName defined then { actions := [.log (pluginRuleWarning .rule defined)] }
  else
    .asking [.resolve .rule name] (loader.module .rule name Module.toRule) fun handler =>
      [.announce (.rule (.flat defined) handler)]

/-- The load of a preset. -/
def loadPreset (loader : Loader) (name : String) : Script :=
  let defined := loader.config.naming.stripRule name
  if isPluginRuleName defined then { actions := [.log (pluginRuleWarning .preset defined)] }
  else
    .asking [.resolve .preset name] (loader.module .preset name Module.toPreset) fun rules =>
      (presetEvents defined rules).map .announce

/-- The load of a plugin. -/
def loadPlugin (loader : Loader) (name : String) : Script :=
  let defined := loader.config.naming.stripPlugin name
  .asking [.resolve .plugin name] (loader.module .plugin name Module.toPlugin)
    fun (rules, processor) => (pluginEvents defined rules processor).map .announce

/-- The load of all sources of the config. -/
def loadSources (loader : Loader) : Script :=
  .sequence (
    loader.config.rulePaths.map loader.loadDirectory ++
      (loader.config.rules.map loader.loadRule ++
        (loader.config.presets.map loader.loadPreset ++
          loader.config.plugins.map loader.loadPlugin)))

/-- The load of the config, with a summary at its end. -/
def loadConfig (loader : Loader) : Script :=
  loader.loadSources.andThen { actions := [.log (summary loader.config)] }

/-- Fills two registries and shows every event to an observer. -/
def registering {σ : Type} (observer : Listener σ) :
    Listener (RuleRegistry × ProcessorRegistry × σ) :=
  RuleRegistry.listener.both (ProcessorRegistry.listener.both observer)

/-- The load of the config into empty registries: the state of the observer, the actions, and the
registries. -/
def loadRegistries {σ : Type} (loader : Loader) (observer : Listener σ) (s : σ) :
    σ × List LoadAction × Except LoadError (RuleRegistry × ProcessorRegistry) :=
  match loader.loadConfig.perform (registering observer) ({}, {}, s) with
  | ((rules, processors, s), done, result) => (s, done, result.map fun _ => (rules, processors))

end Loader
end LintRules
