import LintRules.Proofs.Script
import Mathlib.Data.List.Forall2

/-!
# What a load delivers

A config is a list of *items*: its rule directories, rules, presets and plugins, in this order.
What an item delivers, and the error that it fails with, are relations between the item and the
answers of the scanner and of the package source; they do not mention the scripts of the loader.

* `Loader.Delivers`, `Loader.Fails`: the events of an item, and its error.  Every item does exactly
  one of the two, by `Loader.delivers_or_fails` and the two outcomes `Loader.outcome_of_delivers`
  and `Loader.outcome_of_fails`.
* `Loader.outcome_loadConfig_of_delivers`, `Loader.outcome_loadConfig_of_fails`: the load of a
  config is the load of its items up to the first that fails.
* `Loader.loadConfig_delivers`: what a listener hears that never rejects.  An item that fails is not
  heard of, and what was heard before is the load of the config cut off before it.
-/

namespace LintRules

/-! ## The items of a config -/

/-- An entry of a config that a load works on. -/
inductive LoadItem where
  | directory (path : Path)
  | rule (name : String)
  | preset (name : String)
  | plugin (name : String)
  deriving DecidableEq

namespace Config

/-- The items of a config in the order of the load. -/
def items (config : Config) : List LoadItem :=
  config.rulePaths.map .directory ++ (config.rules.map .rule ++
    (config.presets.map .preset ++ config.plugins.map .plugin))

/-- The config cut off after its first `n` items. -/
def cutAfter (config : Config) (n : ℕ) : Config :=
  let afterPaths := n - config.rulePaths.length
  let afterRules := afterPaths - config.rules.length
  let afterPresets := afterRules - config.presets.length
  { config with
    rulePaths := config.rulePaths.take n
    rules := config.rules.take afterPaths
    presets := config.presets.take afterRules
    plugins := config.plugins.take afterPresets }

theorem items_cutAfter (config : Config) (n : ℕ) :
    (config.cutAfter n).items = config.items.take n := by
  simp only [items, cutAfter, List.take_append, List.map_take, List.length_map]

end Config

namespace Loader

/-- The load of an item. -/
def loadItem (loader : Loader) : LoadItem → Script
  | .directory path => loader.loadDirectory path
  | .rule name => loader.loadRule name
  | .preset name => loader.loadPreset name
  | .plugin name => loader.loadPlugin name

theorem loadSources_eq_sequence_items (loader : Loader) :
    loader.loadSources = .sequence (loader.config.items.map loader.loadItem) := by
  rw [loadSources, Config.items, List.map_append, List.map_append, List.map_append, List.map_map,
    List.map_map, List.map_map, List.map_map]
  rfl

/-- The loader with the config cut off after its first `n` items. -/
def cutAfter (loader : Loader) (n : ℕ) : Loader :=
  { loader with config := loader.config.cutAfter n }

/-! ## What the packages answer -/

/-- A reference is found in a package, and the package exports a module. -/
def Exports (loader : Loader) (kind : PackageKind) (name package : String) (module : Module) :
    Prop :=
  ∃ locator, loader.source.resolve loader.config.naming kind name = .ok locator ∧
    locator.package = package ∧ loader.source.require locator = .ok module

/-- A reference is not found, or what is found cannot be loaded. -/
inductive Lacks (loader : Loader) (kind : PackageKind) (name : String) (e : LoadError) : Prop
  | unresolved (h : loader.source.resolve loader.config.naming kind name = .error e)
  | unloadable (locator : Locator)
      (hresolve : loader.source.resolve loader.config.naming kind name = .ok locator)
      (hrequire : loader.source.require locator = .error e)

variable {loader : Loader} {kind : PackageKind} {name package : String} {α : Type}

theorem exports_or_lacks (loader : Loader) (kind : PackageKind) (name : String) :
    (∃ package module, loader.Exports kind name package module) ∨
      ∃ e, loader.Lacks kind name e := by
  cases hresolve : loader.source.resolve loader.config.naming kind name with
  | error e => exact Or.inr ⟨e, .unresolved hresolve⟩
  | ok locator =>
    cases hrequire : loader.source.require locator with
    | error e => exact Or.inr ⟨e, .unloadable locator hresolve hrequire⟩
    | ok module => exact Or.inl ⟨_, module, locator, hresolve, rfl, hrequire⟩

theorem module_of_exports {module : Module} (h : loader.Exports kind name package module)
    (take : String → Module → Except LoadError α) :
    loader.module kind name take = take package module := by
  obtain ⟨locator, hresolve, rfl, hrequire⟩ := h
  simp only [Loader.module, hresolve, hrequire, bind, Except.bind]

theorem module_of_lacks {e : LoadError} (h : loader.Lacks kind name e)
    (take : String → Module → Except LoadError α) :
    loader.module kind name take = .error e := by
  rcases h with hresolve | ⟨locator, hresolve, hrequire⟩
  · simp only [Loader.module, hresolve, bind, Except.bind]
  · simp only [Loader.module, hresolve, hrequire, bind, Except.bind]

theorem toPreset_of_no_rules {module : Module}
    (h : ∀ rules processor, module ≠ .bundle (some rules) processor) (package : String) :
    module.toPreset package = .error (.unexpectedExport package .rules) := by
  cases module with
  | rule handler => rfl
  | bundle rules processor =>
    cases rules with
    | none => rfl
    | some rules => exact absurd rfl (h rules processor)

/-! ## What an item delivers -/

/-- The events that an item delivers.  Every event carries the handler or the processor itself that
the directory or the module holds.  A rule or preset whose name has the shape of a plugin's rule
delivers nothing, whether or not there is a package for it. -/
inductive Delivers (loader : Loader) : LoadItem → List LoadEvent → Prop
  | directory {path : Path} {log : List LogEntry} {scan : DirectoryScan}
      (hscan : loader.scanner path = (log, .ok scan)) :
      Delivers loader (.directory path)
        (scan.rules.entries.map (fun e => .rule (.flat e.1) e.2) ++
          scan.failures.map fun f => .failure f.error)
  | skippedRule {name : String}
      (hshape : isPluginRuleName (loader.config.naming.stripRule name) = true) :
      Delivers loader (.rule name) []
  | rule {name package : String} {handler : Handler}
      (hshape : isPluginRuleName (loader.config.naming.stripRule name) = false)
      (hexports : loader.Exports .rule name package (.rule handler)) :
      Delivers loader (.rule name) [.rule (.flat (loader.config.naming.stripRule name)) handler]
  | skippedPreset {name : String}
      (hshape : isPluginRuleName (loader.config.naming.stripRule name) = true) :
      Delivers loader (.preset name) []
  | preset {name package : String} {rules : Table Handler} {processor : Option Processor}
      (hshape : isPluginRuleName (loader.config.naming.stripRule name) = false)
      (hexports : loader.Exports .preset name package (.bundle (some rules) processor)) :
      Delivers loader (.preset name)
        (rules.entries.map fun e => .rule (.preset (loader.config.naming.stripRule name) e.1) e.2)
  | processorPlugin {name package : String} {processor : Option Processor}
      (hexports : loader.Exports .plugin name package (.bundle none processor)) :
      Delivers loader (.plugin name)
        (processor.toList.map (.processor (loader.config.naming.stripPlugin name)))
  | plugin {name package : String} {rules : Table Handler} {processor : Option Processor}
      (hexports : loader.Exports .plugin name package (.bundle (some rules) processor)) :
      Delivers loader (.plugin name)
        (rules.entries.map
            (fun e => .rule (.plugin (loader.config.naming.stripPlugin name) e.1) e.2) ++
          processor.toList.map (.processor (loader.config.naming.stripPlugin name)))

/-- The error of an item that cannot be loaded. -/
inductive Fails (loader : Loader) : LoadItem → LoadError → Prop
  | directory {path : Path} {log : List LogEntry} {e : LoadError}
      (hscan : loader.scanner path = (log, .error e)) : Fails loader (.directory path) e
  | rule {name : String} {e : LoadError}
      (hshape : isPluginRuleName (loader.config.naming.stripRule name) = false)
      (hlacks : loader.Lacks .rule name e) : Fails loader (.rule name) e
  | noRule {name package : String} {rules : Option (Table Handler)}
      {processor : Option Processor}
      (hshape : isPluginRuleName (loader.config.naming.stripRule name) = false)
      (hexports : loader.Exports .rule name package (.bundle rules processor)) :
      Fails loader (.rule name) (.unexpectedExport package .rule)
  | preset {name : String} {e : LoadError}
      (hshape : isPluginRuleName (loader.config.naming.stripRule name) = false)
      (hlacks : loader.Lacks .preset name e) : Fails loader (.preset name) e
  | noRules {name package : String} {module : Module}
      (hshape : isPluginRuleName (loader.config.naming.stripRule name) = false)
      (hexports : loader.Exports .preset name package module)
      (hnone : ∀ rules processor, module ≠ .bundle (some rules) processor) :
      Fails loader (.preset name) (.unexpectedExport package .rules)
  | plugin {name : String} {e : LoadError} (hlacks : loader.Lacks .plugin name e) :
      Fails loader (.plugin name) e
  | noPlugin {name package : String} {handler : Handler}
      (hexports : loader.Exports .plugin name package (.rule handler)) :
      Fails loader (.plugin name) (.unexpectedExport package .plugin)

/-- An item delivers its events or fails. -/
theorem delivers_or_fails (loader : Loader) (item : LoadItem) :
    (∃ events, loader.Delivers item events) ∨ ∃ e, loader.Fails item e := by
  cases item with
  | directory path =>
    rcases hscan : loader.scanner path with ⟨log, e | scan⟩
    · exact Or.inr ⟨e, .directory hscan⟩
    · exact Or.inl ⟨_, .directory hscan⟩
  | rule name =>
    cases hshape : isPluginRuleName (loader.config.naming.stripRule name) with
    | true => exact Or.inl ⟨_, .skippedRule hshape⟩
    | false =>
      rcases loader.exports_or_lacks .rule name with ⟨package, module, hexports⟩ | ⟨e, hlacks⟩
      · cases module with
        | rule handler => exact Or.inl ⟨_, .rule hshape hexports⟩
        | bundle rules processor => exact Or.inr ⟨_, .noRule hshape hexports⟩
      · exact Or.inr ⟨e, .rule hshape hlacks⟩
  | preset name =>
    cases hshape : isPluginRuleName (loader.config.naming.stripRule name) with
    | true => exact Or.inl ⟨_, .skippedPreset hshape⟩
    | false =>
      rcases loader.exports_or_lacks .preset name with ⟨package, module, hexports⟩ | ⟨e, hlacks⟩
      · by_cases hrules : ∃ rules processor, module = .bundle (some rules) processor
        · obtain ⟨rules, processor, rfl⟩ := hrules
          exact Or.inl ⟨_, .preset hshape hexports⟩
        · exact Or.inr ⟨_, .noRules hshape hexports fun rules processor h =>
            hrules ⟨rules, processor, h⟩⟩
      · exact Or.inr ⟨e, .preset hshape hlacks⟩
  | plugin name =>
    rcases loader.exports_or_lacks .plugin name with ⟨package, module, hexports⟩ | ⟨e, hlacks⟩
    · cases module with
      | rule handler => exact Or.inr ⟨_, .noPlugin hexports⟩
      | bundle rules processor =>
        cases rules with
        | none => exact Or.inl ⟨_, .processorPlugin hexports⟩
        | some rules => exact Or.inl ⟨_, .plugin hexports⟩
    · exact Or.inr ⟨e, .plugin hlacks⟩

/-! ## The load of one item -/

theorem log_silent (log : List LogEntry) :
    (log.map LoadAction.log).filterMap (·.announced?) = [] := by
  rw [List.filterMap_map, List.filterMap_eq_nil_iff]
  intro entry _
  rfl

/-- The load of an item announces the events of the item. -/
theorem outcome_of_delivers {item : LoadItem} {events : List LoadEvent}
    (h : loader.Delivers item events) : (loader.loadItem item).outcome = (events, .ok ()) := by
  cases h with
  | @directory path log scan hscan =>
    rw [loadItem, loadDirectory, hscan]
    show (Script.asking (.scan path :: log.map .log) (.ok scan) fun scan =>
      (scanEvents scan).map .announce).outcome = (scanEvents scan, .ok ())
    exact Script.outcome_asking_of_ok (log_silent log) scan scanEvents
  | skippedRule hshape =>
    rw [loadItem, loadRule, if_pos hshape]
    rfl
  | @rule name package handler hshape hexports =>
    rw [loadItem, loadRule, if_neg (Bool.eq_false_iff.mp hshape), module_of_exports hexports]
    exact Script.outcome_asking_of_ok rfl handler
      fun handler => [.rule (.flat (loader.config.naming.stripRule name)) handler]
  | skippedPreset hshape =>
    rw [loadItem, loadPreset, if_pos hshape]
    rfl
  | @preset name package rules processor hshape hexports =>
    rw [loadItem, loadPreset, if_neg (Bool.eq_false_iff.mp hshape), module_of_exports hexports]
    exact Script.outcome_asking_of_ok rfl rules
      (presetEvents (loader.config.naming.stripRule name))
  | @processorPlugin name package processor hexports =>
    rw [loadItem, loadPlugin, module_of_exports hexports]
    show Script.outcome _ = (pluginEvents (loader.config.naming.stripPlugin name) none processor, _)
    exact Script.outcome_asking_of_ok rfl (none, processor)
      fun parts => pluginEvents (loader.config.naming.stripPlugin name) parts.1 parts.2
  | @plugin name package rules processor hexports =>
    rw [loadItem, loadPlugin, module_of_exports hexports]
    show Script.outcome _ =
      (pluginEvents (loader.config.naming.stripPlugin name) (some rules) processor, _)
    exact Script.outcome_asking_of_ok rfl (some rules, processor)
      fun parts => pluginEvents (loader.config.naming.stripPlugin name) parts.1 parts.2

/-- The load of an item that fails announces nothing. -/
theorem outcome_of_fails {item : LoadItem} {e : LoadError} (h : loader.Fails item e) :
    (loader.loadItem item).outcome = ([], .error e) := by
  cases h with
  | @directory path log e hscan =>
    rw [loadItem, loadDirectory, hscan]
    show (Script.asking (.scan path :: log.map .log) (.error e) fun scan =>
      (scanEvents scan).map .announce).outcome = ([], .error e)
    exact Script.outcome_asking_of_error (log_silent log) e
      fun scan => (scanEvents scan).map .announce
  | rule hshape hlacks =>
    rw [loadItem, loadRule, if_neg (Bool.eq_false_iff.mp hshape), module_of_lacks hlacks]
    exact Script.outcome_asking_of_error rfl e _
  | noRule hshape hexports =>
    rw [loadItem, loadRule, if_neg (Bool.eq_false_iff.mp hshape), module_of_exports hexports]
    exact Script.outcome_asking_of_error rfl _ _
  | preset hshape hlacks =>
    rw [loadItem, loadPreset, if_neg (Bool.eq_false_iff.mp hshape), module_of_lacks hlacks]
    exact Script.outcome_asking_of_error rfl e _
  | @noRules name package module hshape hexports hnone =>
    rw [loadItem, loadPreset, if_neg (Bool.eq_false_iff.mp hshape), module_of_exports hexports,
      toPreset_of_no_rules hnone]
    exact Script.outcome_asking_of_error rfl _ _
  | plugin hlacks =>
    rw [loadItem, loadPlugin, module_of_lacks hlacks]
    exact Script.outcome_asking_of_error rfl e _
  | noPlugin hexports =>
    rw [loadItem, loadPlugin, module_of_exports hexports]
    exact Script.outcome_asking_of_error rfl _ _

/-! ## The load of a list of items -/

variable {items : List LoadItem} {blocks : List (List LoadEvent)}

theorem outcome_sequence_of_delivers (h : List.Forall₂ loader.Delivers items blocks) :
    (Script.sequence (items.map loader.loadItem)).outcome = (blocks.flatten, .ok ()) := by
  induction h with
  | nil => rfl
  | cons hitem _ ih =>
    rw [List.map_cons, Script.sequence_cons, List.flatten_cons]
    exact Script.outcome_andThen_of_ok (outcome_of_delivers hitem) ih

/-- The first item that fails ends the load, and what comes after it is not looked at. -/
theorem outcome_sequence_of_fails {before : List LoadItem} {item : LoadItem} {e : LoadError}
    (hbefore : List.Forall₂ loader.Delivers before blocks) (hitem : loader.Fails item e)
    (after : List LoadItem) :
    (Script.sequence ((before ++ item :: after).map loader.loadItem)).outcome =
      (blocks.flatten, .error e) := by
  induction hbefore with
  | nil =>
    rw [List.nil_append, List.map_cons, Script.sequence_cons]
    exact Script.outcome_andThen_of_error (outcome_of_fails hitem) _
  | cons hfirst _ ih =>
    rw [List.cons_append, List.map_cons, Script.sequence_cons, List.flatten_cons]
    exact Script.outcome_andThen_of_ok (outcome_of_delivers hfirst) ih

/-- The items of a list deliver their events, or one of them is the first that fails. -/
theorem forall_delivers_or_first_fails (loader : Loader) (items : List LoadItem) :
    (∃ blocks, List.Forall₂ loader.Delivers items blocks) ∨
      ∃ before item after blocks e, items = before ++ item :: after ∧
        List.Forall₂ loader.Delivers before blocks ∧ loader.Fails item e := by
  induction items with
  | nil => exact Or.inl ⟨[], .nil⟩
  | cons first rest ih =>
    rcases loader.delivers_or_fails first with ⟨events, hfirst⟩ | ⟨e, hfirst⟩
    · rcases ih with ⟨blocks, hrest⟩ | ⟨before, item, after, blocks, e, rfl, hbefore, hitem⟩
      · exact Or.inl ⟨events :: blocks, .cons hfirst hrest⟩
      · exact Or.inr ⟨first :: before, item, after, events :: blocks, e, rfl,
          .cons hfirst hbefore, hitem⟩
    · exact Or.inr ⟨[], first, rest, [], e, rfl, .nil, hfirst⟩

/-! ## The load of a config -/

/-- The summary at the end of a load is not announced. -/
theorem outcome_loadConfig (loader : Loader) :
    loader.loadConfig.outcome = loader.loadSources.outcome := by
  rcases hsources : loader.loadSources.outcome with ⟨events, e | ⟨⟩⟩
  · exact Script.outcome_andThen_of_error hsources _
  · rw [← List.append_nil events]
    exact Script.outcome_andThen_of_ok hsources rfl

theorem outcome_loadConfig_of_delivers
    (h : List.Forall₂ loader.Delivers loader.config.items blocks) :
    loader.loadConfig.outcome = (blocks.flatten, .ok ()) := by
  rw [outcome_loadConfig, loadSources_eq_sequence_items]
  exact outcome_sequence_of_delivers h

theorem outcome_loadConfig_of_fails {before after : List LoadItem} {item : LoadItem}
    {e : LoadError} (hitems : loader.config.items = before ++ item :: after)
    (hbefore : List.Forall₂ loader.Delivers before blocks) (hitem : loader.Fails item e) :
    loader.loadConfig.outcome = (blocks.flatten, .error e) := by
  rw [outcome_loadConfig, loadSources_eq_sequence_items, hitems]
  exact outcome_sequence_of_fails hbefore hitem after

/-- The load of the config cut off is the load of its first items. -/
theorem outcome_loadConfig_cutAfter {n : ℕ}
    (h : List.Forall₂ loader.Delivers (loader.config.items.take n) blocks) :
    (loader.cutAfter n).loadConfig.outcome = (blocks.flatten, .ok ()) := by
  have hload : (loader.cutAfter n).loadItem = loader.loadItem := by
    funext item
    cases item <;> rfl
  have hitems : (loader.cutAfter n).config.items = loader.config.items.take n :=
    loader.config.items_cutAfter n
  rw [outcome_loadConfig, loadSources_eq_sequence_items, hload, hitems]
  exact outcome_sequence_of_delivers h

/-- The load of the config shows exactly `events` to a listener that hears by `hear` and never
rejects, in the state `s` at first, and ends with `result`. -/
def Shows {σ : Type} (loader : Loader) (hear : LoadEvent → σ → σ) (s : σ)
    (events : List LoadEvent) (result : Except LoadError Unit) : Prop :=
  ∃ done, loader.loadConfig.perform (.accepting hear) s =
      (events.foldl (fun s event => hear event s) s, done, result) ∧
    done.filterMap (·.announced?) = events

theorem shows_of_outcome {σ : Type} (hear : LoadEvent → σ → σ) (s : σ)
    {events : List LoadEvent} {result : Except LoadError Unit}
    (h : loader.loadConfig.outcome = (events, result)) : loader.Shows hear s events result := by
  obtain ⟨rfl, rfl⟩ := Script.outcome_eq_iff.mp h
  exact ⟨_, Script.perform_accepting _ hear s, rfl⟩

/-- **What a load delivers.**  Either every item of the config delivers its events, a listener that
never rejects is shown all of them in the order of the items, and the load succeeds.  Or one item is
the first that fails: then the load ends with the error of that item, and the listener is shown the
events of the items before it and no others, which is what the load of the config cut off before
the item shows it. -/
theorem loadConfig_delivers {σ : Type} (loader : Loader) (hear : LoadEvent → σ → σ) (s : σ) :
    (∃ blocks, List.Forall₂ loader.Delivers loader.config.items blocks ∧
      loader.Shows hear s blocks.flatten (.ok ())) ∨
    ∃ n item blocks e, loader.config.items[n]? = some item ∧
      List.Forall₂ loader.Delivers (loader.config.items.take n) blocks ∧ loader.Fails item e ∧
      loader.Shows hear s blocks.flatten (.error e) ∧
      (loader.cutAfter n).Shows hear s blocks.flatten (.ok ()) := by
  rcases loader.forall_delivers_or_first_fails loader.config.items with
    ⟨blocks, hall⟩ | ⟨before, item, after, blocks, e, hitems, hbefore, hitem⟩
  · exact Or.inl ⟨blocks, hall, shows_of_outcome hear s (outcome_loadConfig_of_delivers hall)⟩
  · have hget : loader.config.items[before.length]? = some item := by
      rw [hitems, List.getElem?_append_right (Nat.le_refl _), Nat.sub_self, List.getElem?_cons_zero]
    have htake : loader.config.items.take before.length = before := by
      rw [hitems, List.take_left]
    rw [← htake] at hbefore
    refine Or.inr ⟨before.length, item, blocks, e, hget, hbefore, hitem, ?_, ?_⟩
    · rw [htake] at hbefore
      exact shows_of_outcome hear s (outcome_loadConfig_of_fails hitems hbefore hitem)
    · exact shows_of_outcome hear s (outcome_loadConfig_cutAfter hbefore)

/-- A config with a preset whose name has the shape of a plugin's rule, and a catalog that has this
preset. -/
def slashedPreset : Loader where
  config := { presets := ["html/todo"] }
  source := Resolver.source .none (.catalog (.ofList [
    ("html/todo", .preset (.ofList [("no-todo", .builtIn "todo" .lint none)]))]))
  scanner _ := ([], .ok {})

/-- A preset may be there with its rules, and the load still shows none of them: a name with the
shape of a plugin's rule is not looked up. -/
theorem slashedPreset_not_shown :
    slashedPreset.Exports .preset "html/todo" "html/todo"
        (.preset (.ofList [("no-todo", .builtIn "todo" .lint none)])) ∧
      slashedPreset.Shows (fun event heard => heard ++ [event]) [] [] (.ok ()) ∧
      ¬ ∃ result, slashedPreset.Shows (fun event heard => heard ++ [event]) []
        [.rule (.preset "html/todo" "no-todo") (.builtIn "todo" .lint none)] result := by
  have hexports : slashedPreset.Exports .preset "html/todo" "html/todo"
      (.preset (.ofList [("no-todo", .builtIn "todo" .lint none)])) :=
    ⟨⟨.preset, "html/todo", none⟩, rfl, rfl, rfl⟩
  have houtcome : slashedPreset.loadConfig.outcome = ([], .ok ()) := rfl
  refine ⟨hexports, shows_of_outcome _ [] houtcome, ?_⟩
  rintro ⟨result, done, hperform, -⟩
  rw [Script.perform_accepting, (Script.outcome_eq_iff.mp houtcome).1] at hperform
  exact absurd (congrArg Prod.fst hperform) (by simp)

end Loader
end LintRules
