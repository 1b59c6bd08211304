import LintRules.Proofs.SourcePriority

/-!
# One config on top of another

A config can be put on top of another one.  Configs put together in this way do not depend on the
grouping, and a config without anything in it adds nothing.

The load of two configs put together is not the one load after the other.  It takes the sources one
after another, and in each of them first what the lower config says and then what the upper one
says.  So the upper config wins within a source, and a later source of the lower config still wins
over an earlier one of the upper.

* `Config.extend_assoc`, `Config.extend_default`, `Config.default_extend`: the config that comes of
  it.
* `SourceBlocks`: the events of a load, source by source.
* `Loader.Sources.extend`: the sources of two configs put together.
* `Config.extend_merges`: all of it, with the registries that are loaded.
-/

namespace LintRules

/-! ## Configs put together -/

namespace Config

theorem extend_assoc (a b c : Config) : (a.extend b).extend c = a.extend (b.extend c) := by
  simp only [extend, List.append_assoc, Table.extend_assoc, Option.or_assoc]

theorem extend_default (a : Config) : a.extend {} = a := by
  simp only [extend, List.append_nil, Table.entries_empty, Table.extend_nil, Option.none_or]

/-- On top of the default config only the naming is not taken over. -/
theorem default_extend (a : Config) : ({} : Config).extend a = { a with naming := {} } := by
  have htable : Table.empty.extend a.rulesConfig.entries = a.rulesConfig :=
    Table.ofList_entries a.rulesConfig
  simp only [extend, List.nil_append, htable, Option.or_none]

end Config

/-! ## Events source by source -/

theorem findSome?_cons_eq_or {α β : Type} (f : α → Option β) (a : α) (l : List α) :
    (a :: l).findSome? f = (f a).or (l.findSome? f) := by
  rw [List.findSome?_cons]
  cases f a <;> rfl

/-- The events of a load: for each rule directory, rule, preset and plugin a list of events. -/
structure SourceBlocks where
  directories : List (List LoadEvent)
  rules : List (List LoadEvent)
  presets : List (List LoadEvent)
  plugins : List (List LoadEvent)

namespace SourceBlocks

/-- All events in the order of the load. -/
def events (blocks : SourceBlocks) : List LoadEvent :=
  (blocks.directories ++ (blocks.rules ++ (blocks.presets ++ blocks.plugins))).flatten

/-- Two loads put together: in each source the events of the one and then those of the other. -/
def append (first second : SourceBlocks) : SourceBlocks where
  directories := first.directories ++ second.directories
  rules := first.rules ++ second.rules
  presets := first.presets ++ second.presets
  plugins := first.plugins ++ second.plugins

/-- The processor that the plugins announce last under a name. -/
def processor? (blocks : SourceBlocks) (name : String) : Option Processor :=
  Entries.last? name (blocks.plugins.flatten.filterMap (·.definedProcessor?))

theorem processor?_append (first second : SourceBlocks) (name : String) :
    (first.append second).processor? name =
      (second.processor? name).or (first.processor? name) := by
  simp only [processor?, append, List.flatten_append, List.filterMap_append, Entries.last?_append]

end SourceBlocks

namespace Loader

variable {loader : Loader}

/-- The load of a config succeeds and delivers these events. -/
structure Loads (loader : Loader) (blocks : SourceBlocks) : Prop where
  sources : loader.Sources blocks.directories blocks.rules blocks.presets blocks.plugins
  shows : ∀ {σ : Type} (hear : LoadEvent → σ → σ) (s : σ),
    loader.Shows hear s blocks.events (.ok ())

theorem Sources.forall_delivers {directories rules presets plugins : List (List LoadEvent)}
    (h : loader.Sources directories rules presets plugins) :
    List.Forall₂ loader.Delivers loader.config.items
      (directories ++ (rules ++ (presets ++ plugins))) := by
  have hdirectories := List.forall₂_map_left_iff.mpr h.directories
  have hrules := List.forall₂_map_left_iff.mpr h.rules
  have hpresets := List.forall₂_map_left_iff.mpr h.presets
  have hplugins := List.forall₂_map_left_iff.mpr h.plugins
  exact List.rel_append hdirectories (List.rel_append hrules (List.rel_append hpresets hplugins))

theorem loads_of_sources {blocks : SourceBlocks}
    (h : loader.Sources blocks.directories blocks.rules blocks.presets blocks.plugins) :
    loader.Loads blocks where
  sources := h
  shows hear s := shows_of_outcome hear s (outcome_loadConfig_of_delivers h.forall_delivers)

/-- A load that succeeds delivers some events. -/
theorem exists_loads (h : loader.loadConfig.result = .ok ()) : ∃ blocks, loader.Loads blocks := by
  rcases loader.forall_delivers_or_first_fails loader.config.items with
    ⟨all, hall⟩ | ⟨before, item, after, blocks, e, hitems, hbefore, hitem⟩
  · obtain ⟨directories, rules, presets, plugins, hsources, -⟩ := exists_sources hall
    exact ⟨⟨directories, rules, presets, plugins⟩, loads_of_sources hsources⟩
  · have hresult := (Script.outcome_eq_iff.mp (outcome_loadConfig_of_fails hitems hbefore hitem)).2
    rw [h] at hresult
    cases hresult

/-! ## The registries of a load -/

/-- Only plugins have processors. -/
theorem filterMap_definedProcessor?_of_delivers {item : LoadItem} {events : List LoadEvent}
    (h : loader.Delivers item events) (hitem : ∀ name, item ≠ .plugin name) :
    events.filterMap (·.definedProcessor?) = [] := by
  rw [List.filterMap_eq_nil_iff]
  intro event hevent
  cases h with
  | directory hscan =>
    rcases List.mem_append.mp hevent with hevent | hevent
    · obtain ⟨e, -, rfl⟩ := List.mem_map.mp hevent
      rfl
    · obtain ⟨failure, -, rfl⟩ := List.mem_map.mp hevent
      rfl
  | skippedRule hshape => cases hevent
  | rule hshape hexports =>
    rw [List.mem_singleton.mp hevent]
    rfl
  | skippedPreset hshape => cases hevent
  | preset hshape hexports =>
    obtain ⟨e, -, rfl⟩ := List.mem_map.mp hevent
    rfl
  | processorPlugin hexports => exact absurd rfl (hitem _)
  | plugin hexports => exact absurd rfl (hitem _)

theorem filterMap_definedProcessor?_flatten {names : List String} {item : String → LoadItem}
    {blocks : List (List LoadEvent)}
    (h : List.Forall₂ (fun name => loader.Delivers (item name)) names blocks)
    (hitem : ∀ name other, item name ≠ .plugin other) :
    blocks.flatten.filterMap (·.definedProcessor?) = [] := by
  induction h with
  | nil => rfl
  | cons hfirst _ ih =>
    rw [List.flatten_cons, List.filterMap_append, ih,
      filterMap_definedProcessor?_of_delivers hfirst (hitem _), List.append_nil]

/-- The processors of a load come from its plugins. -/
theorem Loads.processorEntries {blocks : SourceBlocks} (h : loader.Loads blocks) :
    blocks.events.filterMap (·.definedProcessor?) =
      blocks.plugins.flatten.filterMap (·.definedProcessor?) := by
  have hdirectories := filterMap_definedProcessor?_flatten h.sources.directories (by simp)
  have hrules := filterMap_definedProcessor?_flatten h.sources.rules (by simp)
  have hpresets := filterMap_definedProcessor?_flatten h.sources.presets (by simp)
  simp only [SourceBlocks.events, List.flatten_append, List.filterMap_append, hdirectories, hrules,
    hpresets, List.nil_append]

/-- The registries of a load that succeeds. -/
theorem Loads.exists_loadRegistries {blocks : SourceBlocks} (h : loader.Loads blocks) {σ : Type}
    (hear : LoadEvent → σ → σ) (s : σ) :
    ∃ s' done, ∃ registry : RuleRegistry, ∃ processors : ProcessorRegistry,
      loader.loadRegistries (.accepting hear) s = (s', done, .ok (registry, processors)) ∧
      (∀ id, registry.get? id =
        [blocks.plugins, blocks.presets, blocks.rules, blocks.directories].findSome?
          (lastHandler? id)) ∧
      ∀ name, processors.get? name = blocks.processor? name := by
  obtain ⟨hevents, hresult⟩ := Script.outcome_eq_iff.mp
    (outcome_loadConfig_of_delivers h.sources.forall_delivers)
  have hload : loader.loadRegistries (.accepting hear) s =
      (loader.loadConfig.events.foldl (fun s event => hear event s) s, loader.loadConfig.actions,
        .ok (⟨Table.empty.extend loader.loadConfig.ruleEntries⟩,
          ⟨Table.empty.extend loader.loadConfig.processorEntries⟩)) := by
    rw [loadRegistries, Script.perform_registering, hresult]
    rfl
  refine ⟨_, _, _, _, hload, fun id => ?_, fun name => ?_⟩
  · rw [RuleRegistry.get?, Table.get?_extend, Table.get?_empty, Option.or_none, Script.ruleEntries,
      hevents, ← lastHandler?_eq_last?]
    simp only [lastHandler?_append, findSome?_cons_eq_or, Option.or_assoc, List.findSome?_nil,
      Option.or_none]
  · rw [ProcessorRegistry.get?, Table.get?_extend, Table.get?_empty, Option.or_none,
      Script.processorEntries, hevents]
    exact congrArg (Entries.last? name) h.processorEntries

/-! ## Loads of configs put together -/

/-- What an item delivers depends on the naming of the config and on nothing else in it. -/
theorem Delivers.withConfig {item : LoadItem} {events : List LoadEvent}
    (h : loader.Delivers item events) {config : Config}
    (hnaming : config.naming = loader.config.naming) :
    Delivers { loader with config } item events := by
  have hexports : ∀ {kind name package module}, loader.Exports kind name package module →
      Exports { loader with config } kind name package module := by
    intro kind name package module hexports
    rw [Exports, hnaming]
    exact hexports
  cases h with
  | directory hscan => exact .directory hscan
  | skippedRule hshape => exact .skippedRule (hnaming ▸ hshape)
  | rule hshape hmodule =>
    rw [← hnaming] at hshape ⊢
    exact .rule hshape (hexports hmodule)
  | skippedPreset hshape => exact .skippedPreset (hnaming ▸ hshape)
  | preset hshape hmodule =>
    rw [← hnaming] at hshape ⊢
    exact .preset hshape (hexports hmodule)
  | processorPlugin hmodule =>
    rw [← hnaming]
    exact .processorPlugin (hexports hmodule)
  | plugin hmodule =>
    rw [← hnaming]
    exact .plugin (hexports hmodule)

/-- **The sources of two configs put together** are their sources, one by one. -/
theorem Sources.extend {a b : Config} {source : PackageSource} {scanner : Scanner}
    {first second : SourceBlocks}
    (ha : Sources ⟨a, source, scanner⟩ first.directories first.rules first.presets first.plugins)
    (hb : Sources ⟨{ b with naming := a.naming }, source, scanner⟩ second.directories second.rules
      second.presets second.plugins) :
    Sources ⟨a.extend b, source, scanner⟩ (first.append second).directories
      (first.append second).rules (first.append second).presets (first.append second).plugins := by
  have hlower : ∀ {item : String → LoadItem} (name : String) (events : List LoadEvent),
      Delivers ⟨a, source, scanner⟩ (item name) events →
        Delivers ⟨a.extend b, source, scanner⟩ (item name) events :=
    fun name events h => h.withConfig rfl
  have hupper : ∀ {item : String → LoadItem} (name : String) (events : List LoadEvent),
      Delivers ⟨{ b with naming := a.naming }, source, scanner⟩ (item name) events →
        Delivers ⟨a.extend b, source, scanner⟩ (item name) events :=
    fun name events h => h.withConfig rfl
  constructor
  case directories =>
    exact List.rel_append (ha.directories.imp hlower) (hb.directories.imp hupper)
  case rules => exact List.rel_append (ha.rules.imp hlower) (hb.rules.imp hupper)
  case presets => exact List.rel_append (ha.presets.imp hlower) (hb.presets.imp hupper)
  case plugins => exact List.rel_append (ha.plugins.imp hlower) (hb.plugins.imp hupper)

end Loader

/-- **Configs put together.**  The grouping does not matter, and the config without anything in it
adds nothing, neither on top nor below, except that the naming is always that of the lower config.
If the loads of two configs succeed, the upper one under the naming of the lower, then so does the
load of the two together: in each source it delivers the events of the lower config and then those
of the upper.  In the registries the upper config wins within each source, and a later source wins
over an earlier one, whichever config it comes from. -/
theorem Config.extend_merges :
    (∀ a b c : Config, (a.extend b).extend c = a.extend (b.extend c)) ∧
    (∀ a : Config, a.extend {} = a) ∧
    (∀ a : Config, ({} : Config).extend a = { a with naming := {} }) ∧
    (∀ a b : Config, (a.extend b).naming = a.naming) ∧
    ∀ (a b : Config) (source : PackageSource) (scanner : Scanner),
      (Loader.mk a source scanner).loadConfig.result = .ok () →
      (Loader.mk { b with naming := a.naming } source scanner).loadConfig.result = .ok () →
      ∃ lower upper : SourceBlocks,
        (Loader.mk a source scanner).Loads lower ∧
        (Loader.mk { b with naming := a.naming } source scanner).Loads upper ∧
        (Loader.mk (a.extend b) source scanner).Loads (lower.append upper) ∧
        ∀ (σ : Type) (hear : LoadEvent → σ → σ) (s : σ), ∃ s' done, ∃ registry : RuleRegistry,
          ∃ processors : ProcessorRegistry,
          (Loader.mk (a.extend b) source scanner).loadRegistries (.accepting hear) s =
            (s', done, .ok (registry, processors)) ∧
          (∀ id, registry.get? id =
            [upper.plugins, lower.plugins, upper.presets, lower.presets, upper.rules, lower.rules,
              upper.directories, lower.directories].findSome? (lastHandler? id)) ∧
          ∀ name, processors.get? name = (upper.processor? name).or (lower.processor? name) := by
  refine ⟨extend_assoc, extend_default, default_extend, fun a b => rfl, ?_⟩
  intro a b source scanner ha hb
  obtain ⟨lower, hlower⟩ := Loader.exists_loads ha
  obtain ⟨upper, hupper⟩ := Loader.exists_loads hb
  have hboth := Loader.loads_of_sources (hlower.sources.extend hupper.sources)
  refine ⟨lower, upper, hlower, hupper, hboth, fun σ hear s => ?_⟩
  obtain ⟨s', done, registry, processors, hload, hget, hprocessor⟩ :=
    hboth.exists_loadRegistries hear s
  refine ⟨s', done, registry, processors, hload, fun id => ?_, fun name => ?_⟩
  · rw [hget]
    simp only [SourceBlocks.append, findSome?_cons_eq_or, lastHandler?_append, Option.or_assoc,
      List.findSome?_nil]
  · rw [hprocessor, SourceBlocks.processor?_append]

/-- The packages that both of two configs refer to, one under each of two names. -/
def bundledTwice : PackageSource :=
  Resolver.source .none (.catalog (.ofList [
    ("textlint-rule-preset-p", .preset (.ofList [("inner", .builtIn "preset" .lint none)])),
    ("textlint-plugin-preset-p", .bundle (some (.ofList [("inner", .builtIn "plugin" .fix none)]))
      (some (.ofExtensions ["html"])))]))

/-- Every directory has a rule `shared` with the path of the directory. -/
def sharedEverywhere : Scanner := fun directory =>
  ([], .ok { rules := .ofList [("shared", .builtIn directory .lint none)] })

/-- A directory and a plugin, and what is put on top of them. -/
def pluginBelow : Config := { rulePaths := ["lower"], plugins := ["preset-p"] }

def presetAbove : Config := { rulePaths := ["upper"], presets := ["preset-p"] }

/-- The directory of the upper config wins over that of the lower one, and the plugin of the lower
config over the preset of the upper one. -/
theorem pluginBelow_extend_merges :
    (Loader.mk pluginBelow bundledTwice sharedEverywhere).loadConfig.result = .ok () ∧
      (Loader.mk { presetAbove with naming := pluginBelow.naming } bundledTwice
        sharedEverywhere).loadConfig.result = .ok () ∧
      ∃ lower upper : SourceBlocks,
        (Loader.mk (pluginBelow.extend presetAbove) bundledTwice sharedEverywhere).Loads
          (lower.append upper) ∧
        ∃ s' done, ∃ registry : RuleRegistry, ∃ processors : ProcessorRegistry,
          (Loader.mk (pluginBelow.extend presetAbove) bundledTwice sharedEverywhere).loadRegistries
            (.accepting fun _ heard => heard + 1) 0 = (s', done, .ok (registry, processors)) ∧
          (∀ id, registry.get? id =
            [upper.plugins, lower.plugins, upper.presets, lower.presets, upper.rules, lower.rules,
              upper.directories, lower.directories].findSome? (lastHandler? id)) ∧
          registry.get? "shared" = some (.builtIn "upper" .lint none) ∧
          registry.get? "preset-p/inner" = some (.builtIn "plugin" .fix none) := by
  have hlower : (Loader.mk pluginBelow bundledTwice sharedEverywhere).loadConfig.result = .ok () :=
    rfl
  have hupper : (Loader.mk { presetAbove with naming := pluginBelow.naming } bundledTwice
      sharedEverywhere).loadConfig.result = .ok () := rfl
  obtain ⟨-, -, -, -, hmerge⟩ := Config.extend_merges
  obtain ⟨lower, upper, -, -, hboth, hregistries⟩ :=
    hmerge pluginBelow presetAbove bundledTwice sharedEverywhere hlower hupper
  obtain ⟨s', done, registry, processors, hload, hget, -⟩ :=
    hregistries ℕ (fun _ heard => heard + 1) 0
  refine ⟨hlower, hupper, lower, upper, hboth, s', done, registry, processors, hload, hget, ?_⟩
  cases hload
  exact ⟨rfl, rfl⟩

end LintRules
