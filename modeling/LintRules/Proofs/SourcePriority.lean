import LintRules.Proofs.Delivery
import LintRules.Proofs.Interleaving
import LintRules.Proofs.Registry

/-!
# Which source wins

A load that succeeds fills a registry from four sources.  The text of a key does not say where a
rule comes from, so several items may announce rules under one id, also items of different sources.

* `Loader.Sources`: the events of the items of a config, source by source.
* `lastHandler?`: what the last item of a source that announces an id announces for it.
* `Loader.loadRegistries_priority`: a plugin wins over a preset, a preset over an explicit rule, and
  that over a rule directory; inside a source the last item wins.  The place of an id is that of its
  first announcement, whichever source wins.
-/

namespace LintRules

namespace LoadEvent

/-- The id under which an event announces a rule. -/
def ruleId? : LoadEvent → Option String
  | .rule key _ => some key.text
  | .processor .. | .failure _ => none

/-- The handler that an event announces under an id. -/
def handlerUnder? (id : String) : LoadEvent → Option Handler
  | .rule key handler => if key.text = id then some handler else none
  | .processor .. | .failure _ => none

end LoadEvent

/-- The handler that the last of some items announces under an id: the last one of that item, if it
announces the id several times. -/
def lastHandler? (id : String) (blocks : List (List LoadEvent)) : Option Handler :=
  blocks.reverse.findSome? fun events => events.reverse.findSome? (·.handlerUnder? id)

theorem findSome?_handlerUnder? (id : String) (events : List LoadEvent) :
    events.reverse.findSome? (·.handlerUnder? id) =
      Entries.last? id (events.filterMap (·.definedRule?)) := by
  induction events with
  | nil => rfl
  | cons event rest ih =>
    have hentries : (event :: rest).filterMap (·.definedRule?) =
        event.definedRule?.toList ++ rest.filterMap (·.definedRule?) := by
      cases event <;> rfl
    have hevent : [event].findSome? (·.handlerUnder? id) =
        Entries.last? id event.definedRule?.toList := by
      rw [List.findSome?_singleton]
      cases event <;> rfl
    rw [List.reverse_cons, List.findSome?_append, ih, hevent, hentries, Entries.last?_append]

/-- The last handler under an id is the one that a table of all the rules has. -/
theorem lastHandler?_eq_last? (id : String) (blocks : List (List LoadEvent)) :
    lastHandler? id blocks = Entries.last? id (blocks.flatten.filterMap (·.definedRule?)) := by
  induction blocks with
  | nil => rfl
  | cons events rest ih =>
    rw [List.flatten_cons, List.filterMap_append, Entries.last?_append, ← ih,
      ← findSome?_handlerUnder?, lastHandler?, List.reverse_cons, List.findSome?_append,
      List.findSome?_singleton]
    rfl

theorem lastHandler?_append (id : String) (blocks₁ blocks₂ : List (List LoadEvent)) :
    lastHandler? id (blocks₁ ++ blocks₂) =
      (lastHandler? id blocks₂).or (lastHandler? id blocks₁) := by
  rw [lastHandler?, List.reverse_append, List.findSome?_append, lastHandler?, lastHandler?]

/-- The ids of the entries that events make are the ids that they announce. -/
theorem map_fst_ruleEntries (events : List LoadEvent) :
    (events.filterMap (·.definedRule?)).map Prod.fst = events.filterMap (·.ruleId?) := by
  rw [List.map_filterMap]
  congr 1
  funext event
  cases event <;> rfl

theorem mem_filterMap_ruleId? {id : String} {events : List LoadEvent} :
    id ∈ events.filterMap (·.ruleId?) ↔
      ∃ key handler, .rule key handler ∈ events ∧ key.text = id := by
  rw [List.mem_filterMap]
  constructor
  · rintro ⟨event, hevent, hid⟩
    cases event with
    | rule key handler => exact ⟨key, handler, hevent, Option.some.inj hid⟩
    | processor name processor => cases hid
    | failure error => cases hid
  · rintro ⟨key, handler, hevent, rfl⟩
    exact ⟨_, hevent, rfl⟩

/-! ## The four sources -/

namespace Loader

/-- The events of the items of a config, source by source: one list of events for every rule
directory, rule, preset and plugin. -/
structure Sources (loader : Loader) (directories rules presets plugins : List (List LoadEvent)) :
    Prop where
  directories : List.Forall₂ (fun path => loader.Delivers (.directory path))
    loader.config.rulePaths directories
  rules : List.Forall₂ (fun name => loader.Delivers (.rule name)) loader.config.rules rules
  presets : List.Forall₂ (fun name => loader.Delivers (.preset name)) loader.config.presets presets
  plugins : List.Forall₂ (fun name => loader.Delivers (.plugin name)) loader.config.plugins plugins

theorem exists_sources {loader : Loader} {blocks : List (List LoadEvent)}
    (h : List.Forall₂ loader.Delivers loader.config.items blocks) :
    ∃ directories rules presets plugins, loader.Sources directories rules presets plugins ∧
      blocks = directories ++ (rules ++ (presets ++ plugins)) := by
  obtain ⟨directories, later, rfl, hdirectories, hlater⟩ := forall₂_append_left h
  obtain ⟨rules, later, rfl, hrules, hlater⟩ := forall₂_append_left hlater
  obtain ⟨presets, plugins, rfl, hpresets, hplugins⟩ := forall₂_append_left hlater
  rw [List.forall₂_map_left_iff] at hdirectories hrules hpresets hplugins
  exact ⟨directories, rules, presets, plugins, ⟨hdirectories, hrules, hpresets, hplugins⟩, rfl⟩

variable {σ : Type}

/-- The registries of a load that succeeds hold what all items deliver. -/
theorem loadRegistries_eq_ok {loader : Loader} {hear : LoadEvent → σ → σ} {s s' : σ}
    {done : List LoadAction} {rules : RuleRegistry} {processors : ProcessorRegistry}
    (h : loader.loadRegistries (.accepting hear) s = (s', done, .ok (rules, processors))) :
    ∃ blocks, List.Forall₂ loader.Delivers loader.config.items blocks ∧
      rules.rules = Table.ofList (blocks.flatten.filterMap (·.definedRule?)) ∧
      processors.processors = Table.ofList (blocks.flatten.filterMap (·.definedProcessor?)) := by
  rw [loadRegistries, Script.perform_registering] at h
  rcases loader.forall_delivers_or_first_fails loader.config.items with
    ⟨blocks, hall⟩ | ⟨before, item, after, blocks, e, hitems, hbefore, hitem⟩
  · obtain ⟨hevents, hresult⟩ := Script.outcome_eq_iff.mp (outcome_loadConfig_of_delivers hall)
    simp only [Script.ruleEntries, Script.processorEntries, hevents, hresult, Except.map,
      Prod.mk.injEq, Except.ok.injEq] at h
    obtain ⟨-, -, rfl, rfl⟩ := h
    exact ⟨blocks, hall, rfl, rfl⟩
  · obtain ⟨-, hresult⟩ :=
      Script.outcome_eq_iff.mp (outcome_loadConfig_of_fails hitems hbefore hitem)
    rw [hresult] at h
    simp only [Except.map, Prod.mk.injEq, reduceCtorEq, and_false] at h

/-- **Source priority.**  When the registries are loaded, an id is defined if and only if some
source announces it.  Its handler is that of the last plugin that announces it, else of the last
preset, else of the last explicit rule, else of the last rule directory.  The ids stand in the order
in which the load first announces them, whichever source wins. -/
theorem loadRegistries_priority (loader : Loader) (hear : LoadEvent → σ → σ) {s s' : σ}
    {done : List LoadAction} {registry : RuleRegistry} {processors : ProcessorRegistry}
    (h : loader.loadRegistries (.accepting hear) s = (s', done, .ok (registry, processors))) :
    ∃ directories rules presets plugins, loader.Sources directories rules presets plugins ∧
      (∀ id, registry.isDefined id = true ↔ ∃ key handler,
        .rule key handler ∈ (directories ++ (rules ++ (presets ++ plugins))).flatten ∧
          key.text = id) ∧
      (∀ id, registry.get? id = (lastHandler? id plugins).or ((lastHandler? id presets).or
        ((lastHandler? id rules).or (lastHandler? id directories)))) ∧
      IsArrivalOrder
        ((directories ++ (rules ++ (presets ++ plugins))).flatten.filterMap (·.ruleId?))
        registry.ids := by
  obtain ⟨blocks, hall, hrules, -⟩ := loadRegistries_eq_ok h
  obtain ⟨directories, rules, presets, plugins, hsources, rfl⟩ := exists_sources hall
  have horder := Table.isArrivalOrder_keys_ofList
    ((directories ++ (rules ++ (presets ++ plugins))).flatten.filterMap (·.definedRule?))
  rw [map_fst_ruleEntries, ← hrules] at horder
  refine ⟨directories, rules, presets, plugins, hsources, fun id => ?_, fun id => ?_, horder⟩
  · rw [← mem_filterMap_ruleId?, ← horder.mem_iff]
    exact Table.contains_iff
  · rw [RuleRegistry.get?, hrules, Table.ofList, Table.get?_extend, Table.get?_empty,
      Option.or_none, ← lastHandler?_eq_last?]
    simp only [lastHandler?_append, Option.or_assoc]

/-- A rule directory, a rule, a preset and a plugin, of which the first two announce the id `shared`
and the last two the id `preset-p/inner`. -/
def colliding : Loader where
  config := {
    rulePaths := ["rules"]
    rules := ["shared"]
    presets := ["preset-p"]
    plugins := ["preset-p"] }
  source := Resolver.source .none (.catalog (.ofList [
    ("textlint-rule-shared", .rule (.builtIn "explicit" .lint none)),
    ("textlint-rule-preset-p", .preset (.ofList [("inner", .builtIn "preset" .lint none)])),
    ("textlint-plugin-preset-p",
      .bundle (some (.ofList [("inner", .builtIn "plugin" .fix none)])) none)]))
  scanner _ := ([], .ok { rules := .ofList [
    ("shared", .builtIn "directory" .lint none), ("local", .builtIn "directory" .lint none)] })

/-- The explicit rule and the plugin win, and `shared` stays where the directory has put it. -/
theorem colliding_loadRegistries :
    ∃ done processors, ∃ registry : RuleRegistry,
      colliding.loadRegistries (.accepting fun _ heard => heard + 1) 0 =
        (5, done, .ok (registry, processors)) ∧
      (∃ directories rules presets plugins,
        colliding.Sources directories rules presets plugins ∧
        ∀ id, registry.get? id = (lastHandler? id plugins).or ((lastHandler? id presets).or
          ((lastHandler? id rules).or (lastHandler? id directories)))) ∧
      registry.get? "shared" = some (.builtIn "explicit" .lint none) ∧
      registry.get? "preset-p/inner" = some (.builtIn "plugin" .fix none) ∧
      registry.ids = ["shared", "local", "preset-p/inner"] := by
  obtain ⟨directories, rules, presets, plugins, hsources, -, hget, -⟩ :=
    loadRegistries_priority colliding (fun _ heard => heard + 1) (s := 0) rfl
  exact ⟨_, _, _, rfl, ⟨directories, rules, presets, plugins, hsources, hget⟩, rfl, rfl, rfl⟩

end Loader
end LintRules
