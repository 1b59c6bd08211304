import LintRules.Proofs.Interleaving
import LintRules.Proofs.PackageAnswers

/-!
# References that are skipped

A rule or a preset whose name has the shape of a plugin's rule is not loaded: the load warns of it
and goes on.  Such references can stand anywhere among the others, before or after one at which the
load ends, and the load is what it would be without them, except for a warning of each of them that
it reaches.

* `Loader.reached`: the items that a load reaches.  By `Loader.prefix_reached_iff` these are the
  items before which nothing has ended the load.
* `Loader.Skips`: a reference that is skipped, with the warning.
* `Loader.exists_perform_of_interleaves`: the load of some items, and the load of these and of
  references that are skipped.
* `Loader.loadConfig_congr`: the load of a config does not depend on what a resolver says to a
  reference that is skipped.
* `Loader.SameButForWarnings`: two loads between which a listener sees no difference.
* `Loader.loadConfig_withReferences`: the load of a config, and that of the config with more
  references in it.
-/

namespace LintRules

/-! ## Names of plugins' rules -/

namespace Naming

/-- The name of a rule or a preset which, without the lead of its package, has the shape of a
plugin's rule: there is something before its first slash and something after it. -/
def MeansPluginRule (naming : Naming) (name : String) : Prop :=
  ∃ plugin rule : String, plugin ≠ "" ∧ '/' ∉ plugin.toList ∧ rule ≠ "" ∧
    naming.stripRule name = plugin ++ "/" ++ rule

theorem meansPluginRule_iff {naming : Naming} {name : String} :
    naming.MeansPluginRule name ↔ isPluginRuleName (naming.stripRule name) = true :=
  isPluginRuleName_iff.symm

instance (naming : Naming) (name : String) : Decidable (naming.MeansPluginRule name) :=
  decidable_of_iff _ meansPluginRule_iff.symm

end Naming

/-- The warning that a step logs. -/
def LoadAction.warning? (action : LoadAction) : Option LogEntry :=
  action.logged?.filter (·.level = .warn)

namespace Loader

variable {loader : Loader} {σ : Type}

/-! ## The items that a load reaches -/

/-- The items that the load of a list reaches when a listener hears it. -/
def reached (loader : Loader) (listener : Listener σ) : List LoadItem → σ → List LoadItem
  | [], _ => []
  | item :: rest, s =>
    item :: match (loader.loadItem item).perform listener s with
      | (s, _, .ok ()) => reached loader listener rest s
      | (_, _, .error _) => []

variable {listener : Listener σ} {s s' : σ} {item : LoadItem} {done : List LoadAction}

theorem reached_cons_of_ok (h : (loader.loadItem item).perform listener s = (s', done, .ok ()))
    (rest : List LoadItem) :
    loader.reached listener (item :: rest) s = item :: loader.reached listener rest s' := by
  rw [reached, h]

theorem reached_cons_of_error {e : LoadError}
    (h : (loader.loadItem item).perform listener s = (s', done, .error e)) (rest : List LoadItem) :
    loader.reached listener (item :: rest) s = [item] := by
  rw [reached, h]

/-- **An item is reached** if the load of the items before it succeeds. -/
theorem prefix_reached_iff (loader : Loader) (listener : Listener σ) (first : List LoadItem)
    (item : LoadItem) (rest : List LoadItem) (s : σ) :
    first ++ [item] <+: loader.reached listener (first ++ item :: rest) s ↔
      ((Script.sequence (first.map loader.loadItem)).perform listener s).2.2 = .ok () := by
  induction first generalizing s with
  | nil => exact iff_of_true (List.cons_prefix_cons.mpr ⟨rfl, List.nil_prefix⟩) rfl
  | cons earlier first ih =>
    rw [List.map_cons, Script.sequence_cons, Script.perform_andThen, List.cons_append,
      List.cons_append]
    rcases hearlier : (loader.loadItem earlier).perform listener s with ⟨s', done, e | ⟨⟩⟩
    · rw [reached_cons_of_error hearlier, List.cons_prefix_cons, List.prefix_nil]
      simp
    · rw [reached_cons_of_ok hearlier, List.cons_prefix_cons, and_iff_right rfl, ih]

/-! ## What a load asks for -/

theorem filter_isQuestion_performItem (loader : Loader) (item : LoadItem) (listener : Listener σ)
    (s : σ) :
    ((loader.loadItem item).perform listener s).2.1.filter (·.isQuestion) =
      (loader.question? item).toList := by
  obtain ⟨lead, hactions, hsilent, hquestions⟩ := loader.exists_lead item
  have hlead : Script.play listener s lead = (s, lead, .ok ()) := by
    have haccepts : Hearer.Accepts ⟨listener, s⟩ (lead.filterMap (·.announced?)) := by
      rw [hsilent]
      exact Hearer.accepts_nil _
    have hplay := Script.play_of_accepts haccepts
    rwa [hsilent] at hplay
  have hannounced := (Script.play_prefix listener s
    ((loader.loadItem item).events.map LoadAction.announce)).sublist.filter (·.isQuestion)
  rw [filter_isQuestion_announce, List.sublist_nil] at hannounced
  rw [Script.perform_done, hactions, Script.play_append, hlead]
  simp only [List.filter_append, hquestions, hannounced, List.append_nil]

/-- **A load asks for the items that it reaches**, for each of them once. -/
theorem filter_isQuestion_perform (loader : Loader) (items : List LoadItem) (listener : Listener σ)
    (s : σ) :
    ((Script.sequence (items.map loader.loadItem)).perform listener s).2.1.filter (·.isQuestion) =
      (loader.reached listener items s).filterMap loader.question? := by
  induction items generalizing s with
  | nil => rfl
  | cons item rest ih =>
    have hitem := loader.filter_isQuestion_performItem item listener s
    rw [List.map_cons, Script.sequence_cons, Script.perform_andThen]
    rcases hperform : (loader.loadItem item).perform listener s with ⟨s', done, e | ⟨⟩⟩
    · rw [hperform] at hitem
      rw [reached_cons_of_error hperform]
      simp only [hitem, List.filterMap_cons, List.filterMap_nil]
      cases loader.question? item <;> rfl
    · rw [hperform] at hitem
      rw [reached_cons_of_ok hperform, List.filterMap_cons, ← ih]
      simp only [List.filter_append, hitem]
      cases loader.question? item <;> rfl

/-- No rule or preset that is meant for a plugin's rule is asked for. -/
theorem question?_ne_resolve {kind : PackageKind} {name : String} (hkind : kind ≠ .plugin)
    (hname : loader.config.naming.MeansPluginRule name) (item : LoadItem) :
    loader.question? item ≠ some (.resolve kind name) := by
  intro h
  exact Bool.eq_false_iff.mp ((eq_reference_of_question? h).2 hkind)
    (Naming.meansPluginRule_iff.mp hname)

/-! ## References that are skipped -/

/-- A reference that is skipped, and the warning that says so. -/
inductive Skips (loader : Loader) : LoadItem → LogEntry → Prop
  | rule {name : String} (hname : loader.config.naming.MeansPluginRule name) :
      Skips loader (.rule name) (pluginRuleWarning .rule (loader.config.naming.stripRule name))
  | preset {name : String} (hname : loader.config.naming.MeansPluginRule name) :
      Skips loader (.preset name) (pluginRuleWarning .preset (loader.config.naming.stripRule name))

theorem loadItem_of_skips {entry : LogEntry} (h : loader.Skips item entry) :
    loader.loadItem item = { actions := [.log entry] } := by
  cases h with
  | rule hname => rw [loadItem, loadRule, if_pos (Naming.meansPluginRule_iff.mp hname)]
  | preset hname => rw [loadItem, loadPreset, if_pos (Naming.meansPluginRule_iff.mp hname)]

theorem warning?_of_skips {entry : LogEntry} (h : loader.Skips item entry) :
    (LoadAction.log entry).warning? = some entry := by
  cases h <;> rfl

/-- **References that are skipped among other items.**  The load of all items leaves the listener in
the state in which the load of the other items leaves it, and ends in the same way.  It reaches the
first of the references, and what it does besides is to log the warnings about them. -/
theorem exists_perform_of_interleaves {items skipped all : List LoadItem}
    (h : Interleaves items skipped all)
    (hskipped : ∀ item ∈ skipped, ∃ entry, loader.Skips item entry)
    (listener : Listener σ) (s : σ) :
    ∃ s' done allDone result passed entries,
      (Script.sequence (items.map loader.loadItem)).perform listener s = (s', done, result) ∧
      (Script.sequence (all.map loader.loadItem)).perform listener s = (s', allDone, result) ∧
      passed <+: skipped ∧
      Interleaves (loader.reached listener items s) passed (loader.reached listener all s) ∧
      List.Forall₂ loader.Skips passed entries ∧
      Interleaves done (entries.map .log) allDone := by
  induction h generalizing s with
  | nil => exact ⟨s, [], [], .ok (), [], [], rfl, rfl, List.nil_prefix, .nil, .nil, .nil⟩
  | @left item items skipped all h ih =>
    rw [List.map_cons, Script.sequence_cons, Script.perform_andThen, List.map_cons,
      Script.sequence_cons, Script.perform_andThen]
    rcases hitem : (loader.loadItem item).perform listener s with ⟨s₁, done₁, e | ⟨⟩⟩
    · refine ⟨s₁, done₁, done₁, .error e, [], [], rfl, rfl, List.nil_prefix, ?_, .nil,
        .self_left done₁⟩
      rw [reached_cons_of_error hitem, reached_cons_of_error hitem]
      exact .self_left [item]
    · obtain ⟨s', done, allDone, result, passed, entries, hitems, hall, hpassed, hreached,
        hentries, hdone⟩ := ih hskipped s₁
      refine ⟨s', done₁ ++ done, done₁ ++ allDone, result, passed, entries, ?_, ?_, hpassed, ?_,
        hentries, (Interleaves.self_left done₁).append hdone⟩
      · simp only [hitems]
      · simp only [hall]
      · rw [reached_cons_of_ok hitem, reached_cons_of_ok hitem]
        exact .left item hreached
  | @right item items skipped all h ih =>
    obtain ⟨entry, hentry⟩ := hskipped item (List.mem_cons_self ..)
    have hitem : (loader.loadItem item).perform listener s = (s, [.log entry], .ok ()) := by
      rw [loadItem_of_skips hentry]
      rfl
    obtain ⟨s', done, allDone, result, passed, entries, hitems, hall, hpassed, hreached, hentries,
      hdone⟩ := ih (fun other hother => hskipped other (List.mem_cons_of_mem _ hother)) s
    refine ⟨s', done, .log entry :: allDone, result, item :: passed, entry :: entries, hitems, ?_,
      List.cons_prefix_cons.mpr ⟨rfl, hpassed⟩, ?_, .cons hentry hentries, .right _ hdone⟩
    · rw [List.map_cons, Script.sequence_cons, Script.perform_andThen, hitem]
      simp only [hall, List.singleton_append]
    · rw [reached_cons_of_ok hitem]
      exact .right item hreached

/-! ## The load of a config -/

/-- The load of a config closes with a summary, unless something has ended it before. -/
theorem exists_closing {result : Except LoadError Unit}
    (h : loader.loadSources.perform listener s = (s', done, result)) :
    ∃ closing, loader.loadConfig.perform listener s = (s', done ++ closing, result) ∧
      closing.filterMap (·.announced?) = [] ∧ closing.filterMap (·.warning?) = [] ∧
      closing.filter (·.isQuestion) = [] := by
  rw [loadConfig, Script.perform_andThen, h]
  rcases result with e | ⟨⟩
  · exact ⟨[], by rw [List.append_nil], rfl, rfl, rfl⟩
  · exact ⟨_, rfl, rfl, rfl, rfl⟩

/-- The load of a config asks for the items that it reaches. -/
theorem filter_isQuestion_loadConfig (loader : Loader) (listener : Listener σ) (s : σ) :
    (loader.loadConfig.perform listener s).2.1.filter (·.isQuestion) =
      (loader.reached listener loader.config.items s).filterMap loader.question? := by
  rcases hsources : loader.loadSources.perform listener s with ⟨s', done, result⟩
  obtain ⟨closing, hconfig, -, -, hclosing⟩ := exists_closing hsources
  have hdone := loader.filter_isQuestion_perform loader.config.items listener s
  rw [← loadSources_eq_sequence_items, hsources] at hdone
  rw [hconfig, List.filter_append, hclosing, List.append_nil, hdone]

/-- The loader with other answers to references. -/
def resolvingBy (loader : Loader)
    (resolve : Naming → PackageKind → String → Except LoadError Locator) : Loader :=
  { loader with source := { loader.source with resolve } }

/-- **No resolver is asked for a reference that is skipped**: what it would say makes no
difference. -/
theorem loadConfig_congr {resolve : Naming → PackageKind → String → Except LoadError Locator}
    (h : ∀ kind name, kind = .plugin ∨ ¬ loader.config.naming.MeansPluginRule name →
      resolve loader.config.naming kind name =
        loader.source.resolve loader.config.naming kind name) :
    (loader.resolvingBy resolve).loadConfig = loader.loadConfig := by
  refine loadConfig_congr_exported rfl rfl ?_
  intro item _ kind name hquestion
  have hname : kind = .plugin ∨ ¬ loader.config.naming.MeansPluginRule name := by
    by_contra hboth
    rw [not_or, not_not] at hboth
    exact question?_ne_resolve hboth.1 hboth.2 item hquestion
  rw [exported, exported]
  simp only [resolvingBy, h kind name hname]

/-- The loader with other rules and presets in its config. -/
def withReferences (loader : Loader) (rules presets : List String) : Loader :=
  { loader with config := { loader.config with rules, presets } }

theorem loadItem_withReferences (loader : Loader) (rules presets : List String) :
    (loader.withReferences rules presets).loadItem = loader.loadItem := by
  funext item
  cases item <;> rfl

theorem reached_withReferences (loader : Loader) (rules presets : List String)
    (listener : Listener σ) (items : List LoadItem) (s : σ) :
    (loader.withReferences rules presets).reached listener items s =
      loader.reached listener items s := by
  induction items generalizing s with
  | nil => rfl
  | cons item rest ih => simp only [reached, loadItem_withReferences, ih]

theorem items_withReferences {moreRules rules morePresets presets : List String}
    (hrules : Interleaves loader.config.rules moreRules rules)
    (hpresets : Interleaves loader.config.presets morePresets presets) :
    Interleaves loader.config.items (moreRules.map .rule ++ morePresets.map .preset)
      (loader.withReferences rules presets).config.items := by
  have hitems := (Interleaves.self_left (loader.config.rulePaths.map LoadItem.directory)).append
    ((hrules.map LoadItem.rule).append ((hpresets.map LoadItem.preset).append
      (.self_left (loader.config.plugins.map LoadItem.plugin))))
  rwa [List.nil_append, List.append_nil] at hitems

theorem resolve_notMem_perform {kind : PackageKind} {name : String} (hkind : kind ≠ .plugin)
    (hname : loader.config.naming.MeansPluginRule name) (listener : Listener σ) (s : σ) :
    .resolve kind name ∉ (loader.loadConfig.perform listener s).2.1 := by
  intro hmem
  have hasked : LoadAction.resolve kind name ∈
      (loader.loadConfig.perform listener s).2.1.filter (·.isQuestion) :=
    List.mem_filter.mpr ⟨hmem, rfl⟩
  rw [filter_isQuestion_loadConfig, List.mem_filterMap] at hasked
  obtain ⟨item, -, hitem⟩ := hasked
  exact question?_ne_resolve hkind hname item hitem

/-- What is logged about skipped references is a warning each. -/
theorem filterMap_log_of_skips {passed : List LoadItem} {entries : List LogEntry}
    (h : List.Forall₂ loader.Skips passed entries) :
    (entries.map LoadAction.log).filterMap (·.warning?) = entries := by
  induction h with
  | nil => rfl
  | cons hfirst _ ih =>
    rw [List.map_cons, List.filterMap_cons_some (warning?_of_skips hfirst), ih]

/-- To a listener, the load of `wide` is the load of `loader`, except for the warnings about those
of the references `more` that it reaches. -/
structure SameButForWarnings (loader wide : Loader) (more : List LoadItem) (listener : Listener σ)
    (s : σ) : Prop where
  state : (wide.loadConfig.perform listener s).1 = (loader.loadConfig.perform listener s).1
  result : (wide.loadConfig.perform listener s).2.2 = (loader.loadConfig.perform listener s).2.2
  announced : (wide.loadConfig.perform listener s).2.1.filterMap (·.announced?) =
    (loader.loadConfig.perform listener s).2.1.filterMap (·.announced?)
  questions : (wide.loadConfig.perform listener s).2.1.filter (·.isQuestion) =
    (loader.loadConfig.perform listener s).2.1.filter (·.isQuestion)
  warnings : ∃ passed entries, passed <+: more ∧
    Interleaves (loader.reached listener loader.config.items s) passed
      (wide.reached listener wide.config.items s) ∧
    List.Forall₂ loader.Skips passed entries ∧
    Interleaves ((loader.loadConfig.perform listener s).2.1.filterMap (·.warning?)) entries
      ((wide.loadConfig.perform listener s).2.1.filterMap (·.warning?))

variable {moreRules rules morePresets presets : List String}

theorem exists_skips_of_mem {loader : Loader}
    (hnames : ∀ name ∈ moreRules ++ morePresets, loader.config.naming.MeansPluginRule name)
    {item : LoadItem} (hitem : item ∈ moreRules.map .rule ++ morePresets.map .preset) :
    ∃ entry, loader.Skips item entry := by
  rcases List.mem_append.mp hitem with hitem | hitem
  · obtain ⟨name, hname, rfl⟩ := List.mem_map.mp hitem
    exact ⟨_, .rule (hnames name (List.mem_append_left _ hname))⟩
  · obtain ⟨name, hname, rfl⟩ := List.mem_map.mp hitem
    exact ⟨_, .preset (hnames name (List.mem_append_right _ hname))⟩

theorem sameButForWarnings (hrules : Interleaves loader.config.rules moreRules rules)
    (hpresets : Interleaves loader.config.presets morePresets presets)
    (hnames : ∀ name ∈ moreRules ++ morePresets, loader.config.naming.MeansPluginRule name)
    (listener : Listener σ) (s : σ) :
    loader.SameButForWarnings (loader.withReferences rules presets)
      (moreRules.map .rule ++ morePresets.map .preset) listener s := by
  obtain ⟨s', done, allDone, result, passed, entries, hitems, hall, hpassed, hreached, hentries,
    hdone⟩ := exists_perform_of_interleaves (items_withReferences hrules hpresets)
      (fun _ hitem => exists_skips_of_mem hnames hitem) listener s
  rw [← loadSources_eq_sequence_items] at hitems
  rw [← loadItem_withReferences loader rules presets, ← loadSources_eq_sequence_items] at hall
  obtain ⟨closing, hload, hannounced, hwarned, hasked⟩ := exists_closing hitems
  obtain ⟨closing', hload', hannounced', hwarned', hasked'⟩ := exists_closing hall
  have hannouncements := hdone.filterMap (·.announced?)
  have hquestions := hdone.filterMap (Option.guard (·.isQuestion))
  have hwarnings := hdone.filterMap (·.warning?)
  rw [log_silent] at hannouncements
  simp only [List.filterMap_eq_filter, filter_isQuestion_log] at hquestions
  rw [filterMap_log_of_skips hentries] at hwarnings
  constructor
  · rw [hload, hload']
  · rw [hload, hload']
  · simp only [hload, hload', List.filterMap_append, hannounced, hannounced', List.append_nil]
    exact hannouncements.eq_of_nil
  · simp only [hload, hload', List.filter_append, hasked, hasked', List.append_nil]
    exact hquestions.eq_of_nil
  · refine ⟨passed, entries, hpassed, ?_, hentries, ?_⟩
    · rw [reached_withReferences]
      exact hreached
    · simp only [hload, hload', List.filterMap_append, hwarned, hwarned', List.append_nil]
      exact hwarnings

theorem loadRegistries_eq (loader : Loader) (observer : Listener σ) (s : σ) :
    loader.loadRegistries observer s =
      ((loader.loadConfig.perform (registering observer) ({}, {}, s)).1.2.2,
        (loader.loadConfig.perform (registering observer) ({}, {}, s)).2.1,
        (loader.loadConfig.perform (registering observer) ({}, {}, s)).2.2.map fun _ =>
          ((loader.loadConfig.perform (registering observer) ({}, {}, s)).1.1,
            (loader.loadConfig.perform (registering observer) ({}, {}, s)).1.2.1)) := rfl

/-- **A config with more references in it**, which are all meant for plugins' rules and stand
anywhere among its rules and presets.  Its load leaves every listener in the same state, ends in the
same way and announces the same events, and so it fills the same registries.  The load reaches the
first of those references; the warnings about these are added to the warnings of the load, in their
order, and there are no others.  No resolver is asked for such a reference, and what it would say
makes no difference. -/
theorem loadConfig_withReferences (hrules : Interleaves loader.config.rules moreRules rules)
    (hpresets : Interleaves loader.config.presets morePresets presets)
    (hnames : ∀ name ∈ moreRules ++ morePresets, loader.config.naming.MeansPluginRule name)
    (listener : Listener σ) (s : σ) :
    loader.SameButForWarnings (loader.withReferences rules presets)
        (moreRules.map .rule ++ morePresets.map .preset) listener s ∧
      ((loader.withReferences rules presets).loadRegistries listener s).1 =
        (loader.loadRegistries listener s).1 ∧
      ((loader.withReferences rules presets).loadRegistries listener s).2.2 =
        (loader.loadRegistries listener s).2.2 ∧
      (∀ kind name, kind ≠ .plugin → loader.config.naming.MeansPluginRule name →
        .resolve kind name ∉
          ((loader.withReferences rules presets).loadConfig.perform listener s).2.1) ∧
      ∀ resolve, (∀ kind name, kind = .plugin ∨ ¬ loader.config.naming.MeansPluginRule name →
          resolve loader.config.naming kind name =
            loader.source.resolve loader.config.naming kind name) →
        ((loader.withReferences rules presets).resolvingBy resolve).loadConfig =
          (loader.withReferences rules presets).loadConfig := by
  have hregistries :=
    sameButForWarnings hrules hpresets hnames (registering listener) ({}, {}, s)
  refine ⟨sameButForWarnings hrules hpresets hnames listener s, ?_, ?_, ?_, ?_⟩
  · rw [loadRegistries_eq, loadRegistries_eq, hregistries.state]
  · rw [loadRegistries_eq, loadRegistries_eq, hregistries.state, hregistries.result]
  · -- the config with more references has the same naming
    intro kind name hkind hname
    have hname' : (loader.withReferences rules presets).config.naming.MeansPluginRule name := hname
    exact resolve_notMem_perform hkind hname' listener s
  · exact fun resolve hresolve => loadConfig_congr hresolve

/-- A config with a rule that there is and a rule that there is not, and with a preset. -/
def incomplete : Loader where
  config := { rules := ["ok", "missing"], presets := ["preset-p"] }
  source := Resolver.source .none (.catalog (.ofList [
    ("textlint-rule-ok", .rule (.builtIn "ok" .lint none))]))
  scanner _ := ([], .ok {})

/-- The load ends at the missing rule, and there are warnings of the references before it only. -/
theorem incomplete_withReferences :
    incomplete.SameButForWarnings
        (incomplete.withReferences
          ["textlint-rule-md/no-empty-link", "ok", "a/b/c", "missing", "d/e"] ["f/g", "preset-p"])
        [.rule "textlint-rule-md/no-empty-link", .rule "a/b/c", .rule "d/e", .preset "f/g"]
        (.accepting fun _ heard => heard + 1) 0 ∧
      ∃ done searched, (incomplete.withReferences
          ["textlint-rule-md/no-empty-link", "ok", "a/b/c", "missing", "d/e"]
          ["f/g", "preset-p"]).loadConfig.perform (.accepting fun _ heard => heard + 1) 0 =
          (1, done, .error (.notFound .rule "missing" searched)) ∧
        done.filterMap (·.warning?) =
          [pluginRuleWarning .rule "md/no-empty-link", pluginRuleWarning .rule "a/b/c"] := by
  have hrules : Interleaves incomplete.config.rules
      ["textlint-rule-md/no-empty-link", "a/b/c", "d/e"]
      ["textlint-rule-md/no-empty-link", "ok", "a/b/c", "missing", "d/e"] :=
    .right _ (.left _ (.right _ (.left _ (.right _ .nil))))
  have hpresets : Interleaves incomplete.config.presets ["f/g"] ["f/g", "preset-p"] :=
    .right _ (.left _ .nil)
  obtain ⟨hsame, -⟩ := loadConfig_withReferences hrules hpresets (by decide)
    (.accepting fun _ heard => heard + 1) 0
  exact ⟨hsame, _, _, rfl, rfl⟩

end Loader

end LintRules
