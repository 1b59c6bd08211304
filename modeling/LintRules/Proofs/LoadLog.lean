import LintRules.Proofs.Collision
import LintRules.Proofs.DirectoryScan
import LintRules.Proofs.SkippedReferences

/-!
# The log of a load

A load warns in two places: the scan of a directory warns of every file that could not be loaded,
and the load of a rule or a preset warns of a name with the shape of a plugin's rule.  The warnings
come in the order of the config, up to the item at which the load ends, and the warnings of files
match the failures that are announced one by one.  Nothing else is logged, but a summary at the end
of a load that succeeds.

* `RuleDirectory.HasFailures`: the failures of a directory, told from its files.
* `Loader.log_loadItem`, `Loader.filterMap_failure?_loadItem`: what one item logs, and the failures
  that it announces.
* `Loader.actions_sequence`: what the load of a list does is what the items that it reaches do.
* `Loader.LogAccounts`: what the log of a load tells of it.
* `Loader.loadConfig_log`: the log of every load.
-/

namespace LintRules

/-- The error that an event tells of. -/
def LoadEvent.failure? : LoadEvent → Option LoadError
  | .failure error => some error
  | .rule .. | .processor .. => none

/-! ## The failures of a directory -/

namespace RuleDirectory

variable {files : Files} {directory : Path} {names : List String} {name : String}

/-- The failures of a directory: one for each rule file that becomes a failure, in the order of the
names of the files.  A directory that cannot be listed has none. -/
inductive HasFailures (files : Files) (directory : Path) : List ScanFailure → Prop
  | unlisted {why : FileError} (hnames : files.names directory = .error why) :
      HasFailures files directory []
  | listed {names failing : List String} {failures : List ScanFailure}
      (hnames : files.names directory = .ok names) (hlt : failing.Pairwise (· < ·))
      (hmem : ∀ name, name ∈ failing ↔ name ∈ names ∧ Eligible files directory name ∧
        ∃ e, Becomes files directory names name (.error e))
      (hfailures : List.Forall₂ (fun name failure => failure.path = Path.join directory name ∧
        Becomes files directory names name (.error failure.error)) failing failures) :
      HasFailures files directory failures

/-- A file that becomes a rule becomes no failure. -/
theorem Becomes.not_error {handler : Handler} {e : LoadError}
    (h : Becomes files directory names name (.ok handler)) :
    ¬ Becomes files directory names name (.error e) := by
  intro hfails
  cases h with
  | rule hfirst hholds =>
    cases hfails with
    | broken _ hbroken =>
      have hload := loadFile_of_holdsRule hholds
      rw [loadFile_of_isBroken hbroken] at hload
      cases hload
    | duplicate hlater => exact hfirst hlater

/-- The failures of a scan are those of the directory. -/
theorem Accounts.hasFailures {accepted failed : List String} {result : DirectoryScan}
    (hnames : files.names directory = .ok names) (hnodup : names.Nodup)
    (h : Accounts files directory names (ruleFileNames files directory names) result accepted
      failed) : HasFailures files directory result.failures := by
  refine .listed hnames ((pairwise_ruleFileNames hnodup).sublist h.split.sublist_right)
    (fun name => ⟨fun hname => ?_, ?_⟩) h.failures
  · obtain ⟨hlisted, heligible⟩ := mem_ruleFileNames.mp (h.split.sublist_right.subset hname)
    obtain ⟨failure, -, -, hbecomes⟩ := exists_of_mem_left h.failures hname
    exact ⟨hlisted, heligible, failure.error, hbecomes⟩
  · rintro ⟨hlisted, heligible, e, hbecomes⟩
    rcases h.split.mem_iff.mp (mem_ruleFileNames.mpr ⟨hlisted, heligible⟩) with hname | hname
    · obtain ⟨entry, -, -, hrule⟩ := exists_of_mem_left h.rules hname
      exact absurd hbecomes hrule.not_error
    · exact hname

end RuleDirectory

theorem filterMap_map_eq_nil {α β γ : Type} {f : β → Option γ} {g : α → β}
    (h : ∀ a, f (g a) = none) (l : List α) : (l.map g).filterMap f = [] := by
  rw [List.filterMap_map, List.filterMap_eq_nil_iff]
  exact fun a _ => h a

theorem Config.flatMap_items {α : Type} (config : Config) (f : LoadItem → List α) :
    config.items.flatMap f =
      (config.rulePaths.flatMap fun path => f (.directory path)) ++
        ((config.rules.flatMap fun name => f (.rule name)) ++
          ((config.presets.flatMap fun name => f (.preset name)) ++
            config.plugins.flatMap fun name => f (.plugin name))) := by
  simp only [items, List.flatMap_append, List.flatMap_map]

namespace Loader

variable {σ : Type}

/-! ## What one item logs and which failures it announces -/

/-- The failures that an item comes upon. -/
def failures (loader : Loader) : LoadItem → List ScanFailure
  | .directory path =>
    match loader.scanner path with
    | (_, .ok scan) => scan.failures
    | (_, .error _) => []
  | .rule _ | .preset _ | .plugin _ => []

/-- The warnings about those of some names that have the shape of a plugin's rule. -/
def skipWarnings (naming : Naming) (kind : PackageKind) (names : List String) : List LogEntry :=
  (names.filter (naming.MeansPluginRule ·)).map fun name =>
    pluginRuleWarning kind (naming.stripRule name)

theorem flatMap_skipWarnings (naming : Naming) (kind : PackageKind) (names : List String) :
    (names.flatMap fun name => skipWarnings naming kind [name]) =
      skipWarnings naming kind names := by
  induction names with
  | nil => rfl
  | cons name names ih =>
    rw [List.flatMap_cons, ih]
    simp only [skipWarnings, ← List.map_append, ← List.filter_append, List.singleton_append]

/-- What an item logs. -/
def itemLog (loader : Loader) : LoadItem → List LogEntry
  | .directory path => (loader.scanner path).1
  | .rule name => skipWarnings loader.config.naming .rule [name]
  | .preset name => skipWarnings loader.config.naming .preset [name]
  | .plugin _ => []

theorem filterMap_logged?_log (log : List LogEntry) :
    (log.map LoadAction.log).filterMap (·.logged?) = log := by
  rw [List.filterMap_map]
  exact List.filterMap_some

/-- What is announced after a question is not logged. -/
theorem log_asking {α : Type} (lead : List LoadAction) (answer : Except LoadError α)
    (events : α → List LoadEvent) :
    (Script.asking lead answer fun a => (events a).map .announce).log =
      lead.filterMap (·.logged?) := by
  rcases answer with e | a
  · rfl
  · rw [Script.asking, Script.log, List.filterMap_append, filterMap_map_eq_nil fun _ => rfl,
      List.append_nil]

theorem skipWarnings_singleton (naming : Naming) (kind : PackageKind) (name : String) :
    skipWarnings naming kind [name] =
      if isPluginRuleName (naming.stripRule name) then
        [pluginRuleWarning kind (naming.stripRule name)] else [] := by
  by_cases hname : naming.MeansPluginRule name
  · rw [skipWarnings, List.filter_singleton, decide_eq_true hname,
      if_pos (Naming.meansPluginRule_iff.mp hname)]
    rfl
  · rw [skipWarnings, List.filter_singleton, decide_eq_false hname,
      if_neg (mt Naming.meansPluginRule_iff.mpr hname)]
    rfl

/-- The log of an item: a directory logs what its scan does, and a rule or a preset that it is
skipped. -/
theorem log_loadItem (loader : Loader) (item : LoadItem) :
    (loader.loadItem item).log = loader.itemLog item := by
  cases item with
  | directory path =>
    rcases hscan : loader.scanner path with ⟨log, answer⟩
    rw [loadItem, loadDirectory, itemLog, hscan]
    exact (log_asking _ answer scanEvents).trans (filterMap_logged?_log log)
  | rule name =>
    rw [loadItem, loadRule, itemLog, skipWarnings_singleton]
    split
    · rfl
    · exact log_asking _ _ fun handler =>
        [.rule (.flat (loader.config.naming.stripRule name)) handler]
  | preset name =>
    rw [loadItem, loadPreset, itemLog, skipWarnings_singleton]
    split
    · rfl
    · exact log_asking _ _ (presetEvents (loader.config.naming.stripRule name))
  | plugin name =>
    rw [loadItem, loadPlugin, itemLog]
    exact log_asking _ _ fun parts : Option (Table Handler) × Option Processor =>
      pluginEvents (loader.config.naming.stripPlugin name) parts.1 parts.2

theorem filterMap_failure?_failures (failures : List ScanFailure) :
    (failures.map fun f => LoadEvent.failure f.error).filterMap (·.failure?) =
      failures.map (·.error) := by
  rw [List.filterMap_map, ← List.filterMap_eq_map]
  rfl

/-- The failures that an item announces are those that it comes upon. -/
theorem filterMap_failure?_loadItem (loader : Loader) (item : LoadItem) :
    (loader.loadItem item).events.filterMap (·.failure?) =
      (loader.failures item).map (·.error) := by
  rcases loader.delivers_or_fails item with ⟨events, h⟩ | ⟨e, h⟩
  · rw [(Script.outcome_eq_iff.mp (outcome_of_delivers h)).1]
    cases h with
    | directory hscan =>
      rw [failures, hscan, List.filterMap_append, filterMap_map_eq_nil fun _ => rfl,
        filterMap_failure?_failures, List.nil_append]
    | skippedRule hshape => rfl
    | rule hshape hexports => rfl
    | skippedPreset hshape => rfl
    | preset hshape hexports => exact filterMap_map_eq_nil (fun _ => rfl) _
    | processorPlugin hexports => exact filterMap_map_eq_nil (fun _ => rfl) _
    | plugin hexports =>
      rw [List.filterMap_append, filterMap_map_eq_nil fun _ => rfl,
        filterMap_map_eq_nil fun _ => rfl]
      rfl
  · rw [(Script.outcome_eq_iff.mp (outcome_of_fails h)).1]
    cases h with
    | directory hscan => rw [failures, hscan]; rfl
    | rule hshape hlacks => rfl
    | noRule hshape hexports => rfl
    | preset hshape hlacks => rfl
    | noRules hshape hexports hnone => rfl
    | plugin hlacks => rfl
    | noPlugin hexports => rfl

/-! ## What the items do that a load reaches -/

theorem reached_prefix (loader : Loader) (listener : Listener σ) (items : List LoadItem) (s : σ) :
    loader.reached listener items s <+: items := by
  induction items generalizing s with
  | nil => exact List.prefix_refl _
  | cons item rest ih =>
    rcases hitem : (loader.loadItem item).perform listener s with ⟨s', done, e | ⟨⟩⟩
    · rw [reached_cons_of_error hitem]
      exact List.cons_prefix_cons.mpr ⟨rfl, List.nil_prefix⟩
    · rw [reached_cons_of_ok hitem]
      exact List.cons_prefix_cons.mpr ⟨rfl, ih s'⟩

/-- **The load of a list does what the items do that it reaches.** -/
theorem actions_sequence (loader : Loader) (items : List LoadItem) (hear : LoadEvent → σ → σ)
    (s : σ) :
    (Script.sequence (items.map loader.loadItem)).actions =
      (loader.reached (.accepting hear) items s).flatMap fun item =>
        (loader.loadItem item).actions := by
  induction items generalizing s with
  | nil => rfl
  | cons item rest ih =>
    have hitem := (loader.loadItem item).perform_accepting hear s
    rw [List.map_cons, Script.sequence_cons]
    rcases hresult : (loader.loadItem item).result with e | ⟨⟩
    · rw [hresult] at hitem
      rw [Script.andThen_of_error hresult, reached_cons_of_error hitem, List.flatMap_singleton]
    · rw [hresult] at hitem
      rw [Script.andThen_of_ok hresult, reached_cons_of_ok hitem, List.flatMap_cons, ← ih]

theorem log_loadSources (loader : Loader) (hear : LoadEvent → σ → σ) (s : σ) :
    loader.loadSources.log =
      (loader.reached (.accepting hear) loader.config.items s).flatMap loader.itemLog := by
  rw [loadSources_eq_sequence_items, Script.log, loader.actions_sequence _ hear s,
    List.filterMap_flatMap]
  exact congrArg (List.flatMap · _) (funext loader.log_loadItem)

theorem filterMap_failure?_loadSources (loader : Loader) (hear : LoadEvent → σ → σ) (s : σ) :
    loader.loadSources.events.filterMap (·.failure?) =
      ((loader.reached (.accepting hear) loader.config.items s).flatMap loader.failures).map
        (·.error) := by
  rw [loadSources_eq_sequence_items, Script.events, loader.actions_sequence _ hear s,
    List.filterMap_flatMap, List.filterMap_flatMap, List.map_flatMap]
  exact congrArg (List.flatMap · _) (funext loader.filterMap_failure?_loadItem)

/-! ## The log of a whole load -/

/-- The end of a log: a load that succeeds sums up what it was asked for. -/
def closing (config : Config) : Except LoadError Unit → List LogEntry
  | .ok () => [⟨.info, "loaded modules from config",
      [("rule_paths", .count config.rulePaths.length), ("rules", .count config.rules.length),
        ("presets", .count config.presets.length), ("plugins", .count config.plugins.length)]⟩]
  | .error _ => []

theorem log_loadConfig (loader : Loader) :
    loader.loadConfig.log =
      loader.loadSources.log ++ closing loader.config loader.loadConfig.result := by
  rw [loadConfig]
  rcases hresult : loader.loadSources.result with e | ⟨⟩
  · rw [Script.andThen_of_error hresult, hresult]
    exact (List.append_nil _).symm
  · rw [Script.andThen_of_ok hresult, Script.log, List.filterMap_append]
    rfl

/-- The warnings about the items of a config: of each failure of its directories, then of each rule
and then of each preset that is skipped. -/
def warnings (config : Config) (failures : List ScanFailure) : List LogEntry :=
  failures.map RuleDirectory.failureWarning ++
    (skipWarnings config.naming .rule config.rules ++
      skipWarnings config.naming .preset config.presets)

/-- What the log tells of a load of `config` that has come to the end of `part`, where `failures`
are the failures of the directories of `part`, directory by directory. -/
structure LogAccounts (config part : Config) (files : Files) (failures : List (List ScanFailure))
    (done : List LoadAction) (result : Except LoadError Unit) : Prop where
  directories : List.Forall₂ (RuleDirectory.HasFailures files) part.rulePaths failures
  warned : done.filterMap (·.warning?) = warnings part failures.flatten
  /-- Besides the warnings there is only the summary of a load that succeeds. -/
  logged : done.filterMap (·.logged?) = done.filterMap (·.warning?) ++ closing config result
  /-- The failures that are announced are those that are warned of, in the same order. -/
  announced : (done.filterMap (·.announced?)).filterMap (·.failure?) =
    failures.flatten.map (·.error)
  count : (done.filterMap (·.warning?)).countP (·.message = "failed to load rule file") =
    ((done.filterMap (·.announced?)).filterMap (·.failure?)).length

theorem filterMap_warning? (done : List LoadAction) :
    done.filterMap (·.warning?) = (done.filterMap (·.logged?)).filter (·.level = .warn) :=
  (List.filter_filterMap ..).symm

/-- A warning about a reference is longer than one about a file. -/
theorem level_and_message_of_mem_skipWarnings {naming : Naming} {kind : PackageKind}
    {names : List String} {entry : LogEntry} (h : entry ∈ skipWarnings naming kind names) :
    entry.level = .warn ∧ entry.message ≠ "failed to load rule file" := by
  obtain ⟨name, -, rfl⟩ := List.mem_map.mp h
  refine ⟨rfl, fun hmessage => ?_⟩
  have hlength := congrArg String.length hmessage
  rw [pluginRuleWarning, String.length_append] at hlength
  have hlong : " is Plugin's rule. This is unknown case, please report issue.".length = 61 := rfl
  have hshort : "failed to load rule file".length = 24 := rfl
  omega

theorem filter_level_warnings (config : Config) (failures : List ScanFailure) :
    (warnings config failures).filter (·.level = .warn) = warnings config failures := by
  rw [List.filter_eq_self]
  intro entry hentry
  rw [decide_eq_true_eq]
  rcases List.mem_append.mp hentry with hentry | hentry
  · obtain ⟨failure, -, rfl⟩ := List.mem_map.mp hentry
    rfl
  · rcases List.mem_append.mp hentry with hentry | hentry <;>
      exact (level_and_message_of_mem_skipWarnings hentry).1

/-- The warnings about files are told from the others by their text. -/
theorem countP_warnings (config : Config) (failures : List ScanFailure) :
    (warnings config failures).countP (·.message = "failed to load rule file") =
      failures.length := by
  have hfiles : (failures.map RuleDirectory.failureWarning).countP
      (·.message = "failed to load rule file") = failures.length := by
    rw [← List.length_map RuleDirectory.failureWarning, List.countP_eq_length]
    intro entry hentry
    obtain ⟨failure, -, rfl⟩ := List.mem_map.mp hentry
    rfl
  rw [warnings, List.countP_append, hfiles, Nat.add_eq_left, List.countP_eq_zero]
  intro entry hentry
  rw [decide_eq_true_eq]
  rcases List.mem_append.mp hentry with hentry | hentry <;>
    exact (level_and_message_of_mem_skipWarnings hentry).2

/-- The parts of a log from which the rest of it follows. -/
theorem logAccounts_of_log {config part : Config} {files : Files}
    {failures : List (List ScanFailure)} {done : List LoadAction} {result : Except LoadError Unit}
    (hdirectories : List.Forall₂ (RuleDirectory.HasFailures files) part.rulePaths failures)
    (hlog : done.filterMap (·.logged?) =
      warnings part failures.flatten ++ closing config result)
    (hannounced : (done.filterMap (·.announced?)).filterMap (·.failure?) =
      failures.flatten.map (·.error)) :
    LogAccounts config part files failures done result := by
  have hclosing : (closing config result).filter (·.level = .warn) = [] := by
    rcases result with e | ⟨⟩ <;> rfl
  have hwarned : done.filterMap (·.warning?) = warnings part failures.flatten := by
    rw [filterMap_warning?, hlog, List.filter_append, filter_level_warnings, hclosing,
      List.append_nil]
  refine ⟨hdirectories, hwarned, ?_, hannounced, ?_⟩
  · rw [hlog, hwarned]
  · rw [hwarned, countP_warnings, hannounced, List.length_map]

/-! ### Directories of files -/

variable {config : Config} {source : PackageSource} {files : Files}

theorem config_ofFiles : (ofFiles config source files).config = config := rfl

theorem scanner_ofFiles (path : Path) :
    (ofFiles config source files).scanner path = RuleDirectory.scanner files path := rfl

/-- The scan of a directory warns of every failure that it comes upon. -/
theorem itemLog_directory (path : Path) :
    (ofFiles config source files).itemLog (.directory path) =
      ((ofFiles config source files).failures (.directory path)).map
        RuleDirectory.failureWarning := by
  rw [itemLog, failures, scanner_ofFiles, RuleDirectory.scanner]
  rcases RuleDirectory.scan files path with e | scan <;> rfl

theorem hasFailures_directory {path : Path}
    (hlisting : ∀ names, files.names path = .ok names → RuleDirectory.IsListing names) :
    RuleDirectory.HasFailures files path
      ((ofFiles config source files).failures (.directory path)) := by
  rw [failures, scanner_ofFiles, RuleDirectory.scanner]
  rcases hnames : files.names path with why | names
  · rw [RuleDirectory.scan, hnames]
    exact .unlisted hnames
  · obtain ⟨accepted, failed, haccounts⟩ :=
      RuleDirectory.exists_accounts (hlisting names hnames) (List.append_nil _)
    rw [RuleDirectory.scan_eq_ok hnames]
    exact haccounts.hasFailures hnames (hlisting names hnames).nodup

/-- The failures of the directories of a config, directory by directory. -/
def directoryFailures (loader : Loader) (part : Config) : List (List ScanFailure) :=
  part.rulePaths.map fun path => loader.failures (.directory path)

/-- Only directories come upon failures. -/
theorem flatMap_failures_items (loader : Loader) (part : Config) :
    part.items.flatMap loader.failures = (loader.directoryFailures part).flatten := by
  have hnone : ∀ names : List String, (names.flatMap fun _ => ([] : List ScanFailure)) = [] :=
    fun names => List.flatMap_eq_nil_iff.mpr fun _ _ => rfl
  rw [directoryFailures, ← List.flatMap_def]
  simp only [Config.flatMap_items, failures, hnone, List.append_nil]

/-- The items of a config log the warnings about them. -/
theorem flatMap_itemLog_items {part : Config} (hnaming : part.naming = config.naming) :
    part.items.flatMap (ofFiles config source files).itemLog =
      warnings part ((ofFiles config source files).directoryFailures part).flatten := by
  have hdirectories : (part.rulePaths.flatMap fun path =>
      (ofFiles config source files).itemLog (.directory path)) =
        ((ofFiles config source files).directoryFailures part).flatten.map
          RuleDirectory.failureWarning := by
    rw [directoryFailures, List.map_flatten, List.map_map, List.flatMap_def]
    exact congrArg List.flatten (List.map_congr_left fun path _ => itemLog_directory path)
  have hnone : (part.plugins.flatMap fun name =>
      (ofFiles config source files).itemLog (.plugin name)) = [] :=
    List.flatMap_eq_nil_iff.mpr fun _ _ => rfl
  rw [Config.flatMap_items, hdirectories, hnone, List.append_nil, warnings, hnaming,
    ← flatMap_skipWarnings, ← flatMap_skipWarnings]
  rfl

theorem exists_reached_eq_items (loader : Loader) (listener : Listener σ) (s : σ) :
    ∃ n, loader.reached listener loader.config.items s = (loader.config.cutAfter n).items := by
  have hprefix := loader.reached_prefix listener loader.config.items s
  exact ⟨_, (List.prefix_iff_eq_take.mp hprefix).trans (loader.config.items_cutAfter _).symm⟩

/-- **The log of a load.**  A load that a listener hears without rejecting anything reaches the
items of the config up to some item.  It warns of these and of nothing else: of each failure of the
directories, in the order of the names of the files, then of each rule and then of each preset whose
name has the shape of a plugin's rule.  The failures that it warns of are those that it announces.
If it succeeds, it closes with one summary, which counts all that the config lists. -/
theorem loadConfig_log (config : Config) (source : PackageSource) (files : Files)
    (hlisting : ∀ directory ∈ config.rulePaths, ∀ names, files.names directory = .ok names →
      RuleDirectory.IsListing names) (hear : LoadEvent → σ → σ) (s : σ) :
    ∃ s' done result n failures,
      (ofFiles config source files).loadConfig.perform (.accepting hear) s = (s', done, result) ∧
      (ofFiles config source files).reached (.accepting hear) config.items s =
        (config.cutAfter n).items ∧
      LogAccounts config (config.cutAfter n) files failures done result := by
  obtain ⟨n, hreached⟩ := (ofFiles config source files).exists_reached_eq_items (.accepting hear) s
  have hfailures := (ofFiles config source files).flatMap_failures_items (config.cutAfter n)
  refine ⟨_, _, _, n, (ofFiles config source files).directoryFailures (config.cutAfter n),
    Script.perform_accepting _ hear s, hreached, logAccounts_of_log ?_ ?_ ?_⟩
  · rw [directoryFailures, List.forall₂_map_right_iff, List.forall₂_same]
    exact fun path hpath => hasFailures_directory (hlisting path (List.mem_of_mem_take hpath))
  · have hnaming : (config.cutAfter n).naming = config.naming := rfl
    have hlog := log_loadConfig (ofFiles config source files)
    rwa [log_loadSources _ hear s, hreached, config_ofFiles, flatMap_itemLog_items hnaming] at hlog
  · have hevents := (Prod.mk.inj (outcome_loadConfig (ofFiles config source files))).1
    have herrors := filterMap_failure?_loadSources (ofFiles config source files) hear s
    rwa [← hevents, hreached, config_ofFiles, hfailures] at herrors

/-- A directory with a file that cannot be read. -/
def unreadable : Files := RuleDirectory.rulesOnly [("a.yml", .file (.error (.notText "")))]

theorem isListing_unreadable {names : List String} (h : unreadable.names "rules" = .ok names) :
    RuleDirectory.IsListing names := by
  have hnames : names = ["a.yml"] := (Except.ok.inj h).symm
  rw [hnames]
  decide

theorem scanner_unreadable :
    RuleDirectory.scanner unreadable "rules" =
      ([RuleDirectory.failureWarning ⟨"rules/a.yml", .file "rules/a.yml" (.notText "")⟩],
        .ok { failures := [⟨"rules/a.yml", .file "rules/a.yml" (.notText "")⟩] }) := by
  have hnames : unreadable.names "rules" = .ok ["a.yml"] := rfl
  have heligible : ∀ name ∈ ["a.yml"], RuleDirectory.Eligible unreadable "rules" name := by decide
  have hsorted := RuleDirectory.eq_ruleFileNames (by decide) (by decide)
    fun name => ⟨fun hname => ⟨hname, heligible name hname⟩, And.left⟩
  rw [RuleDirectory.scanner, RuleDirectory.scan_eq_ok hnames, ← hsorted]
  decide +kernel

/-- What is logged of the file. -/
def unreadableWarning : LogEntry :=
  ⟨.warn, "failed to load rule file", [("path", .text "rules/a.yml"),
    ("error", .text "IO error at rules/a.yml: stream did not contain valid UTF-8")]⟩

/-- A config with a rule that there is not, and with names of plugins' rules before and after it. -/
def halted : Loader :=
  ofFiles { rulePaths := ["rules"], rules := ["md/x", "missing", "d/e"], presets := ["f/g"] }
    (Resolver.source .none (.catalog .empty)) unreadable

theorem loadConfig_halted : halted.loadConfig =
    { actions := [.scan "rules",
        .log unreadableWarning,
        .announce (.failure (.file "rules/a.yml" (.notText ""))),
        .log ⟨.warn, "md/x is Plugin's rule. This is unknown case, please report issue.",
          [("rule", .text "md/x")]⟩,
        .resolve .rule "missing"]
      result := .error (.notFound .rule "missing" ["textlint-rule-missing", "missing"]) } := by
  have hdirectory : halted.loadDirectory "rules" =
      { actions := [.scan "rules",
          .log unreadableWarning,
          .announce (.failure (.file "rules/a.yml" (.notText "")))] } := by
    rw [loadDirectory, halted, scanner_ofFiles, scanner_unreadable]
    rfl
  show ((halted.loadDirectory "rules").andThen _).andThen _ = _
  rw [hdirectory]
  rfl

/-- There is a warning of the file and of the first name.  The load ends before the other names,
which have no warning, and there is no summary. -/
theorem halted_log :
    ∃ s' done n failures,
      halted.loadConfig.perform (.accepting fun _ heard => heard + 1) 0 =
        (s', done, .error (.notFound .rule "missing" ["textlint-rule-missing", "missing"])) ∧
      halted.reached (.accepting fun _ heard => heard + 1) halted.config.items 0 =
        (halted.config.cutAfter n).items ∧
      LogAccounts halted.config (halted.config.cutAfter n) unreadable failures done
        (.error (.notFound .rule "missing" ["textlint-rule-missing", "missing"])) ∧
      done.filterMap (·.logged?) =
        [unreadableWarning,
          ⟨.warn, "md/x is Plugin's rule. This is unknown case, please report issue.",
            [("rule", .text "md/x")]⟩] := by
  have hlisting : ∀ directory ∈ halted.config.rulePaths, ∀ names,
      unreadable.names directory = .ok names → RuleDirectory.IsListing names := by
    intro directory hdirectory names hnames
    rw [List.mem_singleton.mp hdirectory] at hnames
    exact isListing_unreadable hnames
  obtain ⟨s', done, result, n, failures, hperform, hreached, haccounts⟩ :=
    loadConfig_log halted.config halted.source unreadable hlisting (fun _ heard => heard + 1) 0
  have hplayed := (Script.perform_accepting halted.loadConfig _ 0).symm.trans hperform
  rw [loadConfig_halted] at hplayed
  obtain ⟨-, hend⟩ := Prod.mk.inj hplayed
  obtain ⟨rfl, rfl⟩ := Prod.mk.inj hend
  exact ⟨s', _, n, failures, hperform, hreached, haccounts, rfl⟩

end Loader
end LintRules
