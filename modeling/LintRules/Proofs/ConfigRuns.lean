import LintRules.Proofs.RcFailure

/-!
# Configs on which rc files were applied

Rc files are applied on top of one another, and some of them are not applied to their ends.  What is
left by one that fails is a config like any other: the options of a rule are entered together with
its name, so that no prefix of an rc file leaves options which nothing refers to.

* `Config.exists_withEntries`: whether it fails or not, a text does nothing but sort entries into
  the lists, append plugins and set the base directory.  All that follows is read off this.
* `Config.IsSorted`: the invariant.  `isSorted_withEntries` is the step.
* `Config.GrowsTo`: what happens to the lists from one moment of a run to a later one.
* `Config.isSorted_and_growsTo`: both, for every run.
-/

namespace LintRules

open Yaml

theorem isPreset_of_mem_presetNames {naming : Naming} {entries : List (String × Value)}
    {name : String} (h : name ∈ presetNames naming entries) : naming.isPreset name = true := by
  obtain ⟨entry, hentry, rfl⟩ := List.mem_map.mp h
  have hkept := (List.mem_filter.mp hentry).2
  exact (Bool.and_eq_true_iff.mp hkept).2

theorem isPreset_of_mem_ruleNames {naming : Naming} {entries : List (String × Value)}
    {name : String} (h : name ∈ ruleNames naming entries) : naming.isPreset name = false := by
  obtain ⟨entry, hentry, rfl⟩ := List.mem_map.mp h
  have hkept := (List.mem_filter.mp hentry).2
  exact Bool.not_eq_true' _ ▸ (Bool.and_eq_true_iff.mp hkept).2

/-- An entry that holds options does not switch its rule off, so its name is in one of the lists. -/
theorem AreOptions.mem_names {entries : List (String × Value)} {options : List (String × Json)}
    (h : AreOptions entries options) (naming : Naming) {name : String}
    (hname : name ∈ options.map Prod.fst) :
    name ∈ ruleNames naming entries ∨ name ∈ presetNames naming entries := by
  rw [h.names_eq] at hname
  obtain ⟨entry, hentry, rfl⟩ := List.mem_map.mp hname
  obtain ⟨hmem, hholds⟩ := List.mem_filter.mp hentry
  have hon : entry.2.switchesOff = false := by
    cases hvalue : entry.2 with
    | bool b => rw [hvalue] at hholds; cases hholds
    | _ => rfl
  by_cases hpreset : naming.isPreset entry.1 = true
  · right
    exact List.mem_map_of_mem (List.mem_filter.mpr ⟨hmem, by rw [hon, hpreset]; rfl⟩)
  · left
    have hrule : naming.isPreset entry.1 = false := Bool.eq_false_iff.mpr hpreset
    exact List.mem_map_of_mem (List.mem_filter.mpr ⟨hmem, by rw [hon, hrule]; rfl⟩)

namespace Config

/-- The config after the texts of rc files, each with its path.  What is left by a text that is not
applied to its end is what the next one is applied on. -/
def applyTexts (config : Config) (files : List (String × Path)) : Config :=
  files.foldl (fun config file => (config.applyText file.1 file.2).1) config

theorem applyTexts_append (config : Config) (first later : List (String × Path)) :
    config.applyTexts (first ++ later) = (config.applyTexts first).applyTexts later :=
  List.foldl_append

/-! ## One text -/

/-- **What a text does to a config, whether it is applied to its end or not.** -/
theorem exists_withEntries (config : Config) (text : String) (path : Path) :
    ∃ entries options plugins dir, AreOptions entries options ∧
      (config.applyText text path).1 =
        { config.withEntries entries options with
          plugins := config.plugins ++ plugins
          rulesBaseDirectory := dir } := by
  unfold applyText
  cases Rc.ofText text with
  | error why =>
    -- nothing is applied, and nothing is what no entries do
    refine ⟨[], [], [], config.rulesBaseDirectory, .nil, ?_⟩
    rw [withEntries_nil, List.append_nil]
  | ok rc =>
    dsimp only
    rcases areOptions_or_unusable rc.rules.entries with
      ⟨options, hare⟩ | ⟨before, stop, after, options, hsplit, hbefore, hstop⟩
    · exact ⟨_, options, _, _, hare, by rw [applyRc_eq_ok hare]⟩
    · obtain ⟨why, happly⟩ := exists_applyRules_error hbefore hstop after config
      refine ⟨before, options, [], config.rulesBaseDirectory, hbefore, ?_⟩
      rw [applyRc, hsplit, happly, List.append_nil]
      rfl

/-! ## The invariant -/

/-- The names of a config are in the lists they belong to. -/
structure IsSorted (config : Config) : Prop where
  /-- There are options of nothing but rules and presets. -/
  listed : ∀ name ∈ config.rulesConfig.keys, name ∈ config.rules ∨ name ∈ config.presets
  distinct : config.rulesConfig.keys.Nodup
  presets : ∀ name ∈ config.presets, ∃ rest, config.naming.stripRule name = "preset-" ++ rest
  rules : ∀ name ∈ config.rules, ¬ ∃ rest, config.naming.stripRule name = "preset-" ++ rest

theorem isSorted_of_naming (naming : Naming) : ({ naming } : Config).IsSorted where
  listed _ h := absurd h (List.not_mem_nil)
  distinct := List.nodup_nil
  presets _ h := absurd h (List.not_mem_nil)
  rules _ h := absurd h (List.not_mem_nil)

/-- Plugins and the base directory have no part in the invariant. -/
theorem IsSorted.congr {config config' : Config} (h : config.IsSorted)
    (hrules : config'.rules = config.rules) (hpresets : config'.presets = config.presets)
    (hoptions : config'.rulesConfig = config.rulesConfig)
    (hnaming : config'.naming = config.naming) : config'.IsSorted := by
  obtain ⟨listed, distinct, presets, rules⟩ := h
  exact ⟨by rwa [hoptions, hrules, hpresets], by rwa [hoptions], by rwa [hpresets, hnaming],
    by rwa [hrules, hnaming]⟩

/-- **Sorting entries keeps the invariant.** -/
theorem isSorted_withEntries {config : Config} {entries : List (String × Value)}
    {options : List (String × Json)} (h : config.IsSorted) (hare : AreOptions entries options) :
    (config.withEntries entries options).IsSorted where
  listed name hname := by
    rcases (Table.mem_keys_extend ..).mp hname with hold | hnew
    · exact (h.listed name hold).imp (List.mem_append_left _) (List.mem_append_left _)
    · have hsorted := hare.mem_names config.naming hnew
      exact hsorted.imp (List.mem_append_right _) (List.mem_append_right _)
  distinct := Table.nodup_keys _
  presets name hname := by
    rcases List.mem_append.mp hname with hold | hnew
    · exact h.presets name hold
    · exact Text.beginsWith_iff.mp (isPreset_of_mem_presetNames hnew)
  rules name hname := by
    rcases List.mem_append.mp hname with hold | hnew
    · exact h.rules name hold
    · rw [← Text.beginsWith_iff, Bool.not_eq_true]
      exact isPreset_of_mem_ruleNames hnew

theorem isSorted_applyText {config : Config} (h : config.IsSorted) (text : String) (path : Path) :
    (config.applyText text path).1.IsSorted := by
  obtain ⟨entries, options, plugins, dir, hare, heq⟩ := config.exists_withEntries text path
  rw [heq]
  exact (isSorted_withEntries h hare).congr rfl rfl rfl rfl

/-- The invariant is kept by a run. -/
theorem isSorted_applyTexts {config : Config} (h : config.IsSorted)
    (files : List (String × Path)) : (config.applyTexts files).IsSorted := by
  induction files generalizing config with
  | nil => exact h
  | cons file rest ih => exact ih (isSorted_applyText h file.1 file.2)

/-! ## Growing lists -/

/-- What is never taken back: a list of before begins the list of after.  The naming and the rule
directories are not touched. -/
structure GrowsTo (before after : Config) : Prop where
  rules : before.rules <+: after.rules
  presets : before.presets <+: after.presets
  plugins : before.plugins <+: after.plugins
  disabledRules : before.disabledRules <+: after.disabledRules
  naming : after.naming = before.naming
  rulePaths : after.rulePaths = before.rulePaths

theorem GrowsTo.refl (config : Config) : config.GrowsTo config :=
  ⟨List.prefix_rfl, List.prefix_rfl, List.prefix_rfl, List.prefix_rfl, rfl, rfl⟩

theorem GrowsTo.trans {config₁ config₂ config₃ : Config} (h₁ : config₁.GrowsTo config₂)
    (h₂ : config₂.GrowsTo config₃) : config₁.GrowsTo config₃ where
  rules := h₁.rules.trans h₂.rules
  presets := h₁.presets.trans h₂.presets
  plugins := h₁.plugins.trans h₂.plugins
  disabledRules := h₁.disabledRules.trans h₂.disabledRules
  naming := h₂.naming.trans h₁.naming
  rulePaths := h₂.rulePaths.trans h₁.rulePaths

theorem growsTo_applyText (config : Config) (text : String) (path : Path) :
    config.GrowsTo (config.applyText text path).1 := by
  obtain ⟨entries, options, plugins, dir, -, heq⟩ := config.exists_withEntries text path
  rw [heq]
  exact ⟨List.prefix_append .., List.prefix_append .., List.prefix_append ..,
    List.prefix_append .., rfl, rfl⟩

/-- A run only appends. -/
theorem growsTo_applyTexts (config : Config) (files : List (String × Path)) :
    config.GrowsTo (config.applyTexts files) := by
  induction files generalizing config with
  | nil => exact .refl config
  | cons file rest ih => exact (growsTo_applyText config file.1 file.2).trans (ih _)

/-! ## Runs -/

/-- **Configs on which any rc files were applied, to their ends or not.**  The names are sorted at
every moment of a run, and between two moments the lists have only grown. -/
theorem isSorted_and_growsTo (naming : Naming) (first later : List (String × Path)) :
    (({ naming } : Config).applyTexts (first ++ later)).IsSorted ∧
      (({ naming } : Config).applyTexts first).GrowsTo
        (({ naming } : Config).applyTexts (first ++ later)) := by
  constructor
  · exact isSorted_applyTexts (isSorted_of_naming naming) _
  · rw [applyTexts_append]
    exact growsTo_applyTexts _ later

end Config

end LintRules
