import LintRules.Loader
import LintRules.Proofs.RcApplication

/-!
# Configs merged from several sources

A config is put together from rc files and from other configs, one on top of another.  Every list of
it is appended to and nothing is ever taken out, so a name is in a list exactly if one of the
sources puts it there.

A name that one source switches off stays in the list of rules if another source puts it there, in
whatever order the two come.  Within one rc file this cannot happen, since a name has one value in
it.  The load walks the lists of rules and presets and does not look at the names that are switched
off.

* `Config.merge?`, `Config.mergeAll?`: a config with one source or more on top.
* `Config.exists_hasApplied`: an rc file that is applied to its end.
* `Merge.mem_of_merge?`, `Merge.mem_of_mergeAll?`: what is in the lists after one source and after
  all of them.
* `Config.listed_and_disabled_iff`: when a name is both listed and switched off.
-/

namespace LintRules

open Yaml

/-! ## Rc files applied to their end -/

namespace Config

variable {config config' : Config}

/-- The options of an entry that is applied are JSON. -/
theorem exists_areOptions_of_applyRule {name : String} {value : Value}
    (h : config.applyRule name value = .ok config') :
    ∃ options, AreOptions [(name, value)] options := by
  refine exists_areOptions fun entry hentry hholds => ?_
  rw [List.mem_singleton.mp hentry] at hholds ⊢
  have happly : ∃ json, value.toJson = .ok json := by
    cases value with
    | null | bool b => cases hholds
    | _ =>
      obtain ⟨json, hjson, -⟩ := bind_eq_ok_iff.mp h
      exact ⟨json, hjson⟩
  exact happly

theorem exists_areOptions_of_applyRules {entries : List (String × Value)}
    (h : config.applyRules entries = (config', .ok ())) :
    ∃ options, AreOptions entries options := by
  induction entries generalizing config with
  | nil => exact ⟨[], .nil⟩
  | cons entry rest ih =>
    obtain ⟨name, value⟩ := entry
    rw [applyRules] at h
    split at h
    · next hone =>
      obtain ⟨first, hfirst⟩ := exists_areOptions_of_applyRule hone
      obtain ⟨later, hlater⟩ := ih h
      exact ⟨first ++ later, hfirst.append hlater⟩
    · cases h

/-- What is known of a text that was applied to its end. -/
theorem exists_hasApplied {text : String} {path : Path}
    (h : config.applyText text path = (config', .ok ())) :
    ∃ rc, Rc.ofText text = .ok rc ∧ config.HasApplied rc path config' := by
  rw [applyText] at h
  split at h
  · next rc hrc =>
    have hoptions : ∃ options, AreOptions rc.rules.entries options := by
      rw [applyRc] at h
      split at h
      · cases h
      · next hrules => exact exists_areOptions_of_applyRules hrules
    obtain ⟨options, hare⟩ := hoptions
    obtain ⟨applied, happly, happlied⟩ := exists_applyRc hare config path
    rw [happly] at h
    cases h
    exact ⟨rc, hrc, happlied⟩
  · cases h

end Config

/-! ## Sources -/

/-- A source of a config. -/
inductive Merge where
  | rc (text : String) (path : Path)
  | config (other : Config)

namespace Config

/-- The config with a source on top, unless the source cannot be read to its end. -/
def merge? (config : Config) : Merge → Option Config
  | .rc text path =>
    match config.applyText text path with
    | (config, .ok ()) => some config
    | (_, .error _) => none
  | .config other => some (config.extend other)

/-- The config with sources on top, one after another. -/
def mergeAll? (config : Config) : List Merge → Option Config
  | [] => some config
  | source :: rest => (config.merge? source).bind (mergeAll? · rest)

/-- The name is in one of the lists of references whose modules are looked up under it: it is the
name of a rule or of a preset. -/
def Lists (config : Config) (name : String) : Prop := name ∈ config.rules ∨ name ∈ config.presets

end Config

namespace Merge

/-- The source switches the name off. -/
def SwitchesOff : Merge → String → Prop
  | .rc text _, name => ∃ rc, Rc.ofText text = .ok rc ∧ rc.rules.get? name = some (.bool false)
  | .config other, name => name ∈ other.disabledRules

/-- The source lists the name as that of a rule or a preset. -/
def Lists : Merge → String → Prop
  | .rc text _, name =>
    ∃ rc value, Rc.ofText text = .ok rc ∧ rc.rules.get? name = some value ∧ value ≠ .bool false
  | .config other, name => other.Lists name

/-- One rc file does not do both. -/
theorem not_lists_of_switchesOff {text : String} {path : Path} {name : String}
    (h : (Merge.rc text path).SwitchesOff name) : ¬ (Merge.rc text path).Lists name := by
  rintro ⟨rc, value, hrc, hvalue, hne⟩
  obtain ⟨rc', hrc', hoff⟩ := h
  rw [Except.ok.inj (hrc'.symm.trans hrc), hvalue] at hoff
  exact hne (Option.some.inj hoff)

theorem mem_switchedOff_iff {rules : Table Value} {name : String} :
    name ∈ switchedOff rules.entries ↔ rules.get? name = some (.bool false) := by
  rw [switchedOff, List.mem_map, ← Table.mem_entries_iff_get?_eq_some]
  constructor
  · rintro ⟨⟨name', value⟩, hentry, rfl⟩
    obtain ⟨hentry, hoff⟩ := List.mem_filter.mp hentry
    rw [← Value.switchesOff_iff.mp hoff]
    exact hentry
  · intro hentry
    exact ⟨_, List.mem_filter.mpr ⟨hentry, rfl⟩, rfl⟩

theorem mem_names_iff {naming : Naming} {rules : Table Value} {name : String} :
    name ∈ ruleNames naming rules.entries ∨ name ∈ presetNames naming rules.entries ↔
      ∃ value, rules.get? name = some value ∧ value ≠ .bool false := by
  simp only [ruleNames, presetNames, List.mem_map, List.mem_filter, Bool.and_eq_true,
    Bool.not_eq_true', ← Table.mem_entries_iff_get?_eq_some]
  constructor
  · rintro (⟨⟨name', value⟩, ⟨hentry, hon, -⟩, rfl⟩ | ⟨⟨name', value⟩, ⟨hentry, hon, -⟩, rfl⟩) <;>
      exact ⟨value, hentry, fun hoff => by rw [Value.switchesOff_iff.mpr hoff] at hon; cases hon⟩
  · rintro ⟨value, hentry, hne⟩
    have hon : value.switchesOff = false := by
      rw [← Bool.not_eq_true, Value.switchesOff_iff]
      exact hne
    cases hpreset : naming.isPreset name with
    | true => exact .inr ⟨(name, value), ⟨hentry, hon, hpreset⟩, rfl⟩
    | false => exact .inl ⟨(name, value), ⟨hentry, hon, hpreset⟩, rfl⟩

variable {config config' : Config}

/-- **One source adds its names and takes none away.** -/
theorem mem_of_merge? {source : Merge} (h : config.merge? source = some config') (name : String) :
    (name ∈ config'.disabledRules ↔ name ∈ config.disabledRules ∨ source.SwitchesOff name) ∧
      (config'.Lists name ↔ config.Lists name ∨ source.Lists name) := by
  cases source with
  | rc text path =>
    rw [Config.merge?] at h
    split at h
    · next happly =>
      cases h
      obtain ⟨rc, hrc, happlied⟩ := Config.exists_hasApplied happly
      have hoff : (Merge.rc text path).SwitchesOff name ↔ name ∈ switchedOff rc.rules.entries := by
        rw [mem_switchedOff_iff]
        exact ⟨fun ⟨rc', hrc', hoff⟩ => Except.ok.inj (hrc'.symm.trans hrc) ▸ hoff,
          fun hoff => ⟨rc, hrc, hoff⟩⟩
      have hlists : (Merge.rc text path).Lists name ↔
          name ∈ ruleNames config.naming rc.rules.entries ∨
            name ∈ presetNames config.naming rc.rules.entries := by
        rw [mem_names_iff]
        exact ⟨fun ⟨rc', value, hrc', hvalue⟩ =>
          ⟨value, Except.ok.inj (hrc'.symm.trans hrc) ▸ hvalue⟩,
          fun ⟨value, hvalue⟩ => ⟨rc, value, hrc, hvalue⟩⟩
      rw [hoff, hlists, happlied.disabledRules, Config.Lists, Config.Lists, happlied.rules,
        happlied.presets, List.mem_append, List.mem_append, List.mem_append]
      exact ⟨Iff.rfl, or_or_or_comm⟩
    · cases h
  | config other =>
    cases h
    simp only [Config.extend, Config.Lists, Lists, SwitchesOff, List.mem_append]
    exact ⟨trivial, or_or_or_comm⟩

/-- **Sources add their names and take none away.** -/
theorem mem_of_mergeAll? {sources : List Merge} (h : config.mergeAll? sources = some config')
    (name : String) :
    (name ∈ config'.disabledRules ↔
        name ∈ config.disabledRules ∨ ∃ source ∈ sources, source.SwitchesOff name) ∧
      (config'.Lists name ↔ config.Lists name ∨ ∃ source ∈ sources, source.Lists name) := by
  induction sources generalizing config with
  | nil =>
    cases h
    simp
  | cons source rest ih =>
    obtain ⟨next, hnext, hrest⟩ := Option.bind_eq_some_iff.mp h
    obtain ⟨hoff, hlists⟩ := mem_of_merge? hnext name
    obtain ⟨hoff', hlists'⟩ := ih hrest
    rw [hoff', hoff, hlists', hlists, or_assoc, or_assoc]
    simp only [List.exists_mem_cons_iff, and_self]

end Merge

/-! ## Names that are switched off -/

/-- **A name is both listed and switched off exactly if one source lists it and another one, or a
config that does both, switches it off.**  An rc file does not do both.  The load is the same
whatever is switched off. -/
theorem Config.listed_and_disabled_iff {sources : List Merge} {config : Config}
    (h : ({} : Config).mergeAll? sources = some config) :
    (∀ name, config.Lists name ∧ name ∈ config.disabledRules ↔
      (∃ source ∈ sources, source.Lists name) ∧ ∃ source ∈ sources, source.SwitchesOff name) ∧
      (∀ text path name, (Merge.rc text path).SwitchesOff name →
        ¬ (Merge.rc text path).Lists name) ∧
      ∀ source scanner disabledRules,
        Loader.loadConfig ⟨{ config with disabledRules }, source, scanner⟩ =
          Loader.loadConfig ⟨config, source, scanner⟩ := by
  refine ⟨fun name => ?_, fun _ _ _ => Merge.not_lists_of_switchesOff, fun _ _ _ => rfl⟩
  obtain ⟨hoff, hlists⟩ := Merge.mem_of_mergeAll? h name
  rw [hoff, hlists]
  simp [Config.Lists]

/-- Two rc files, of which the later one switches off a rule that the earlier one switches on. -/
def onThenOff : List Merge := [.rc "rules: {a: true}\n" "first", .rc "rules: {a: false}\n" "second"]

theorem exists_mergeAll?_onThenOff :
    ∃ config, ({} : Config).mergeAll? onThenOff = some config ∧ config.rulePaths = [] ∧
      config.rules = ["a"] ∧ config.presets = [] ∧ config.plugins = [] ∧
        config.disabledRules = ["a"] ∧ config.naming = {} := by
  have h : (({} : Config).mergeAll? onThenOff).map (fun config => decide (config.rulePaths = [] ∧
      config.rules = ["a"] ∧ config.presets = [] ∧ config.plugins = [] ∧
        config.disabledRules = ["a"] ∧ config.naming = {})) = some true := by
    decide +kernel
  obtain ⟨config, hconfig, hlists⟩ := Option.map_eq_some_iff.mp h
  exact ⟨config, hconfig, of_decide_eq_true hlists⟩

theorem onThenOff_listed_and_disabled :
    ∃ config, ({} : Config).mergeAll? onThenOff = some config ∧
      config.Lists "a" ∧ "a" ∈ config.disabledRules ∧
        (∃ source ∈ onThenOff, source.Lists "a") ∧
          ∃ source ∈ onThenOff, source.SwitchesOff "a" := by
  obtain ⟨config, hconfig, -, hrules, -, -, hdisabled, -⟩ := exists_mergeAll?_onThenOff
  have hlisted : config.Lists "a" := .inl (by simp [hrules])
  have hoff : "a" ∈ config.disabledRules := by simp [hdisabled]
  exact ⟨config, hconfig, hlisted, hoff,
    ((Config.listed_and_disabled_iff hconfig).1 "a").mp ⟨hlisted, hoff⟩⟩

/-- The load of the config that both give announces the rule that the later one switches off. -/
theorem onThenOff_announced :
    ∃ config, ({} : Config).mergeAll? onThenOff = some config ∧ "a" ∈ config.disabledRules ∧
      .rule (.flat "a") (.builtIn "a" .lint none) ∈
        (Loader.loadConfig ⟨config, Resolver.source .none (.catalog (.ofList [
          ("a", .rule (.builtIn "a" .lint none))])), fun _ => ([], .ok {})⟩).events := by
  obtain ⟨config, hconfig, hpaths, hrules, hpresets, hplugins, hdisabled, hnaming⟩ :=
    exists_mergeAll?_onThenOff
  refine ⟨config, hconfig, by simp [hdisabled], ?_⟩
  have hload : Loader.loadConfig ⟨config, Resolver.source .none (.catalog (.ofList [
        ("a", .rule (.builtIn "a" .lint none))])), fun _ => ([], .ok {})⟩ =
      Loader.loadConfig ⟨{ rules := ["a"] }, Resolver.source .none (.catalog (.ofList [
        ("a", .rule (.builtIn "a" .lint none))])), fun _ => ([], .ok {})⟩ := by
    cases config
    simp only at hpaths hrules hpresets hplugins hnaming
    subst hpaths hrules hpresets hplugins hnaming
    rfl
  rw [hload]
  decide

end LintRules
