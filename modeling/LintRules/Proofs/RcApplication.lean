import LintRules.Proofs.RcGrammar

/-!
# What an rc file does to a config

The rules of an rc file are applied one after another, and each is one of three kinds: it is
switched off, or it is a preset, or it is a rule.  The config of before counts in two ways only: it
says by its naming which names are those of presets, and what is there stays in front.

* `Config.withEntries`: the config with entries sorted into its lists.  One entry does this
  (`applyRule_eq_ok`), so a run of them does (`applyRules_append`, `applyRules_eq_ok`).
* `perm_keys`: sorting loses no name and doubles none.
* `Config.applyText_eq_ok`: what a text does to a config.
-/

namespace LintRules

open Yaml

/-! ## Values of rules -/

namespace Yaml.Value

/-- The value switches its rule off. -/
def switchesOff : Value → Bool
  | .bool false => true
  | _ => false

/-- The value is neither a truth value nor null, so that it holds the options of its rule. -/
def holdsOptions : Value → Bool
  | .null | .bool _ => false
  | _ => true

theorem switchesOff_iff {value : Value} : value.switchesOff = true ↔ value = .bool false := by
  cases value with
  | bool b => cases b <;> simp [switchesOff]
  | _ => simp [switchesOff]

end Yaml.Value

/-! ## Entries sorted -/

/-- The names that entries switch off. -/
def switchedOff (entries : List (String × Value)) : List String :=
  (entries.filter (·.2.switchesOff)).map Prod.fst

/-- The names of presets that entries do not switch off. -/
def presetNames (naming : Naming) (entries : List (String × Value)) : List String :=
  (entries.filter fun e => !e.2.switchesOff && naming.isPreset e.1).map Prod.fst

/-- The names of rules that entries do not switch off. -/
def ruleNames (naming : Naming) (entries : List (String × Value)) : List String :=
  (entries.filter fun e => !e.2.switchesOff && !naming.isPreset e.1).map Prod.fst

/-- The options that entries hold, as JSON. -/
def AreOptions (entries : List (String × Value)) (options : List (String × Json)) : Prop :=
  List.Forall₂ (fun entry option => entry.1 = option.1 ∧ entry.2.toJson = .ok option.2)
    (entries.filter (·.2.holdsOptions)) options

/-- **Every name is in one of the three lists, and in one place only.** -/
theorem perm_keys (naming : Naming) (entries : List (String × Value)) :
    (switchedOff entries ++ (presetNames naming entries ++ ruleNames naming entries)).Perm
      (entries.map Prod.fst) := by
  have hon : (presetNames naming entries ++ ruleNames naming entries).Perm
      ((entries.filter fun e => !e.2.switchesOff).map Prod.fst) := by
    rw [presetNames, ruleNames, ← List.map_append]
    refine List.Perm.map _ ?_
    have hsplit := List.filter_append_perm (fun e => naming.isPreset e.1)
      (entries.filter fun e => !e.2.switchesOff)
    rw [List.filter_filter, List.filter_filter] at hsplit
    simpa only [Bool.and_comm] using hsplit
  refine (List.Perm.append_left _ hon).trans ?_
  rw [switchedOff, ← List.map_append]
  exact (List.filter_append_perm (fun e => e.2.switchesOff) entries).map _

theorem exists_areOptions {entries : List (String × Value)}
    (h : ∀ entry ∈ entries, entry.2.holdsOptions = true → ∃ json, entry.2.toJson = .ok json) :
    ∃ options, AreOptions entries options := by
  refine exists_forall₂ fun entry hentry => ?_
  obtain ⟨hentry, hholds⟩ := List.mem_filter.mp hentry
  obtain ⟨json, hjson⟩ := h entry hentry hholds
  exact ⟨(entry.1, json), rfl, hjson⟩

theorem AreOptions.names_eq {entries : List (String × Value)} {options : List (String × Json)}
    (h : AreOptions entries options) :
    options.map Prod.fst = (entries.filter (·.2.holdsOptions)).map Prod.fst := by
  rw [AreOptions] at h
  generalize entries.filter (·.2.holdsOptions) = held at h
  induction h with
  | nil => rfl
  | cons hentry _ ih => rw [List.map_cons, List.map_cons, hentry.1, ih]

theorem AreOptions.append {entries₁ entries₂ : List (String × Value)}
    {options₁ options₂ : List (String × Json)} (h₁ : AreOptions entries₁ options₁)
    (h₂ : AreOptions entries₂ options₂) :
    AreOptions (entries₁ ++ entries₂) (options₁ ++ options₂) := by
  rw [AreOptions, List.filter_append]
  exact List.rel_append h₁ h₂

/-! ## Entries applied -/

namespace Config

variable {config config' : Config} {entries : List (String × Value)}
  {options : List (String × Json)}

/-- The config with entries of an rc file sorted into its lists, and with their options. -/
def withEntries (config : Config) (entries : List (String × Value))
    (options : List (String × Json)) : Config :=
  { config with
    disabledRules := config.disabledRules ++ switchedOff entries
    presets := config.presets ++ presetNames config.naming entries
    rules := config.rules ++ ruleNames config.naming entries
    rulesConfig := config.rulesConfig.extend options }

@[simp] theorem withEntries_nil (config : Config) : config.withEntries [] [] = config := by
  simp [withEntries, switchedOff, presetNames, ruleNames]

theorem withEntries_append (config : Config) (entries₁ entries₂ : List (String × Value))
    (options₁ options₂ : List (String × Json)) :
    config.withEntries (entries₁ ++ entries₂) (options₁ ++ options₂) =
      (config.withEntries entries₁ options₁).withEntries entries₂ options₂ := by
  simp [withEntries, switchedOff, presetNames, ruleNames, Table.extend_append]

/-- A reference goes where the name of a rule that is on goes. -/
theorem addReference_eq (config : Config) (name : String) {value : Value}
    (hon : value.switchesOff = false) :
    config.addReference name = config.withEntries [(name, value)] [] := by
  rw [addReference]
  split <;> simp [withEntries, switchedOff, presetNames, ruleNames, *]

/-- The options of a rule are written as JSON before anything else is done. -/
theorem applyRule_of_holdsOptions {name : String} {value : Value}
    (hholds : value.holdsOptions = true) :
    config.applyRule name value = (do
      let options ← value.toJson
      return { config with
        rulesConfig := config.rulesConfig.insert name options }.addReference name) := by
  cases value with
  | null | bool b => cases hholds
  | _ => rfl

/-- **One entry is sorted into the lists.** -/
theorem applyRule_eq_ok {name : String} {value : Value} (h : AreOptions [(name, value)] options) :
    config.applyRule name value = .ok (config.withEntries [(name, value)] options) := by
  cases hholds : value.holdsOptions with
  | false =>
    have hnone : options = [] := by
      rw [AreOptions, List.filter_cons_of_neg (by simp [hholds])] at h
      exact List.forall₂_nil_left_iff.mp h
    subst hnone
    cases value with
    | null => rw [← addReference_eq config name rfl]; rfl
    | bool b =>
      cases b with
      | true => rw [← addReference_eq config name rfl]; rfl
      | false =>
        simp [applyRule, withEntries, switchedOff, presetNames, ruleNames, Value.switchesOff]
    | _ => cases hholds
  | true =>
    rw [AreOptions, List.filter_cons_of_pos (by exact hholds)] at h
    obtain _ | @⟨_, option, _, _, hoption, hrest⟩ := h
    cases hrest
    obtain ⟨name', json⟩ := option
    obtain ⟨rfl, hjson⟩ := hoption
    have hon : value.switchesOff = false := by
      cases value with
      | bool b => cases hholds
      | _ => rfl
    rw [applyRule_of_holdsOptions hholds, hjson]
    exact congrArg Except.ok (addReference_eq _ _ hon)

/-- **A run of entries is sorted into the lists** before the entries after it are applied. -/
theorem applyRules_append (h : AreOptions entries options) (later : List (String × Value)) :
    config.applyRules (entries ++ later) =
      (config.withEntries entries options).applyRules later := by
  induction entries generalizing config options with
  | nil =>
    rw [AreOptions, List.filter_nil, List.forall₂_nil_left_iff] at h
    rw [h, withEntries_nil, List.nil_append]
  | cons entry rest ih =>
    obtain ⟨name, value⟩ := entry
    have hsplit : ∃ first more, options = first ++ more ∧ AreOptions [(name, value)] first ∧
        AreOptions rest more := by
      rw [← List.singleton_append, AreOptions, List.filter_append] at h
      exact forall₂_append_left h
    obtain ⟨first, more, rfl, hfirst, hmore⟩ := hsplit
    rw [List.cons_append, applyRules, applyRule_eq_ok hfirst]
    dsimp only
    rw [ih hmore, ← withEntries_append, List.singleton_append]

theorem applyRules_eq_ok (h : AreOptions entries options) :
    config.applyRules entries = (config.withEntries entries options, .ok ()) := by
  have happly : config.applyRules (entries ++ []) =
      (config.withEntries entries options).applyRules [] :=
    applyRules_append h []
  rwa [List.append_nil] at happly

end Config

/-! ## Whole files -/

/-- The names of the plugins that are on, in order. -/
def PluginList.names : Option PluginList → List String
  | none => []
  | some (.list names) => names
  | some (.switches table) => table.keys.filter fun name => table.get? name = some true

theorem PluginList.names_eq (plugins : Option PluginList) :
    names plugins = (plugins.map (·.enabled)).getD [] := by
  obtain _ | names | table := plugins
  · rfl
  · rfl
  · rw [names, Table.keys, List.filter_map]
    refine congrArg (List.map Prod.fst) (List.filter_congr fun entry hentry => ?_)
    rw [Function.comp_apply, Table.mem_entries_iff_get?_eq_some.mp hentry]
    cases entry.2 <;> rfl

namespace Config

/-- What an rc file at `path` does to a config. -/
structure HasApplied (config : Config) (rc : Rc) (path : Path) (config' : Config) : Prop where
  disabledRules : config'.disabledRules = config.disabledRules ++ switchedOff rc.rules.entries
  presets : config'.presets = config.presets ++ presetNames config.naming rc.rules.entries
  rules : config'.rules = config.rules ++ ruleNames config.naming rc.rules.entries
  /-- No name of the file is lost and none is doubled. -/
  once : (switchedOff rc.rules.entries ++ (presetNames config.naming rc.rules.entries ++
    ruleNames config.naming rc.rules.entries)).Perm rc.rules.keys
  /-- The names with options that are there stay in their places, and new ones follow. -/
  optionNames : config'.rulesConfig.keys = config.rulesConfig.keys ++
    ((rc.rules.entries.filter (·.2.holdsOptions)).map Prod.fst).filter
      (· ∉ config.rulesConfig.keys)
  options : ∀ name value, rc.rules.get? name = some value → value.holdsOptions = true →
    ∃ json, value.toJson = .ok json ∧ config'.rulesConfig.get? name = some json
  otherOptions : ∀ name,
    (∀ value, rc.rules.get? name = some value → value.holdsOptions = false) →
      config'.rulesConfig.get? name = config.rulesConfig.get? name
  plugins : config'.plugins = config.plugins ++ PluginList.names rc.plugins
  noDirectory : rc.rulesBaseDirectory = none →
    config'.rulesBaseDirectory = config.rulesBaseDirectory
  relativeDirectory : ∀ dir parent, rc.rulesBaseDirectory = some dir →
    Path.isAbsolute dir = false → Path.parent? path = some parent →
      config'.rulesBaseDirectory = some (Path.join parent dir)
  givenDirectory : ∀ dir, rc.rulesBaseDirectory = some dir →
    Path.isAbsolute dir = true ∨ Path.parent? path = none →
      config'.rulesBaseDirectory = some dir
  rulePaths : config'.rulePaths = config.rulePaths
  naming : config'.naming = config.naming

theorem applyRc_eq_ok {config : Config} {rc : Rc} {options : List (String × Json)}
    (h : AreOptions rc.rules.entries options) (path : Path) :
    config.applyRc rc path =
      ({ config.withEntries rc.rules.entries options with
          plugins := config.plugins ++ PluginList.names rc.plugins
          rulesBaseDirectory := (rc.rulesBaseDirectory.map (baseDirectory path)).or
            config.rulesBaseDirectory }, .ok ()) := by
  rw [applyRc, applyRules_eq_ok h, PluginList.names_eq]
  rfl

/-- **An rc file whose options are JSON is applied to its end.** -/
theorem exists_applyRc {rc : Rc} {options : List (String × Json)}
    (hare : AreOptions rc.rules.entries options) (config : Config) (path : Path) :
    ∃ config', config.applyRc rc path = (config', .ok ()) ∧ config.HasApplied rc path config' := by
  have hsub : (options.map Prod.fst).Nodup := by
    rw [hare.names_eq]
    exact rc.rules.nodup.sublist (List.filter_sublist.map Prod.fst)
  refine ⟨_, applyRc_eq_ok hare path, ?_⟩
  refine ⟨rfl, rfl, rfl, perm_keys config.naming rc.rules.entries, ?_, ?_, ?_, rfl, ?_, ?_, ?_, rfl,
    rfl⟩
  · rw [← hare.names_eq]
    exact Table.keys_extend config.rulesConfig hsub
  · intro name value hvalue hholds
    have hmem : (name, value) ∈ rc.rules.entries.filter (·.2.holdsOptions) :=
      List.mem_filter.mpr ⟨Table.mem_entries_iff_get?_eq_some.mpr hvalue, hholds⟩
    obtain ⟨⟨name', json⟩, hoption, rfl, hjson⟩ := exists_of_mem_left hare hmem
    refine ⟨json, hjson, ?_⟩
    rw [withEntries, Table.get?_extend, (Entries.last?_eq_some_iff hsub).mpr hoption,
      Option.some_or]
  · intro name hname
    have hnone : Entries.last? name options = none := by
      rw [← Option.not_isSome_iff_eq_none, Entries.last?_isSome_iff, hare.names_eq]
      intro hmem
      obtain ⟨⟨name', value⟩, hentry, rfl⟩ := List.mem_map.mp hmem
      obtain ⟨hentry, hholds⟩ := List.mem_filter.mp hentry
      have hvalue := hname value (Table.mem_entries_iff_get?_eq_some.mp hentry)
      exact Bool.false_ne_true (hvalue.symm.trans hholds)
    rw [withEntries, Table.get?_extend, hnone, Option.none_or]
  · intro hdir
    rw [hdir]
    rfl
  · intro dir parent hdir hrelative hparent
    rw [hdir, Option.map_some, Option.some_or, baseDirectory, hrelative, hparent]
    rfl
  · rintro dir hdir (habsolute | hparent)
    · rw [hdir, Option.map_some, Option.some_or, baseDirectory, if_pos habsolute]
    · rw [hdir, Option.map_some, Option.some_or, baseDirectory, hparent, ite_self]

/-- **What the text of an rc file does to a config**, when all the options in it are JSON.  The text
is a document with the fields of an rc file, so that the rules stand in the order in which the
document names them first, with what it says of them last. -/
theorem applyText_eq_ok {text : String} {rc : Rc} (hrc : Rc.ofText text = .ok rc)
    (hoptions : ∀ name value, rc.rules.get? name = some value → value.holdsOptions = true →
      ∃ json, value.toJson = .ok json) (config : Config) (path : Path) :
    (∃ document fields, Document.ofText? Rc.shape.isRead text = some document ∧
      document.HasFields fields ∧ Rc.IsWritten fields rc) ∧
      ∃ config', config.applyText text path = (config', .ok ()) ∧
        config.HasApplied rc path config' := by
  refine ⟨Rc.exists_fields_of_ofText hrc, ?_⟩
  obtain ⟨options, hare⟩ := exists_areOptions fun (entry : String × Value) hentry =>
    hoptions entry.1 entry.2 (Table.mem_entries_iff_get?_eq_some.mp hentry)
  rw [applyText, hrc]
  exact exists_applyRc hare config path

/-- A config with lists of its own. -/
def begun : Config where
  rules := ["own"]
  disabledRules := ["old"]
  rulesConfig := .ofList [("max", .null), ("own", .bool true)]

/-- An rc file with each kind of value, a rule that is given twice, and plugins on and off. -/
def mixedRc : String :=
  "rules: {todo: true, preset-a: ~, max: 3, todo: false}\nplugins: {html: true, md: false}\n" ++
    "rulesBaseDirectory: k\n"

theorem begun_applyText :
    ∃ rc config', Rc.ofText mixedRc = .ok rc ∧
      begun.applyText mixedRc "work/.textlintrc" = (config', .ok ()) ∧
      begun.HasApplied rc "work/.textlintrc" config' ∧
      (config'.rules, config'.presets, config'.disabledRules, config'.plugins,
          config'.rulesConfig.keys, config'.rulesBaseDirectory) =
        (["own", "max"], ["preset-a"], ["old", "todo"], ["html"], ["max", "own"],
          some "work/k") := by
  have hread : (Rc.ofText mixedRc).toOption.map (fun rc =>
      rc.rules.entries.all fun e => !e.2.holdsOptions || e.2.toJson.isOk) = some true := by
    decide +kernel
  have hlists : (fun config : Config => (config.rules, config.presets, config.disabledRules,
      config.plugins, config.rulesConfig.keys, config.rulesBaseDirectory))
        (begun.applyText mixedRc "work/.textlintrc").1 =
        (["own", "max"], ["preset-a"], ["old", "todo"], ["html"], ["max", "own"],
          some "work/k") := by
    decide +kernel
  cases hrc : Rc.ofText mixedRc with
  | error why =>
    rw [hrc] at hread
    cases hread
  | ok rc =>
    rw [hrc] at hread
    have hall := Option.some.inj hread
    have hoptions : ∀ name value, rc.rules.get? name = some value → value.holdsOptions = true →
        ∃ json, value.toJson = .ok json := by
      intro name value hvalue hholds
      have hvalue' := List.all_eq_true.mp hall _ (Table.mem_entries_iff_get?_eq_some.mpr hvalue)
      rw [hholds, Bool.not_true, Bool.false_or] at hvalue'
      cases hjson : value.toJson with
      | ok json => exact ⟨json, rfl⟩
      | error why =>
        rw [hjson] at hvalue'
        cases hvalue'
    obtain ⟨-, config', happly, happlied⟩ := applyText_eq_ok hrc hoptions begun "work/.textlintrc"
    rw [happly] at hlists
    exact ⟨rc, config', rfl, happly, happlied, hlists⟩

end Config

end LintRules
