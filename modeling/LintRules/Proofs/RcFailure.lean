import LintRules.Proofs.ManifestGrammar
import LintRules.Proofs.RcApplication

/-!
# Rc files that are not applied to their end

A text that holds no rc file changes nothing.  An rc file is applied rule by rule, and it stops at
the first rule whose options cannot be written as JSON.  They cannot if a mapping in them, at
whatever depth, has a key that is not the name of a member: there is nothing else in a value that
JSON cannot say.

What was applied before that rule stays, so the config is that of an rc file which ends before the
rule and says nothing else.

* `Value.HasUnusableKey`: a key at some depth that JSON cannot write.  By
  `Value.exists_toJson_error_iff` this is what a value needs to have no JSON.
* `areOptions_or_unusable`: entries all have options that are JSON, or there is a first that has
  not.
* `Config.StopsAt`: the config that is left, and what it is not.
* `Config.applyText_error_iff`: when a text is not applied to its end, and what it leaves.
-/

namespace LintRules

open Yaml

/-! ## Keys that JSON cannot write -/

namespace Yaml.Value

/-- The value is not the name of a member: it is null, a number that is not finite, a collection, or
a value under a tag. -/
inductive IsUnusableKey : Value → Prop
  | null : IsUnusableKey .null
  | float {x : Decimal.Binary64} (h : x.isFinite = false) : IsUnusableKey (.float x)
  | seq (items : List Value) : IsUnusableKey (.seq items)
  | map (entries : List (Value × Value)) : IsUnusableKey (.map entries)
  | tagged (tag : String) (value : Value) : IsUnusableKey (.tagged tag value)

/-- A mapping in the value, at whatever depth, has an unusable key. -/
inductive HasUnusableKey : Value → Prop
  | key {entries : List (Value × Value)} {entry : Value × Value} (hentry : entry ∈ entries)
      (h : IsUnusableKey entry.1) : HasUnusableKey (.map entries)
  | under {entries : List (Value × Value)} {entry : Value × Value} (hentry : entry ∈ entries)
      (h : HasUnusableKey entry.2) : HasUnusableKey (.map entries)
  | item {items : List Value} {item : Value} (hitem : item ∈ items) (h : HasUnusableKey item) :
      HasUnusableKey (.seq items)
  | tagged {tag : String} {value : Value} (h : HasUnusableKey value) :
      HasUnusableKey (.tagged tag value)

theorem exists_keyText_error_iff {key : Value} :
    (∃ why, keyText key = .error why) ↔ key.IsUnusableKey := by
  constructor
  · rintro ⟨why, h⟩
    cases key with
    | null => exact .null
    | bool b => cases h
    | int n => cases h
    | float x =>
      rw [keyText] at h
      split at h
      · cases h
      · next hx => exact .float (Bool.eq_false_iff.mpr hx)
    | text s => cases h
    | seq items => exact .seq items
    | map entries => exact .map entries
    | tagged tag value => exact .tagged tag value
  · intro h
    cases h with
    | null | seq | map | tagged => exact ⟨_, rfl⟩
    | float hx => exact ⟨.notFinite, by rw [keyText, hx]; rfl⟩

/-- A computation fails if its first part does, or the part that goes on from there. -/
theorem exists_bind_error_iff {ε α β : Type} {x : Except ε α} {next : α → Except ε β} :
    (∃ why, x >>= next = .error why) ↔
      (∃ why, x = .error why) ∨ ∃ a, x = .ok a ∧ ∃ why, next a = .error why := by
  cases x with
  | error why => exact iff_of_true ⟨why, rfl⟩ (.inl ⟨why, rfl⟩)
  | ok a =>
    constructor
    · exact fun h => .inr ⟨a, rfl, h⟩
    · rintro (⟨why, h⟩ | ⟨a', h, hnext⟩)
      · cases h
      · cases h
        exact hnext

theorem exists_map_error_iff {ε α β : Type} {x : Except ε α} {f : α → β} :
    (∃ why, x.map f = .error why) ↔ ∃ why, x = .error why := by
  cases x with
  | error why => exact iff_of_true ⟨why, rfl⟩ ⟨why, rfl⟩
  | ok a => exact iff_of_false (fun ⟨_, h⟩ => nomatch h) (fun ⟨_, h⟩ => nomatch h)

/-- Two parts of which the second does not look at the first: one of them fails. -/
theorem exists_or_error_iff {ε α β : Type} {x : Except ε α} {next : α → Except ε β} {P : Prop}
    (hnext : ∀ a, (∃ why, next a = .error why) ↔ P) :
    (∃ why, x >>= next = .error why) ↔ (∃ why, x = .error why) ∨ P := by
  rw [exists_bind_error_iff]
  simp only [hnext]
  cases x with
  | error why => exact iff_of_true (.inl ⟨why, rfl⟩) (.inl ⟨why, rfl⟩)
  | ok a => exact or_congr_right ⟨fun ⟨_, _, h⟩ => h, fun h => ⟨a, rfl, h⟩⟩

theorem hasUnusableKey_seq_iff {items : List Value} :
    (Value.seq items).HasUnusableKey ↔ ∃ item ∈ items, item.HasUnusableKey := by
  constructor
  · rintro (_ | _ | ⟨hitem, h⟩)
    exact ⟨_, hitem, h⟩
  · rintro ⟨item, hitem, h⟩
    exact .item hitem h

theorem hasUnusableKey_map_iff {entries : List (Value × Value)} :
    (Value.map entries).HasUnusableKey ↔
      ∃ entry ∈ entries, entry.1.IsUnusableKey ∨ entry.2.HasUnusableKey := by
  constructor
  · rintro (⟨hentry, h⟩ | ⟨hentry, h⟩)
    · exact ⟨_, hentry, .inl h⟩
    · exact ⟨_, hentry, .inr h⟩
  · rintro ⟨entry, hentry, h | h⟩
    · exact .key hentry h
    · exact .under hentry h

mutual

/-- **A value has no JSON exactly if it has an unusable key.** -/
theorem exists_toJson_error_iff :
    ∀ value : Value, (∃ why, value.toJson = .error why) ↔ value.HasUnusableKey
  | .null | .bool _ | .int _ | .float _ | .text _ =>
    iff_of_false (fun ⟨_, h⟩ => nomatch h) nofun
  | .seq items => by
    rw [toJson, exists_map_error_iff, hasUnusableKey_seq_iff]
    exact exists_itemsToJson_error_iff items
  | .map entries => by
    rw [toJson, exists_map_error_iff, hasUnusableKey_map_iff]
    exact exists_entriesToJson_error_iff entries
  | .tagged tag value => by
    rw [toJson, exists_map_error_iff, exists_toJson_error_iff value]
    exact ⟨.tagged, fun (.tagged h) => h⟩

theorem exists_itemsToJson_error_iff : ∀ items : List Value,
    (∃ why, itemsToJson items = .error why) ↔ ∃ item ∈ items, item.HasUnusableKey
  | [] => iff_of_false (fun ⟨_, h⟩ => nomatch h) (fun ⟨_, h, _⟩ => nomatch h)
  | item :: rest => by
    rw [itemsToJson, List.exists_mem_cons_iff, ← exists_toJson_error_iff item,
      ← exists_itemsToJson_error_iff rest]
    exact exists_or_error_iff fun _ => exists_map_error_iff (f := fun more => _ :: more)

theorem exists_entriesToJson_error_iff : ∀ entries : List (Value × Value),
    (∃ why, entriesToJson entries = .error why) ↔
      ∃ entry ∈ entries, entry.1.IsUnusableKey ∨ entry.2.HasUnusableKey
  | [] => iff_of_false (fun ⟨_, h⟩ => nomatch h) (fun ⟨_, h, _⟩ => nomatch h)
  | (key, value) :: rest => by
    rw [entriesToJson, List.exists_mem_cons_iff, ← exists_keyText_error_iff,
      ← exists_toJson_error_iff value, ← exists_entriesToJson_error_iff rest, or_assoc]
    exact exists_or_error_iff fun _ => exists_or_error_iff fun _ =>
      exists_map_error_iff (f := fun more => _ :: more)

end

end Yaml.Value

/-! ## The first rule that cannot be applied -/

/-- An entry holds options that cannot be written as JSON. -/
def IsUnusable (entry : String × Value) : Prop :=
  entry.2.holdsOptions = true ∧ entry.2.HasUnusableKey

/-- **Entries all have options that are JSON, or there is a first one that has not.** -/
theorem areOptions_or_unusable (entries : List (String × Value)) :
    (∃ options, AreOptions entries options) ∨
      ∃ before entry after options, entries = before ++ entry :: after ∧
        AreOptions before options ∧ IsUnusable entry := by
  induction entries with
  | nil => exact .inl ⟨[], .nil⟩
  | cons entry rest ih =>
    by_cases hentry : IsUnusable entry
    · exact .inr ⟨[], entry, rest, [], rfl, .nil, hentry⟩
    · have hfirst : ∃ options, AreOptions [entry] options := by
        refine exists_areOptions fun other hother hholds => ?_
        rw [List.mem_singleton.mp hother] at hholds ⊢
        cases hjson : entry.2.toJson with
        | ok json => exact ⟨json, rfl⟩
        | error why =>
          have hkey := (Value.exists_toJson_error_iff entry.2).mp ⟨why, hjson⟩
          exact absurd ⟨hholds, hkey⟩ hentry
      obtain ⟨first, hfirst⟩ := hfirst
      rcases ih with ⟨options, hrest⟩ | ⟨before, stop, after, options, rfl, hbefore, hstop⟩
      · exact .inl ⟨first ++ options, hfirst.append hrest⟩
      · exact .inr ⟨entry :: before, stop, after, first ++ options, rfl, hfirst.append hbefore,
          hstop⟩

/-- Entries with options that are JSON can all be used. -/
theorem AreOptions.not_isUnusable {entries : List (String × Value)}
    {options : List (String × Json)} (h : AreOptions entries options) {entry : String × Value}
    (hentry : entry ∈ entries) : ¬ IsUnusable entry := by
  rintro ⟨hholds, hkey⟩
  obtain ⟨option, -, -, hjson⟩ :=
    exists_of_mem_left h (List.mem_filter.mpr ⟨hentry, hholds⟩)
  obtain ⟨why, hwhy⟩ := (Value.exists_toJson_error_iff entry.2).mpr hkey
  rw [hjson] at hwhy
  cases hwhy

/-! ## Documents of rules -/

namespace Rc

/-- Every rule of an rc file stands at a node of its document. -/
theorem exists_node {fields : List (String × Node)} {rc : Rc} (h : IsWritten fields rc)
    {entry : String × Value} (hentry : entry ∈ rc.rules.entries) :
    ∃ node, IsRuleValue node entry.2 := by
  have hrules := h.rules
  rw [FieldIs] at hrules
  split at hrules
  · obtain ⟨nodes, written, -, hwritten, -, hlast⟩ := hrules
    have hvalue : Entries.last? entry.1 written = some entry.2 := by
      rw [← hlast]
      exact Table.mem_entries_iff_get?_eq_some.mp hentry
    have hmem : (entry.1, entry.2) ∈ written.reverse := Entries.mem_of_find?_eq_some hvalue
    obtain ⟨field, -, -, hfield⟩ := exists_of_mem_right hwritten (List.mem_reverse.mp hmem)
    exact ⟨field.2, hfield⟩
  · rw [hrules] at hentry
    cases hentry

/-- There is a document of any rules that can each be written. -/
theorem exists_document (rules : Table Value)
    (h : ∀ entry ∈ rules.entries, ∃ node, IsRuleValue node entry.2) :
    ∃ document, read document = .ok { rules } := by
  have hnodes : ∀ entry ∈ rules.entries, ∃ field : String × Node,
      field.1 = entry.1 ∧ IsRuleValue field.2 entry.2 := by
    intro entry hentry
    obtain ⟨node, hnode⟩ := h entry hentry
    exact ⟨(entry.1, node), rfl, hnode⟩
  obtain ⟨fields, hfields⟩ := exists_forall₂ hnodes
  have hrules : (Manifest.record fields).IsTableOf IsRuleValue rules :=
    ⟨fields, rules.entries, Manifest.hasFields_record fields, hfields.flip,
      Table.ofList_eq_iff.mp rules.ofList_entries⟩
  refine ⟨.root (Manifest.record [("rules", Manifest.record fields)]), ?_⟩
  exact read_eq_ok_iff.mpr
    ⟨_, Manifest.hasFields_record _, (List.nodup_singleton _).sublist List.filter_sublist, hrules,
      rfl, rfl⟩

end Rc

/-! ## What is left -/

namespace Config

variable {config config' : Config}

theorem exists_applyRule_error {entry : String × Value} (h : IsUnusable entry) (config : Config) :
    ∃ why, config.applyRule entry.1 entry.2 = .error why := by
  obtain ⟨hholds, hkey⟩ := h
  obtain ⟨why, hwhy⟩ := (Value.exists_toJson_error_iff entry.2).mpr hkey
  refine ⟨why, ?_⟩
  rw [applyRule_of_holdsOptions hholds, hwhy]
  rfl

/-- Rules are applied up to the first that cannot be. -/
theorem exists_applyRules_error {before : List (String × Value)} {entry : String × Value}
    {options : List (String × Json)} (hbefore : AreOptions before options)
    (hentry : IsUnusable entry) (after : List (String × Value)) (config : Config) :
    ∃ why, config.applyRules (before ++ entry :: after) =
      (config.withEntries before options, .error (.options entry.1 why)) := by
  obtain ⟨why, hwhy⟩ := exists_applyRule_error hentry (config.withEntries before options)
  exact ⟨why, by rw [applyRules_append hbefore, applyRules, hwhy]⟩

/-- What is left of a config when the rules of an rc file cannot all be applied.  `rule` is the
first one with options that are not JSON, and `before` are the rules before it. -/
structure StopsAt (config : Config) (rc : Rc) (before : List (String × Value)) (rule : String)
    (config' : Config) : Prop where
  first : ∃ value after, rc.rules.entries = before ++ (rule, value) :: after ∧
    IsUnusable (rule, value)
  usable : ∀ entry ∈ before, ¬ IsUnusable entry
  /-- The config is that of any rc file which says nothing but the rules before. -/
  reached : ∀ rc' path, rc'.rules.entries = before → rc'.plugins = none →
    rc'.rulesBaseDirectory = none → config.applyRc rc' path = (config', .ok ())
  /-- There is a document which says nothing else. -/
  document : ∃ document rules, Rc.read document = .ok { rules } ∧ rules.entries = before
  rules : ∃ more, config'.rules = config.rules ++ more ∧ rule ∉ more
  presets : ∃ more, config'.presets = config.presets ++ more ∧ rule ∉ more
  disabledRules : ∃ more, config'.disabledRules = config.disabledRules ++ more ∧ rule ∉ more
  options : config'.rulesConfig.get? rule = config.rulesConfig.get? rule

/-- **An rc file stops at its first rule with options that are not JSON.** -/
theorem stopsAt_of_isUnusable {fields : List (String × Node)} {rc : Rc}
    {before after : List (String × Value)} {entry : String × Value}
    {options : List (String × Json)} (hwritten : Rc.IsWritten fields rc)
    (hsplit : rc.rules.entries = before ++ entry :: after) (hbefore : AreOptions before options)
    (hentry : IsUnusable entry) (config : Config) :
    config.StopsAt rc before entry.1 (config.withEntries before options) := by
  have hdistinct : (before.map Prod.fst).Nodup ∧ entry.1 ∉ before.map Prod.fst := by
    have hnodup := rc.rules.nodup
    rw [hsplit, List.map_append, List.map_cons, List.nodup_append] at hnodup
    exact ⟨hnodup.1, fun hmem => hnodup.2.2 _ hmem _ (List.mem_cons_self ..) rfl⟩
  have hnames : ∀ {l : List (String × Value)}, l ⊆ before → entry.1 ∉ l.map Prod.fst :=
    fun hsub hmem => hdistinct.2 (List.map_subset Prod.fst hsub hmem)
  refine ⟨⟨entry.2, after, hsplit, hentry⟩, fun _ hmem => hbefore.not_isUnusable hmem, ?_, ?_,
    ⟨_, rfl, hnames (List.filter_sublist.subset)⟩, ⟨_, rfl, hnames (List.filter_sublist.subset)⟩,
    ⟨_, rfl, hnames (List.filter_sublist.subset)⟩, ?_⟩
  · intro rc' path hrules hplugins hdirectory
    rw [applyRc_eq_ok (hrules ▸ hbefore) path, hrules, hplugins, hdirectory]
    simp [PluginList.names, withEntries]
  · have hnodes : ∀ other ∈ before, ∃ node, Rc.IsRuleValue node other.2 := by
      intro other hother
      refine Rc.exists_node hwritten ?_
      rw [hsplit]
      exact List.mem_append_left _ hother
    obtain ⟨document, hdocument⟩ := Rc.exists_document ⟨before, hdistinct.1⟩ hnodes
    exact ⟨document, _, hdocument, rfl⟩
  · have hnone : Entries.last? entry.1 options = none := by
      rw [← Option.not_isSome_iff_eq_none, Entries.last?_isSome_iff, hbefore.names_eq]
      exact hnames (List.filter_sublist.subset)
    rw [withEntries, Table.get?_extend, hnone, Option.none_or]

/-- **When a text is not applied to its end, and what it leaves.**  A text that holds no rc file
changes nothing.  An rc file is stopped exactly by options with a key that JSON cannot write, and
then it leaves the config of the rules before them. -/
theorem applyText_error_iff (config : Config) (text : String) (path : Path) :
    (∀ place why config', config.applyText text path = (config', .error (.unreadable place why)) ↔
      Rc.ofText text = .error why ∧ place = path ∧ config' = config) ∧
      ((∃ rule why config', config.applyText text path = (config', .error (.options rule why))) ↔
        ∃ rc name value, Rc.ofText text = .ok rc ∧ rc.rules.get? name = some value ∧
          value.holdsOptions = true ∧ value.HasUnusableKey) ∧
      ∀ rule why config', config.applyText text path = (config', .error (.options rule why)) →
        ∃ rc before, Rc.ofText text = .ok rc ∧ config.StopsAt rc before rule config' := by
  rw [applyText]
  cases hrc : Rc.ofText text with
  | error why =>
    refine ⟨fun place why' config' => ?_, iff_of_false ?_ ?_, ?_⟩
    · simp only [Prod.mk.injEq, Except.error.injEq, ConfigError.unreadable.injEq]
      tauto
    · rintro ⟨rule, why', config', h⟩
      cases h
    · rintro ⟨rc, name, value, h, -⟩
      cases h
    · rintro rule why' config' h
      cases h
  | ok rc =>
    dsimp only
    obtain ⟨document, fields, -, -, hwritten⟩ := Rc.exists_fields_of_ofText hrc
    rcases areOptions_or_unusable rc.rules.entries with
      ⟨options, hare⟩ | ⟨before, entry, after, options, hsplit, hbefore, hentry⟩
    · rw [applyRc_eq_ok hare]
      refine ⟨fun place why config' => iff_of_false ?_ ?_, iff_of_false ?_ ?_, ?_⟩
      · rintro ⟨⟩
      · rintro ⟨⟨⟩, -⟩
      · rintro ⟨rule, why, config', h⟩
        cases h
      · rintro ⟨rc', name, value, hrc', hvalue, hholds, hkey⟩
        cases hrc'
        have hmem := Table.mem_entries_iff_get?_eq_some.mpr hvalue
        exact hare.not_isUnusable hmem ⟨hholds, hkey⟩
      · rintro rule why config' h
        cases h
    · obtain ⟨why, happly⟩ := exists_applyRules_error hbefore hentry after config
      rw [applyRc, hsplit, happly]
      dsimp only
      have hstops := stopsAt_of_isUnusable hwritten hsplit hbefore hentry config
      have hvalue : rc.rules.get? entry.1 = some entry.2 := by
        rw [← Table.mem_entries_iff_get?_eq_some, hsplit]
        exact List.mem_append_right _ (List.mem_cons_self ..)
      refine ⟨fun place why' config' => iff_of_false ?_ ?_, iff_of_true ?_ ?_, ?_⟩
      · rintro ⟨⟩
      · rintro ⟨⟨⟩, -⟩
      · exact ⟨_, _, _, rfl⟩
      · exact ⟨rc, entry.1, entry.2, rfl, hvalue, hentry⟩
      · rintro rule why' config' h
        cases h
        exact ⟨rc, before, rfl, hstops⟩

/-- An rc file with a key that is null inside the options of its third rule. -/
def nullKeyRc : String :=
  "rules: {todo: false, max: {size: 3}, next: [{~: 1}], later: true}\nplugins: [html]\n"

theorem nullKeyRc_applyText_error :
    ∃ rc before config', begun.applyText nullKeyRc "work/.textlintrc" =
        (config', .error (.options "next" .notText)) ∧
      Rc.ofText nullKeyRc = .ok rc ∧ begun.StopsAt rc before "next" config' ∧
      (config'.rules, config'.disabledRules, config'.plugins, config'.rulesConfig.keys) =
        (["own", "max"], ["old", "todo"], [], ["max", "own"]) := by
  have hresult : (begun.applyText nullKeyRc "work/.textlintrc").2 =
      .error (.options "next" .notText) := by
    decide +kernel
  have hlists : (fun config : Config =>
      (config.rules, config.disabledRules, config.plugins, config.rulesConfig.keys))
        (begun.applyText nullKeyRc "work/.textlintrc").1 =
        (["own", "max"], ["old", "todo"], [], ["max", "own"]) := by
    decide +kernel
  generalize happly : begun.applyText nullKeyRc "work/.textlintrc" = answer at hresult hlists ⊢
  obtain ⟨config', result⟩ := answer
  dsimp only at hresult hlists
  subst hresult
  have hstops := (applyText_error_iff begun nullKeyRc "work/.textlintrc").2.2 _ _ _ happly
  obtain ⟨rc, before, hrc, hstopsAt⟩ := hstops
  exact ⟨rc, before, config', rfl, hrc, hstopsAt, hlists⟩

end Config

end LintRules
