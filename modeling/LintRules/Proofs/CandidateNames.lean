import LintRules.Proofs.ConfigRuns
import LintRules.Proofs.Delivery
import LintRules.Proofs.Spelling

/-!
# Full names of packages

The full name of a package is made by putting a lead before a name that lacks it.  A preset has two
leads, that of rules and after it the one that tells it from a rule, and each is put before what
lacks it.  So no lead is put before itself, whatever the leads are: one may be empty, begin or end
like another, or overlap with itself.  A full name is therefore its own full name, and it does not
depend on the spelling it is made from.

* `Text.withLead`: a text with a lead before it, and what it has at its beginning then.
* `Naming.fullName_fullName`, `Naming.fullName_congr`: the full name of a full name, and of two
  spellings of a name.
* `Naming.IsFirstCandidate`: the first of the packages that a name may mean.
* `Naming.exists_isFirstCandidate`: this package for every naming, kind and name, and that of a
  preset that is listed among the rules of an rc file.
-/

namespace LintRules

/-! ## A lead before a text -/

namespace Text

/-- The text with `lead` at its beginning; it is put there unless the text begins with it. -/
def withLead (lead text : String) : String := lead ++ stripLead lead text

variable {lead text : String}

theorem beginsWith_append (lead rest : String) : beginsWith lead (lead ++ rest) = true :=
  beginsWith_iff.mpr ⟨rest, rfl⟩

theorem beginsWith_append_append (lead more text : String) :
    beginsWith (lead ++ more) (lead ++ text) = beginsWith more text := by
  rw [Bool.eq_iff_iff, beginsWith_iff, beginsWith_iff]
  simp only [String.append_assoc, String.append_right_inj]

theorem beginsWith_of_append {more : String} (h : beginsWith (lead ++ more) text = true) :
    beginsWith lead text = true := by
  obtain ⟨rest, rfl⟩ := beginsWith_iff.mp h
  rw [String.append_assoc]
  exact beginsWith_append lead (more ++ rest)

theorem withLead_of_beginsWith (h : beginsWith lead text = true) : withLead lead text = text := by
  obtain ⟨rest, rfl⟩ := beginsWith_iff.mp h
  rw [withLead, stripLead_append]

theorem withLead_of_not_beginsWith (h : beginsWith lead text = false) :
    withLead lead text = lead ++ text := by
  rw [withLead, stripLead_of_not_beginsWith h]

/-- A lead that is there is not put there again. -/
theorem withLead_withLead (lead text : String) :
    withLead lead (withLead lead text) = withLead lead text :=
  withLead_of_beginsWith (beginsWith_append lead _)

/-- **A lead stands twice at the beginning only if it did before.** -/
theorem beginsWith_twice_withLead (lead text : String) :
    beginsWith (lead ++ lead) (withLead lead text) = beginsWith (lead ++ lead) text := by
  cases h : beginsWith lead text with
  | true => rw [withLead_of_beginsWith h]
  | false =>
    have hnot : beginsWith (lead ++ lead) text = false := by
      rw [← Bool.not_eq_true]
      exact fun htwice => Bool.false_ne_true (h.symm.trans (beginsWith_of_append htwice))
    rw [withLead_of_not_beginsWith h, beginsWith_append_append, h, hnot]

end Text

namespace Naming

open Text

variable {naming : Naming} {kind : PackageKind} {name : String}

/-! ## Full names -/

/-- What the full names of a kind begin with. -/
def fullLead (naming : Naming) : PackageKind → String
  | .rule => naming.rulePrefix
  | .preset => naming.rulePrefix ++ presetLead
  | .plugin => naming.pluginPrefix

theorem fullName_preset (naming : Naming) (name : String) :
    naming.fullName .preset name =
      naming.rulePrefix ++ withLead presetLead (naming.stripRule name) := by
  cases h : naming.isPreset name with
  | true => rw [fullName, if_pos h, withLead_of_beginsWith h]
  | false =>
    rw [fullName, if_neg (Bool.eq_false_iff.mp h), withLead_of_not_beginsWith h,
      String.append_assoc]

theorem fullName_eq_withLead (hkind : kind ≠ .preset) :
    naming.fullName kind name = withLead (naming.lead kind) name := by
  cases kind with
  | preset => exact absurd rfl hkind
  | rule | plugin => rfl

theorem stripRule_fullName_preset (naming : Naming) (name : String) :
    naming.stripRule (naming.fullName .preset name) =
      withLead presetLead (naming.stripRule name) := by
  rw [fullName_preset, stripRule_append]

/-- The full name does not depend on the lead that a spelling has or lacks. -/
theorem fullName_congr {spelling : String}
    (h : stripLead (naming.lead kind) spelling = stripLead (naming.lead kind) name) :
    naming.fullName kind spelling = naming.fullName kind name := by
  cases kind with
  | rule => exact congrArg (naming.rulePrefix ++ ·) h
  | preset =>
    rw [fullName_preset, fullName_preset]
    exact congrArg (fun bare => naming.rulePrefix ++ withLead presetLead bare) h
  | plugin => exact congrArg (naming.pluginPrefix ++ ·) h

/-- **A full name is its own full name.** -/
theorem fullName_fullName (naming : Naming) (kind : PackageKind) (name : String) :
    naming.fullName kind (naming.fullName kind name) = naming.fullName kind name := by
  cases kind with
  | preset =>
    rw [fullName_preset, stripRule_fullName_preset, withLead_withLead, fullName_preset]
  | rule | plugin => exact withLead_withLead ..

theorem beginsWith_fullLead (naming : Naming) (kind : PackageKind) (name : String) :
    beginsWith (naming.fullLead kind) (naming.fullName kind name) = true := by
  cases kind with
  | preset =>
    rw [fullName_preset, fullLead, beginsWith_append_append]
    exact beginsWith_append ..
  | rule | plugin => exact beginsWith_append ..

/-- What is listed as a preset has the same full name as a rule. -/
theorem fullName_preset_eq_rule (h : naming.isPreset name = true) :
    naming.fullName .preset name = naming.fullName .rule name := by
  rw [fullName_preset, withLead_of_beginsWith h]
  rfl

/-! ## The first of the packages that a name may mean -/

theorem head?_candidates (naming : Naming) (kind : PackageKind) (name : String) :
    (naming.candidates kind name).head? = some (naming.fullName kind name) := by
  rw [candidates]
  split <;> rfl

/-- `full` is the first of the packages that a name may mean; each lead was put before it at most
once. -/
structure IsFirstCandidate (naming : Naming) (kind : PackageKind) (name full : String) : Prop where
  /-- The name itself is the last package, and there is no third one. -/
  candidates : naming.candidates kind name = [full] ∧ full = name ∨
    naming.candidates kind name = [full, name] ∧ full ≠ name
  lead : beginsWith (naming.fullLead kind) full = true
  /-- The first package may mean nothing but itself. -/
  fixed : naming.candidates kind full = [full]
  /-- The name may have its lead or lack it. -/
  spelled : beginsWith (naming.lead kind) name = false →
    (naming.candidates kind (naming.lead kind ++ name)).head? = some full
  /-- The lead of a rule or of a plugin stands twice only where it does in the name. -/
  once : kind ≠ .preset → beginsWith (naming.lead kind ++ naming.lead kind) full =
    beginsWith (naming.lead kind ++ naming.lead kind) name
  /-- The same of the lead that tells a preset from a rule. -/
  presetOnce : kind = .preset → beginsWith (presetLead ++ presetLead) (naming.stripRule full) =
    beginsWith (presetLead ++ presetLead) (naming.stripRule name)

theorem isFirstCandidate_fullName (naming : Naming) (kind : PackageKind) (name : String) :
    naming.IsFirstCandidate kind name (naming.fullName kind name) where
  candidates := by
    rw [Naming.candidates]
    split
    · next h => exact .inl ⟨rfl, h⟩
    · next h => exact .inr ⟨rfl, h⟩
  lead := beginsWith_fullLead naming kind name
  fixed := by
    rw [Naming.candidates, fullName_fullName]
    exact if_pos rfl
  spelled hbare := by
    rw [head?_candidates]
    have hstrip : stripLead (naming.lead kind) (naming.lead kind ++ name) =
        stripLead (naming.lead kind) name := by
      rw [stripLead_append, stripLead_of_not_beginsWith hbare]
    exact congrArg some (fullName_congr hstrip)
  once hkind := by
    rw [fullName_eq_withLead hkind]
    exact beginsWith_twice_withLead ..
  presetOnce hkind := by
    rw [hkind, stripRule_fullName_preset]
    exact beginsWith_twice_withLead ..

end Naming

/-! ## Presets that an rc file lists -/

/-- The text of an rc file, applied to the config to its end or not, adds the name to the list of
presets. -/
def Config.ListsAsPreset (config : Config) (text : String) (path : Path) (name : String) : Prop :=
  ∃ listed, (config.applyText text path).1.presets = config.presets ++ listed ∧ name ∈ listed

theorem Config.ListsAsPreset.isPreset {config : Config} {text : String} {path : Path}
    {name : String} (h : config.ListsAsPreset text path name) :
    config.naming.isPreset name = true := by
  obtain ⟨listed, hlisted, hname⟩ := h
  obtain ⟨entries, options, plugins, dir, -, happlied⟩ := config.exists_withEntries text path
  rw [happlied] at hlisted
  have hnames : presetNames config.naming entries = listed := List.append_cancel_left hlisted
  exact isPreset_of_mem_presetNames (hnames ▸ hname)

/-- Whatever a preset announces is a rule of the preset under its name without the lead of rules. -/
theorem Loader.exists_rule_of_mem_events_loadPreset {loader : Loader} {name : String}
    {event : LoadEvent} (h : event ∈ (loader.loadPreset name).events) :
    ∃ rule handler,
      event = .rule (.preset (loader.config.naming.stripRule name) rule) handler := by
  rcases loader.delivers_or_fails (.preset name) with ⟨events, hdelivers⟩ | ⟨e, hfails⟩
  · have hevents := (Script.outcome_eq_iff.mp (outcome_of_delivers hdelivers)).1
    rw [loadItem] at hevents
    rw [hevents] at h
    cases hdelivers with
    | skippedPreset => cases h
    | preset =>
      obtain ⟨entry, -, rfl⟩ := List.mem_map.mp h
      exact ⟨entry.1, entry.2, rfl⟩
  · have hevents := (Script.outcome_eq_iff.mp (outcome_of_fails hfails)).1
    rw [loadItem] at hevents
    rw [hevents] at h
    cases h

/-- **The packages that a name may mean.**  The first has the full name, which begins with the leads
of its kind, each of them put there at most once, and does not depend on whether the name is spelled
with its lead; the name as it is comes last.  What an rc file lists as a preset may mean the same
packages as a preset and as a rule.  The first of them has the lead of rules and then the name under
which the rules of the preset are announced. -/
theorem Naming.exists_isFirstCandidate (naming : Naming) (name : String) :
    (∀ kind, ∃ full, naming.IsFirstCandidate kind name full) ∧
      ∀ (config : Config) text path, config.naming = naming →
        config.ListsAsPreset text path name →
        naming.candidates .preset name = naming.candidates .rule name ∧
          ∃ bundle, (naming.candidates .preset name).head? = some (naming.rulePrefix ++ bundle) ∧
            ∀ loader : Loader, loader.config.naming = naming →
              ∀ event ∈ (loader.loadPreset name).events,
                ∃ rule handler, event = .rule (.preset bundle rule) handler := by
  refine ⟨fun kind => ⟨_, naming.isFirstCandidate_fullName kind name⟩, ?_⟩
  rintro config text path rfl hlisted
  have hfull := fullName_preset_eq_rule hlisted.isPreset
  refine ⟨?_, config.naming.stripRule name, ?_, ?_⟩
  · rw [candidates, candidates, hfull]
  · rw [head?_candidates, hfull]
    rfl
  · intro loader hnaming event hevent
    rw [← hnaming]
    exact Loader.exists_rule_of_mem_events_loadPreset hevent

/-- A naming in which rules have the lead that tells a preset from a rule. -/
def Naming.overlapping : Naming where
  rulePrefix := "preset-"
  pluginPrefix := ""

/-- A catalog with a preset under its full name. -/
def overlappingLoader : Loader where
  config := { naming := .overlapping }
  source := Resolver.source .none (.catalog (.ofList [
    ("preset-preset-a", .preset (.ofList [("todo", .builtIn "todo" .lint none)]))]))
  scanner _ := ([], .ok {})

/-- The lead is stripped once from a name that has it twice, and what is left tells a preset. -/
theorem overlapping_isFirstCandidate :
    overlappingLoader.config.ListsAsPreset "rules: {preset-preset-a: true, preset-b: true}\n"
        ".textlintrc" "preset-preset-a" ∧
      Naming.overlapping.candidates .preset "preset-preset-a" =
        Naming.overlapping.candidates .rule "preset-preset-a" ∧
      (∃ full, Naming.overlapping.IsFirstCandidate .preset "preset-preset-a" full) ∧
      ∃ bundle, (Naming.overlapping.candidates .preset "preset-preset-a").head? =
          some ("preset-" ++ bundle) ∧
        ∃ rule handler, (overlappingLoader.loadPreset "preset-preset-a").events =
          [.rule (.preset bundle rule) handler] := by
  have hlisted : overlappingLoader.config.ListsAsPreset
      "rules: {preset-preset-a: true, preset-b: true}\n" ".textlintrc" "preset-preset-a" := by
    refine ⟨["preset-preset-a"], ?_, List.mem_singleton_self _⟩
    decide +kernel
  have hevents : (overlappingLoader.loadPreset "preset-preset-a").events =
      [.rule (.preset "preset-a" "todo") (.builtIn "todo" .lint none)] := rfl
  obtain ⟨hfirst, hpreset⟩ := Naming.exists_isFirstCandidate .overlapping "preset-preset-a"
  obtain ⟨hsame, bundle, hhead, hannounced⟩ := hpreset _ _ _ rfl hlisted
  obtain ⟨rule, handler, hevent⟩ := hannounced overlappingLoader rfl _
    (hevents ▸ List.mem_singleton_self _)
  exact ⟨hlisted, hsame, hfirst .preset, bundle, hhead, rule, handler, by rw [hevents, hevent]⟩

end LintRules
