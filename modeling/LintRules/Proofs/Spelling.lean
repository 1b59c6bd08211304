import LintRules.Proofs.PackageAnswers
import LintRules.Proofs.ResolverTree

/-!
# Names with and without their leads

A reference may leave out the lead of the name of its package, and nothing is registered under the
lead.  The two spellings of a reference search for different packages, though: the short one also
means a package that is published under the short name.  They come to the same if wherever there is
such a package, there is one under the full name as well, because the full name is tried first and
at every place.

* `Naming.candidates_bare`, `Naming.candidates_lead_append`: the packages that the two spellings
  mean.
* `Resolver.PrefersFull`: wherever a package has the short name, one has the full name.
* `LoadError.SameButForName`: two answers that differ in the name of a missing package at most.
* `Resolver.resolve_sameButForName`: the answers of a tree of resolvers to the two spellings.
* `Loader.load_sameButForName`: the loads of the two spellings, as a listener hears them.
-/

namespace LintRules

/-! ## The two spellings -/

namespace Naming

variable {naming : Naming} {kind : PackageKind} {name : String}

/-- The lead of the packages of a kind. -/
def lead (naming : Naming) : PackageKind → String
  | .rule | .preset => naming.rulePrefix
  | .plugin => naming.pluginPrefix

/-- The name of a package without the lead of its kind.  That of a preset still has the lead that
tells it from a rule. -/
structure IsBare (naming : Naming) (kind : PackageKind) (name : String) : Prop where
  noLead : Text.beginsWith (naming.lead kind) name = false
  preset : kind = .preset → Text.beginsWith presetLead name = true

instance (naming : Naming) (kind : PackageKind) (name : String) :
    Decidable (naming.IsBare kind name) :=
  decidable_of_iff (Text.beginsWith (naming.lead kind) name = false ∧
      (kind = .preset → Text.beginsWith presetLead name = true))
    ⟨fun ⟨hlead, hpreset⟩ => ⟨hlead, hpreset⟩, fun h => ⟨h.noLead, h.preset⟩⟩

theorem lead_append_ne (h : naming.IsBare kind name) : naming.lead kind ++ name ≠ name := by
  intro heq
  have hbegins : Text.beginsWith (naming.lead kind) name = true :=
    Text.beginsWith_iff.mpr ⟨name, heq.symm⟩
  exact absurd (hbegins.symm.trans h.noLead) (by decide)

/-- A name from which the lead is stripped to a bare name has the lead before it as its full
name. -/
theorem fullName_of_stripLead_eq (h : naming.IsBare kind name) {spelling : String}
    (hstrip : Text.stripLead (naming.lead kind) spelling = name) :
    naming.fullName kind spelling = naming.lead kind ++ name := by
  cases kind with
  | rule => exact congrArg (naming.rulePrefix ++ ·) hstrip
  | preset =>
    have hname : naming.stripRule spelling = name := hstrip
    have hpreset : naming.isPreset spelling = true := by
      rw [isPreset, hname]
      exact h.preset rfl
    rw [fullName, if_pos hpreset, hname]
    rfl
  | plugin => exact congrArg (naming.pluginPrefix ++ ·) hstrip

/-- The short spelling means the package with the full name and the one with the short name. -/
theorem candidates_bare (h : naming.IsBare kind name) :
    naming.candidates kind name = [naming.lead kind ++ name, name] := by
  rw [candidates, fullName_of_stripLead_eq h (Text.stripLead_of_not_beginsWith h.noLead)]
  exact if_neg (lead_append_ne h)

/-- The full spelling means the package with the full name only. -/
theorem candidates_lead_append (h : naming.IsBare kind name) :
    naming.candidates kind (naming.lead kind ++ name) = [naming.lead kind ++ name] := by
  rw [candidates, fullName_of_stripLead_eq h (Text.stripLead_append _ _)]
  exact if_pos rfl

end Naming

/-! ## Answers that differ in a name -/

namespace LoadError

variable {α β : Type}

/-- Two answers are the same, or both say that a package of a kind is not found; then they may name
different references, and list different packages that were searched for. -/
inductive SameButForName : Except LoadError α → Except LoadError α → Prop
  | same (answer : Except LoadError α) : SameButForName answer answer
  | notFound (kind : PackageKind) (name name' : String) (searched searched' : List String) :
      SameButForName (.error (.notFound kind name searched))
        (.error (.notFound kind name' searched'))

variable {answer answer' : Except LoadError α}

theorem SameButForName.bind (h : SameButForName answer answer')
    (next : α → Except LoadError β) : SameButForName (answer >>= next) (answer' >>= next) := by
  cases h with
  | same => exact .same _
  | notFound kind name name' searched searched' => exact .notFound kind name name' searched searched'

theorem SameButForName.elseSearch (h : SameButForName answer answer')
    {next next' : List String → Except LoadError α}
    (hnext : ∀ searched searched', SameButForName (next searched) (next' searched')) :
    SameButForName (elseSearch answer next) (elseSearch answer' next') := by
  cases h with
  | same =>
    cases answer with
    | ok a => exact .same _
    | error e =>
      cases e with
      | notFound kind name searched => exact hnext searched searched
      | _ => exact .same _
  | notFound kind name name' searched searched' => exact hnext searched searched'

end LoadError

/-! ## Resolving the two spellings -/

namespace Resolver

open LoadError

variable {files : Files} {naming : Naming} {kind : PackageKind} {name : String}

/-- Whether a leaf has a package under exactly this name. -/
def has (files : Files) (package : String) : Resolver → Bool
  | .catalog packages => packages.contains package
  | .directory base => (files.findManifest? base package).isSome
  | .chain _ => false

/-- A leaf of the tree that has a package under the short name also has one under the full name. -/
def PrefersFull (files : Files) (naming : Naming) (kind : PackageKind) (name : String)
    (resolver : Resolver) : Prop :=
  ∀ leaf ∈ resolver.leaves, leaf.has files name = true →
    leaf.has files (naming.lead kind ++ name) = true

instance (files : Files) (naming : Naming) (kind : PackageKind) (name : String)
    (resolver : Resolver) : Decidable (resolver.PrefersFull files naming kind name) :=
  inferInstanceAs (Decidable (∀ leaf ∈ resolver.leaves, leaf.has files name = true →
    leaf.has files (naming.lead kind ++ name) = true))

/-- A leaf finds for either spelling the package with the full name, or nothing. -/
theorem resolve_leaf_sameButForName (hbare : naming.IsBare kind name) {leaf : Resolver}
    (hleaf : leaf.IsLeaf) (hfull : leaf.has files name = true →
      leaf.has files (naming.lead kind ++ name) = true) :
    SameButForName (leaf.resolve files naming kind name)
      (leaf.resolve files naming kind (naming.lead kind ++ name)) := by
  cases leaf with
  | catalog packages =>
    rw [resolve, resolve, resolveInCatalog, resolveInCatalog, Naming.candidates_bare hbare,
      Naming.candidates_lead_append hbare]
    cases hhas : packages.contains (naming.lead kind ++ name) with
    | true =>
      simp only [List.find?_cons, hhas]
      exact .same _
    | false =>
      have hnot : packages.contains name = false := by
        rw [← Bool.not_eq_true]
        exact fun hname => absurd (hhas.symm.trans (hfull hname)) (by decide)
      simp only [List.find?_cons, hhas, hnot, List.find?_nil]
      exact .notFound ..
  | directory base =>
    rw [resolve, resolve, resolveInDirectory, resolveInDirectory, Naming.candidates_bare hbare,
      Naming.candidates_lead_append hbare]
    cases hfile : files.findManifest? base (naming.lead kind ++ name) with
    | some path =>
      simp only [List.findSome?_cons, hfile, Option.map_some]
      exact .same _
    | none =>
      have hnot : files.findManifest? base name = none := by
        rw [← Option.not_isSome_iff_eq_none]
        intro hname
        have hsome := hfull hname
        rw [has, hfile] at hsome
        cases hsome
      simp only [List.findSome?_cons, hfile, hnot, Option.map_none, List.findSome?_nil]
      exact .notFound ..
  | chain parts => exact hleaf.elim

theorem resolveInTurn_sameButForName (hbare : naming.IsBare kind name) {l : List Resolver}
    (hl : ∀ leaf ∈ l, leaf.IsLeaf) (hfull : ∀ leaf ∈ l, leaf.has files name = true →
      leaf.has files (naming.lead kind ++ name) = true) (searched searched' : List String) :
    SameButForName (resolveInTurn files naming kind name searched l)
      (resolveInTurn files naming kind (naming.lead kind ++ name) searched' l) := by
  induction l generalizing searched searched' with
  | nil =>
    rw [resolveInTurn, resolveInTurn]
    exact .notFound ..
  | cons leaf rest ih =>
    rw [List.forall_mem_cons] at hl hfull
    rw [resolveInTurn_cons, resolveInTurn_cons]
    exact (resolve_leaf_sameButForName hbare hl.1 hfull.1).elseSearch fun _ _ =>
      ih hl.2 hfull.2 _ _

/-- **The two spellings are found at the same place**, or neither is found. -/
theorem resolve_sameButForName (hbare : naming.IsBare kind name) {resolver : Resolver}
    (hfull : resolver.PrefersFull files naming kind name) :
    SameButForName (resolver.resolve files naming kind name)
      (resolver.resolve files naming kind (naming.lead kind ++ name)) := by
  rw [resolve_eq_resolveInTurn_leaves, resolve_eq_resolveInTurn_leaves]
  exact resolveInTurn_sameButForName hbare (fun _ hleaf => isLeaf_of_mem_leaves resolver hleaf)
    hfull [] []

end Resolver

/-! ## Loading the two spellings -/

/-- Two loads between which a listener in a state sees no difference.  They do the same besides
asking for what they load, and fail in the same way, except for the name of a reference that is not
found. -/
structure Script.SameButForName {σ : Type} (listener : Listener σ) (s : σ)
    (script script' : Script) : Prop where
  state : (script.perform listener s).1 = (script'.perform listener s).1
  done : (script.perform listener s).2.1.filter (!·.isQuestion) =
    (script'.perform listener s).2.1.filter (!·.isQuestion)
  result : LoadError.SameButForName (script.perform listener s).2.2
    (script'.perform listener s).2.2

namespace Script

variable {σ : Type} {listener : Listener σ} {s : σ}

theorem SameButForName.refl (script : Script) : SameButForName listener s script script :=
  ⟨rfl, rfl, .same _⟩

/-- Two questions with answers that differ in a name at most. -/
theorem sameButForName_asking {α : Type} {kind : PackageKind} {name name' : String}
    {answer answer' : Except LoadError α} (h : LoadError.SameButForName answer answer')
    (next : α → List LoadAction) :
    SameButForName listener s (asking [.resolve kind name] answer next)
      (asking [.resolve kind name'] answer' next) := by
  cases h with
  | same =>
    cases answer with
    | error e => exact ⟨rfl, rfl, .same _⟩
    | ok a =>
      have hperform : ∀ name : String, (asking [.resolve kind name] (.ok a) next).perform listener s =
          ((play listener s (next a)).1, .resolve kind name :: (play listener s (next a)).2.1,
            (play listener s (next a)).2.2) := by
        intro name
        rw [asking, perform, List.singleton_append, play_cons_of_silent rfl]
        rcases play listener s (next a) with ⟨s', done, e | ⟨⟩⟩ <;> rfl
      constructor
      · rw [hperform, hperform]
      · rw [hperform, hperform]
        rfl
      · rw [hperform, hperform]
        exact .same _
  | notFound kind' name₁ name₂ searched searched' =>
    exact ⟨rfl, rfl, .notFound kind' name₁ name₂ searched searched'⟩

end Script

namespace Loader

variable {σ : Type} {config : Config} {resolver : Resolver} {files : Files} {kind : PackageKind}
  {name : String}

/-- The load of a reference depends on its spelling only through the name that is left without the
lead and through the answer. -/
theorem loadItem_sameButForName (loader : Loader) {spelling spelling' : String}
    (hname : Text.stripLead (loader.config.naming.lead kind) spelling = name)
    (hname' : Text.stripLead (loader.config.naming.lead kind) spelling' = name)
    (hexported : LoadError.SameButForName (loader.exported kind spelling)
      (loader.exported kind spelling')) (listener : Listener σ) (s : σ) :
    Script.SameButForName listener s (loader.loadItem (.reference kind spelling))
      (loader.loadItem (.reference kind spelling')) := by
  cases kind with
  | rule =>
    have hrule : loader.config.naming.stripRule spelling = name := hname
    have hrule' : loader.config.naming.stripRule spelling' = name := hname'
    rw [LoadItem.reference, loadItem, loadItem, loadRule, loadRule, hrule, hrule',
      module_eq_exported_bind, module_eq_exported_bind]
    split
    · exact .refl _
    · exact Script.sameButForName_asking (hexported.bind _) _
  | preset =>
    have hpreset : loader.config.naming.stripRule spelling = name := hname
    have hpreset' : loader.config.naming.stripRule spelling' = name := hname'
    rw [LoadItem.reference, loadItem, loadItem, loadPreset, loadPreset, hpreset, hpreset',
      module_eq_exported_bind, module_eq_exported_bind]
    split
    · exact .refl _
    · exact Script.sameButForName_asking (hexported.bind _) _
  | plugin =>
    have hplugin : loader.config.naming.stripPlugin spelling = name := hname
    have hplugin' : loader.config.naming.stripPlugin spelling' = name := hname'
    rw [LoadItem.reference, loadItem, loadItem, loadPlugin, loadPlugin, hplugin, hplugin',
      module_eq_exported_bind, module_eq_exported_bind]
    exact Script.sameButForName_asking (hexported.bind _) _

/-- The package of a reference does not depend on its spelling. -/
theorem exported_sameButForName (hbare : config.naming.IsBare kind name)
    (hfull : resolver.PrefersFull files config.naming kind name) (scanner : Scanner) :
    LoadError.SameButForName ((ofResolver config resolver files scanner).exported kind name)
      ((ofResolver config resolver files scanner).exported kind
        (config.naming.lead kind ++ name)) :=
  (Resolver.resolve_sameButForName hbare hfull).bind _

/-- **The spelling of a reference does not matter.**  If the packages prefer the full name, then a
rule, a preset or a plugin is loaded in the same way whether or not its name has the lead of its
package: the same events are announced and the same warnings logged, in the same order, to whatever
listener, and the load fails in the same cases with the same error, in which only the name of a
reference that is not found and the packages searched for it may differ. -/
theorem load_sameButForName (config : Config) (resolver : Resolver) (files : Files)
    (scanner : Scanner) (name : String) (listener : Listener σ) (s : σ) :
    (config.naming.IsBare .rule name → resolver.PrefersFull files config.naming .rule name →
        Script.SameButForName listener s
          ((ofResolver config resolver files scanner).loadRule name)
          ((ofResolver config resolver files scanner).loadRule
            (config.naming.rulePrefix ++ name))) ∧
      (config.naming.IsBare .preset name → resolver.PrefersFull files config.naming .preset name →
        Script.SameButForName listener s
          ((ofResolver config resolver files scanner).loadPreset name)
          ((ofResolver config resolver files scanner).loadPreset
            (config.naming.rulePrefix ++ name))) ∧
      (config.naming.IsBare .plugin name → resolver.PrefersFull files config.naming .plugin name →
        Script.SameButForName listener s
          ((ofResolver config resolver files scanner).loadPlugin name)
          ((ofResolver config resolver files scanner).loadPlugin
            (config.naming.pluginPrefix ++ name))) := by
  have hload : ∀ kind, config.naming.IsBare kind name →
      resolver.PrefersFull files config.naming kind name →
      Script.SameButForName listener s
        ((ofResolver config resolver files scanner).loadItem (.reference kind name))
        ((ofResolver config resolver files scanner).loadItem
          (.reference kind (config.naming.lead kind ++ name))) := by
    intro kind hbare hfull
    have hexported := exported_sameButForName hbare hfull scanner
    exact (ofResolver config resolver files scanner).loadItem_sameButForName
      (Text.stripLead_of_not_beginsWith hbare.noLead) (Text.stripLead_append _ _) hexported
      listener s
  exact ⟨hload .rule, hload .preset, hload .plugin⟩

/-- A directory without packages, and in a chain after it a catalog in which packages have their
full names; the rule `todo` is there under its short name too, as another rule. -/
def doublyNamed : Resolver :=
  .chain [.directory "packages", .chain [.catalog (.ofList [
    ("todo", .rule (.builtIn "short" .lint none)),
    ("textlint-rule-todo", .rule (.builtIn "full" .lint none)),
    ("textlint-rule-preset-p", .preset (.ofList [("inner", .builtIn "inner" .fix none)])),
    ("textlint-plugin-html", .bundle none (some ⟨[".html"]⟩))])]]

/-- Both spellings of the rule load the rule with the full name. -/
theorem doublyNamed_load :
    ({} : Naming).IsBare .rule "todo" ∧ doublyNamed.PrefersFull .none {} .rule "todo" ∧
      ({} : Naming).IsBare .preset "preset-p" ∧
      doublyNamed.PrefersFull .none {} .preset "preset-p" ∧
      ({} : Naming).IsBare .plugin "html" ∧ doublyNamed.PrefersFull .none {} .plugin "html" ∧
      let loader := ofResolver {} doublyNamed .none fun _ => ([], .ok {})
      let listener := Listener.accepting fun event heard => heard ++ [event]
      Script.SameButForName listener [] (loader.loadRule "todo")
          (loader.loadRule "textlint-rule-todo") ∧
        Script.SameButForName listener [] (loader.loadPreset "preset-p")
          (loader.loadPreset "textlint-rule-preset-p") ∧
        Script.SameButForName listener [] (loader.loadPlugin "html")
          (loader.loadPlugin "textlint-plugin-html") ∧
        ((loader.loadRule "todo").perform listener []).1 =
          [.rule (.flat "todo") (.builtIn "full" .lint none)] := by
  have hrule : ({} : Naming).IsBare .rule "todo" := by decide
  have hpreset : ({} : Naming).IsBare .preset "preset-p" := by decide
  have hplugin : ({} : Naming).IsBare .plugin "html" := by decide
  have hfullRule : doublyNamed.PrefersFull .none {} .rule "todo" := by decide
  have hfullPreset : doublyNamed.PrefersFull .none {} .preset "preset-p" := by decide
  have hfullPlugin : doublyNamed.PrefersFull .none {} .plugin "html" := by decide
  have hload := fun name => load_sameButForName {} doublyNamed .none (fun _ => ([], .ok {})) name
    (.accepting fun event heard => heard ++ [event]) []
  exact ⟨hrule, hfullRule, hpreset, hfullPreset, hplugin, hfullPlugin,
    (hload "todo").1 hrule hfullRule, (hload "preset-p").2.1 hpreset hfullPreset,
    (hload "html").2.2 hplugin hfullPlugin, rfl⟩

end Loader
end LintRules
