import LintRules.Proofs.FanOut

/-!
# What a load learns of its packages

Of its packages a load learns the answers to the references of its items, and nothing else: from a
reference that is answered it takes the name of the package and the module.  Two loads of one config
are the same if the references that they ask for are answered in the same way.

* `Loader.exported`: the answer to a reference, of which `Loader.module` takes what is needed.
* `Loader.eq_reference_of_question?`: the references that are asked for.
* `Loader.loadItem_congr`, `Loader.loadConfig_congr_exported`: loads with the same answers.
* `Loader.ofResolver`: the loader whose references are answered by a tree of resolvers.
-/

namespace LintRules

/-- The item that refers to a package as some kind. -/
def LoadItem.reference : PackageKind → String → LoadItem
  | .rule => .rule
  | .preset => .preset
  | .plugin => .plugin

namespace Loader

/-- A load asks for a package because an item refers to it, and does not ask for a rule or a preset
with the name of a plugin's rule. -/
theorem eq_reference_of_question? {loader : Loader} {item : LoadItem} {kind : PackageKind}
    {name : String} (h : loader.question? item = some (.resolve kind name)) :
    item = .reference kind name ∧
      (kind ≠ .plugin → isPluginRuleName (loader.config.naming.stripRule name) = false) := by
  cases item with
  | directory path => cases h
  | rule other =>
    rw [question?] at h
    split at h
    · cases h
    · next hshape =>
      cases h
      exact ⟨rfl, fun _ => Bool.eq_false_iff.mpr hshape⟩
  | preset other =>
    rw [question?] at h
    split at h
    · cases h
    · next hshape =>
      cases h
      exact ⟨rfl, fun _ => Bool.eq_false_iff.mpr hshape⟩
  | plugin other =>
    cases h
    exact ⟨rfl, fun hkind => absurd rfl hkind⟩

/-- The package that a reference means, with its module. -/
def exported (loader : Loader) (kind : PackageKind) (name : String) :
    Except LoadError (String × Module) :=
  loader.source.resolve loader.config.naming kind name >>= fun locator =>
    (loader.source.require locator).map fun module => (locator.package, module)

/-- What is taken from a reference is taken from its package. -/
theorem module_eq_exported_bind {α : Type} (loader : Loader) (kind : PackageKind) (name : String)
    (take : String → Module → Except LoadError α) :
    loader.module kind name take =
      loader.exported kind name >>= fun (package, module) => take package module := by
  rw [module, exported]
  cases loader.source.resolve loader.config.naming kind name with
  | error e => rfl
  | ok locator =>
    simp only [bind, Except.bind]
    cases loader.source.require locator <;> rfl

variable {loader loader' : Loader}

/-- **Loads of an item with the same answer**, if the item asks for a package at all. -/
theorem loadItem_congr (hconfig : loader'.config = loader.config)
    (hscanner : loader'.scanner = loader.scanner) {item : LoadItem}
    (hexported : ∀ kind name, loader.question? item = some (.resolve kind name) →
      loader'.exported kind name = loader.exported kind name) :
    loader'.loadItem item = loader.loadItem item := by
  cases item with
  | directory path => rw [loadItem, loadItem, loadDirectory, loadDirectory, hscanner]
  | rule name =>
    rw [loadItem, loadItem, loadRule, loadRule, hconfig]
    split
    · rfl
    · next hshape =>
      rw [module_eq_exported_bind, module_eq_exported_bind, hexported .rule name (if_neg hshape)]
  | preset name =>
    rw [loadItem, loadItem, loadPreset, loadPreset, hconfig]
    split
    · rfl
    · next hshape =>
      rw [module_eq_exported_bind, module_eq_exported_bind, hexported .preset name (if_neg hshape)]
  | plugin name =>
    rw [loadItem, loadItem, loadPlugin, loadPlugin, hconfig, module_eq_exported_bind,
      module_eq_exported_bind, hexported .plugin name rfl]

/-- **Loads of a config with the same answers.** -/
theorem loadConfig_congr_exported (hconfig : loader'.config = loader.config)
    (hscanner : loader'.scanner = loader.scanner)
    (hexported : ∀ item ∈ loader.config.items, ∀ kind name,
      loader.question? item = some (.resolve kind name) →
        loader'.exported kind name = loader.exported kind name) :
    loader'.loadConfig = loader.loadConfig := by
  have hitems : loader.config.items.map loader'.loadItem =
      loader.config.items.map loader.loadItem :=
    List.map_congr_left fun item hitem => loadItem_congr hconfig hscanner (hexported item hitem)
  rw [loadConfig, loadConfig, loadSources_eq_sequence_items, loadSources_eq_sequence_items, hconfig,
    hitems]

/-- The loader of a config whose packages are found by a tree of resolvers. -/
def ofResolver (config : Config) (resolver : Resolver) (files : Files) (scanner : Scanner) :
    Loader where
  config
  source := resolver.source files
  scanner

end Loader
end LintRules
