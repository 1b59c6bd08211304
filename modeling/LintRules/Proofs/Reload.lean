import LintRules.Proofs.Registry

/-!
# Loading again

A load that is repeated, with the same packages and the same files, finds its registries as it left
them and leaves them so.  This does not need registries that were empty at first, nor a load that
succeeds: the first load has entered a list of names, and entering the list again neither moves a
name nor brings back a value that was overwritten.

* `Script.repeatable`: every script can be played twice.
* `Loader.reload_unchanged`: so can the load of a config and the load of a single reference.
-/

namespace LintRules

/-- A second play of the script, into the registries that the first play has left, ends with the
same registries, does the same actions and gives the same result.  The registries may hold anything
at first, and an observer that never rejects may listen. -/
def Script.Repeatable (script : Script) : Prop :=
  ∀ (σ : Type) (hear : LoadEvent → σ → σ) (rules rules' : RuleRegistry)
    (processors processors' : ProcessorRegistry) (s s' : σ) (done : List LoadAction)
    (result : Except LoadError Unit),
    script.perform (Loader.registering (.accepting hear)) (rules, processors, s) =
        ((rules', processors', s'), done, result) →
      ∃ s'', script.perform (Loader.registering (.accepting hear)) (rules', processors', s') =
        ((rules', processors', s''), done, result)

theorem Script.repeatable (script : Script) : script.Repeatable := by
  intro σ hear rules rules' processors processors' s s' done result hfirst
  rw [perform_registering] at hfirst
  simp only [Prod.mk.injEq] at hfirst
  obtain ⟨⟨rfl, rfl, rfl⟩, rfl, rfl⟩ := hfirst
  simp only [perform_registering, Table.extend_extend_self]
  exact ⟨_, rfl⟩

namespace Loader

/-- **Reloading changes nothing**: not a rule, not a processor, not their order, and not the result,
for the load of the config as for that of each single rule, preset and plugin. -/
theorem reload_unchanged (loader : Loader) :
    loader.loadConfig.Repeatable ∧ (∀ name, (loader.loadRule name).Repeatable) ∧
      (∀ name, (loader.loadPreset name).Repeatable) ∧
      ∀ name, (loader.loadPlugin name).Repeatable :=
  ⟨loader.loadConfig.repeatable, fun name => (loader.loadRule name).repeatable,
    fun name => (loader.loadPreset name).repeatable,
    fun name => (loader.loadPlugin name).repeatable⟩

end Loader
end LintRules
