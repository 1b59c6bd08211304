import LintRules.Proofs.Hearing
import LintRules.Proofs.Table

/-!
# Registries that listen to a load

A registry that listens enters what it hears of, so after a load it is the registry before the load
with the entries of the script entered into its table.

* `LoadEvent.definedRule?`, `LoadEvent.definedProcessor?`: the entry that an event makes.
* `RuleRegistry.foldl_enter`, `ProcessorRegistry.foldl_enter`: the registry after a list of events.
* `Script.perform_registering_observer`: the registries after a script, and what the observer beside
  them notices.
* `Script.perform_registering`: the same with an observer that never rejects.
-/

namespace LintRules

namespace LoadEvent

/-- The entry that an event makes in a registry of rules. -/
def definedRule? : LoadEvent → Option (String × Handler)
  | .rule key handler => some (key.text, handler)
  | .processor .. | .failure _ => none

/-- The entry that an event makes in a registry of processors. -/
def definedProcessor? : LoadEvent → Option (String × Processor)
  | .processor name p => some (name, p)
  | .rule .. | .failure _ => none

end LoadEvent

theorem RuleRegistry.foldl_enter (registry : RuleRegistry) (events : List LoadEvent) :
    events.foldl (fun registry event => enter event registry) registry =
      ⟨registry.rules.extend (events.filterMap (·.definedRule?))⟩ := by
  induction events generalizing registry with
  | nil => rfl
  | cons event rest ih =>
    rw [List.foldl_cons, ih]
    cases event <;> rfl

theorem ProcessorRegistry.foldl_enter (registry : ProcessorRegistry) (events : List LoadEvent) :
    events.foldl (fun registry event => enter event registry) registry =
      ⟨registry.processors.extend (events.filterMap (·.definedProcessor?))⟩ := by
  induction events generalizing registry with
  | nil => rfl
  | cons event rest ih =>
    rw [List.foldl_cons, ih]
    cases event <;> rfl

namespace Script

variable {σ : Type}

/-- The entries that a script makes in a registry of rules. -/
def ruleEntries (script : Script) : List (String × Handler) :=
  script.events.filterMap (·.definedRule?)

/-- The entries that a script makes in a registry of processors. -/
def processorEntries (script : Script) : List (String × Processor) :=
  script.events.filterMap (·.definedProcessor?)

/-- **Registries and an observer**: the observer does not notice the registries before it, and they
hold the entries of exactly those events that it has been called on. -/
theorem perform_registering_observer (script : Script) (observer : Listener σ)
    (rules : RuleRegistry) (processors : ProcessorRegistry) (s : σ) :
    script.perform (Loader.registering observer) (rules, processors, s) =
      ((⟨rules.rules.extend (((script.perform observer s).2.1.filterMap (·.announced?)).filterMap
            (·.definedRule?))⟩,
          ⟨processors.processors.extend
            (((script.perform observer s).2.1.filterMap (·.announced?)).filterMap
              (·.definedProcessor?))⟩,
          (script.perform observer s).1),
        (script.perform observer s).2) := by
  rw [Loader.registering, RuleRegistry.listener, ProcessorRegistry.listener,
    perform_both_accepting, perform_both_accepting, RuleRegistry.foldl_enter,
    ProcessorRegistry.foldl_enter]

/-- **Registries after a script**: the entries of the script are entered one after another,
whatever the registries hold before, and also when the load fails in the end. -/
theorem perform_registering (script : Script) (hear : LoadEvent → σ → σ) (rules : RuleRegistry)
    (processors : ProcessorRegistry) (s : σ) :
    script.perform (Loader.registering (.accepting hear)) (rules, processors, s) =
      ((⟨rules.rules.extend script.ruleEntries⟩,
          ⟨processors.processors.extend script.processorEntries⟩,
          script.events.foldl (fun s event => hear event s) s),
        script.actions, script.result) := by
  rw [perform_registering_observer, perform_accepting]
  rfl

end Script

end LintRules
