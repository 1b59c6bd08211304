import LintRules.Listener

/-!
# Registries

What a load leaves behind: the rules under the texts of their keys, and the processors under the
names of their plugins.  A later entry of a name replaces the value and keeps the place.

* `RuleRegistry.listener`, `ProcessorRegistry.listener`: registries that enter what they hear of.
* `RuleRegistry.unique`: a registry that rejects a rule which is there already.
* `ProcessorRegistry.findByExtension?`: the last processor that handles an extension.
-/

namespace LintRules

/-! ## Rules -/

/-- The rules that are defined. -/
structure RuleRegistry where
  rules : Table Handler := .empty
  deriving DecidableEq, Inhabited

namespace RuleRegistry

/-- Defines a rule. -/
def define (registry : RuleRegistry) (id : String) (handler : Handler) : RuleRegistry :=
  ⟨registry.rules.insert id handler⟩

/-- The rule with an id. -/
def get? (registry : RuleRegistry) (id : String) : Option Handler := registry.rules.get? id

/-- Whether a rule is defined. -/
def isDefined (registry : RuleRegistry) (id : String) : Bool := registry.rules.contains id

/-- The ids of all rules, in order. -/
def ids (registry : RuleRegistry) : List String := registry.rules.keys

/-- All rules with their ids, in order. -/
def entries (registry : RuleRegistry) : List (String × Handler) := registry.rules.entries

/-- The number of rules. -/
def size (registry : RuleRegistry) : Nat := registry.rules.size

/-- Whether no rule is defined. -/
def isEmpty (registry : RuleRegistry) : Bool := registry.rules.isEmpty

/-- Whether there is a rule at all. -/
def hasRules (registry : RuleRegistry) : Bool := !registry.rules.isEmpty

/-- The rules as they are now. -/
def snapshot (registry : RuleRegistry) : Table Handler := registry.rules

/-- Forgets every rule. -/
def reset (_ : RuleRegistry) : RuleRegistry := {}

/-- The registry after an event: a rule is defined under the text of its key. -/
def enter (event : LoadEvent) (registry : RuleRegistry) : RuleRegistry :=
  match event with
  | .rule key handler => registry.define key.text handler
  | .processor .. | .failure _ => registry

/-- Enters every rule that is announced. -/
def listener : Listener RuleRegistry := .accepting enter

/-- Enters every rule that is announced, and rejects one that is defined already. -/
def unique : Listener RuleRegistry where
  hear event registry :=
    match event with
    | .rule key handler =>
      if registry.isDefined key.text then
        (registry, .error (.rejected ("rule \"" ++ key.text ++ "\" is already defined")))
      else (registry.define key.text handler, .ok ())
    | .processor .. | .failure _ => (registry, .ok ())

end RuleRegistry

/-! ## Processors -/

/-- The processors of plugins. -/
structure ProcessorRegistry where
  processors : Table Processor := .empty
  deriving DecidableEq, Inhabited

namespace ProcessorRegistry

/-- Defines the processor of a plugin. -/
def define (registry : ProcessorRegistry) (name : String) (processor : Processor) :
    ProcessorRegistry :=
  ⟨registry.processors.insert name processor⟩

/-- The processor of a plugin. -/
def get? (registry : ProcessorRegistry) (name : String) : Option Processor :=
  registry.processors.get? name

/-- Whether a plugin has a processor. -/
def isDefined (registry : ProcessorRegistry) (name : String) : Bool :=
  registry.processors.contains name

/-- The names of the plugins, in order. -/
def names (registry : ProcessorRegistry) : List String := registry.processors.keys

/-- All processors with the names of their plugins, in order. -/
def entries (registry : ProcessorRegistry) : List (String × Processor) :=
  registry.processors.entries

/-- The number of processors. -/
def size (registry : ProcessorRegistry) : Nat := registry.processors.size

/-- Whether there is no processor. -/
def isEmpty (registry : ProcessorRegistry) : Bool := registry.processors.isEmpty

/-- Forgets every processor. -/
def reset (_ : ProcessorRegistry) : ProcessorRegistry := {}

/-- An extension without its leading dots. -/
def undotted (extension : String) : String := Text.dropAllOf '.' extension

/-- Whether a processor handles an extension; leading dots do not count. -/
def handles (extension : String) (processor : Processor) : Bool :=
  processor.extensions.any (undotted · == undotted extension)

/-- The last plugin whose processor handles an extension. -/
def findByExtension? (registry : ProcessorRegistry) (extension : String) :
    Option (String × Processor) :=
  registry.entries.reverse.find? fun e => handles extension e.2

/-- The registry after an event: a processor is defined under the name of its plugin. -/
def enter (event : LoadEvent) (registry : ProcessorRegistry) : ProcessorRegistry :=
  match event with
  | .processor name processor => registry.define name processor
  | .rule .. | .failure _ => registry

/-- Enters every processor that is announced. -/
def listener : Listener ProcessorRegistry := .accepting enter

end ProcessorRegistry
end LintRules
