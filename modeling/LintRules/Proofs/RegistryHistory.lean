import LintRules.Proofs.Registry

/-!
# What a registry remembers of its changes

A registry is changed by definitions, by resets, and by the events that it hears.  After any run of
such changes it shows the definitions since the last reset: the names in the order in which they
were defined first, and under each name what was defined last.  It can be asked in several ways, and
the answers agree.

Registries of rules and of processors differ in what an event defines.  All else is said once, of
tables.

* `RegistryChange`, `IsSinceReset`: changes, and those of them that count.
* `RegistryViews.Reflect`: the answers of a registry, told from a list of definitions.
* `Table.foldl_applyTo_of_isSinceReset`: a run of changes enters the definitions since the last
  reset into a table.
* `Table.get?_foldl_applyTo_filter`: the value of a name comes from the changes that concern it.
* `registries_remember`: both kinds of registries after any run.
-/

namespace LintRules

/-! ## Changes -/

/-- A change of a registry with values of type `α`. -/
inductive RegistryChange (α : Type) where
  | define (name : String) (value : α)
  | reset
  | hear (event : LoadEvent)
  deriving DecidableEq

namespace RegistryChange

variable {α : Type} (ofEvent : LoadEvent → Option (String × α))

/-- The definition that a change makes, if an event makes the entry `ofEvent`. -/
def definition? : RegistryChange α → Option (String × α)
  | .define name value => some (name, value)
  | .reset => none
  | .hear event => ofEvent event

/-- Whether a change concerns a name.  A reset concerns all of them. -/
def concerns (name : String) : RegistryChange α → Bool
  | .define other _ => other == name
  | .reset => true
  | .hear event => (ofEvent event).any fun e => e.1 == name

/-- A table after a change. -/
def applyTo (t : Table α) : RegistryChange α → Table α
  | .define name value => t.insert name value
  | .reset => .empty
  | .hear event =>
    match ofEvent event with
    | some e => t.insert e.1 e.2
    | none => t

end RegistryChange

/-- `recent` are the changes since the last reset, or all changes if there was none. -/
def IsSinceReset {α : Type} (changes recent : List (RegistryChange α)) : Prop :=
  .reset ∉ recent ∧ (changes = recent ∨ ∃ before, changes = before ++ .reset :: recent)

theorem exists_isSinceReset {α : Type} (changes : List (RegistryChange α)) :
    ∃ recent, IsSinceReset changes recent := by
  induction changes with
  | nil => exact ⟨[], List.not_mem_nil, Or.inl rfl⟩
  | cons change rest ih =>
    obtain ⟨recent, hrecent, rfl | ⟨before, rfl⟩⟩ := ih
    · by_cases hchange : change = .reset
      · exact ⟨rest, hrecent, Or.inr ⟨[], by rw [hchange, List.nil_append]⟩⟩
      · have hnew : RegistryChange.reset ∉ change :: rest := by
          rw [List.mem_cons, not_or]
          exact ⟨Ne.symm hchange, hrecent⟩
        exact ⟨change :: rest, hnew, Or.inl rfl⟩
    · exact ⟨recent, hrecent, Or.inr ⟨change :: before, rfl⟩⟩

/-! ## Views -/

/-- What a registry answers. -/
structure RegistryViews (α : Type) where
  /-- All names, in order. -/
  names : List String
  /-- The value under a name. -/
  get? : String → Option α
  /-- Whether a name is defined. -/
  isDefined : String → Bool
  /-- All values with their names, in order. -/
  entries : List (String × α)
  size : Nat
  isEmpty : Bool

/-- The answers of a registry are those that belong to a list of definitions, and they agree. -/
structure RegistryViews.Reflect {α : Type} (views : RegistryViews α)
    (definitions : List (String × α)) : Prop where
  /-- The names that are defined stand in the order of their first definitions, each once. -/
  names : IsArrivalOrder (definitions.map Prod.fst) views.names
  /-- The last definition of a name counts. -/
  get? : ∀ name, views.get? name = Entries.last? name definitions
  isSome_get? : ∀ name, (views.get? name).isSome = true ↔ name ∈ views.names
  isDefined : ∀ name, views.isDefined name = true ↔ name ∈ views.names
  entries : List.Forall₂ (fun name e => e.1 = name ∧ views.get? name = some e.2)
    views.names views.entries
  size : views.size = views.names.length
  isEmpty : views.isEmpty = true ↔ views.names = []

namespace Table

variable {α : Type}

/-- The answers of a registry that holds its entries in a table. -/
def views (t : Table α) : RegistryViews α :=
  ⟨t.keys, t.get?, t.contains, t.entries, t.size, t.isEmpty⟩

theorem reflect_views_ofList (definitions : List (String × α)) :
    (ofList definitions).views.Reflect definitions := by
  have hentries : ∀ e ∈ (ofList definitions).entries,
      (ofList definitions).get? e.1 = some e.2 := fun e he =>
    mem_entries_iff_get?_eq_some.mp he
  constructor
  case names => exact isArrivalOrder_keys_ofList definitions
  case get? => exact get?_ofList definitions
  case isSome_get? => exact fun name => contains_iff
  case isDefined => exact fun name => contains_iff
  case entries =>
    show List.Forall₂ _ ((ofList definitions).entries.map Prod.fst) (ofList definitions).entries
    rw [List.forall₂_map_left_iff, List.forall₂_same]
    exact fun e he => ⟨rfl, hentries e he⟩
  case size => exact (List.length_map Prod.fst).symm
  case isEmpty =>
    show (ofList definitions).entries.isEmpty = true ↔ (ofList definitions).entries.map _ = []
    rw [List.isEmpty_iff, List.map_eq_nil_iff]

/-! ## Runs of changes -/

variable {ofEvent : LoadEvent → Option (String × α)}

/-- Without a reset, a run enters its definitions. -/
theorem foldl_applyTo_of_notMem {changes : List (RegistryChange α)} (h : .reset ∉ changes)
    (t : Table α) :
    changes.foldl (RegistryChange.applyTo ofEvent) t =
      t.extend (changes.filterMap (·.definition? ofEvent)) := by
  induction changes generalizing t with
  | nil => rfl
  | cons change rest ih =>
    rw [List.mem_cons, not_or] at h
    rw [List.foldl_cons, ih h.2]
    cases change with
    | define name value => rfl
    | reset => exact absurd rfl h.1
    | hear event =>
      have hdefinition : (RegistryChange.hear event).definition? ofEvent = ofEvent event := rfl
      rcases hevent : ofEvent event with _ | e
      · rw [List.filterMap_cons_none (hdefinition.trans hevent)]
        simp only [RegistryChange.applyTo, hevent]
      · rw [List.filterMap_cons_some (hdefinition.trans hevent)]
        simp only [RegistryChange.applyTo, hevent, extend_cons]

/-- **A run of changes** leaves the definitions since the last reset. -/
theorem foldl_applyTo_of_isSinceReset {changes recent : List (RegistryChange α)}
    (h : IsSinceReset changes recent) :
    changes.foldl (RegistryChange.applyTo ofEvent) empty =
      ofList (recent.filterMap (·.definition? ofEvent)) := by
  obtain ⟨hrecent, rfl | ⟨before, rfl⟩⟩ := h
  · exact foldl_applyTo_of_notMem hrecent empty
  · rw [List.foldl_append, List.foldl_cons]
    exact foldl_applyTo_of_notMem hrecent empty

/-- One change, in two tables that agree on a name. -/
theorem get?_applyTo_congr {s t : Table α} {name : String} (h : s.get? name = t.get? name)
    (change : RegistryChange α) :
    (change.applyTo ofEvent s).get? name = (change.applyTo ofEvent t).get? name := by
  cases change with
  | define other value => simp only [RegistryChange.applyTo, get?_insert, h]
  | reset => rfl
  | hear event =>
    simp only [RegistryChange.applyTo]
    split
    · simp only [get?_insert, h]
    · exact h

/-- A change that does not concern a name leaves its value. -/
theorem get?_applyTo_of_not_concerns {change : RegistryChange α} {name : String}
    (h : ¬ change.concerns ofEvent name = true) (t : Table α) :
    (change.applyTo ofEvent t).get? name = t.get? name := by
  cases change with
  | define other value =>
    have hne : other ≠ name := fun heq => h (beq_iff_eq.mpr heq)
    rw [RegistryChange.applyTo, get?_insert, if_neg hne]
  | reset => exact absurd rfl h
  | hear event =>
    rcases hevent : ofEvent event with _ | e
    · simp only [RegistryChange.applyTo, hevent]
    · have hne : e.1 ≠ name := by
        rintro rfl
        exact h (by simp [RegistryChange.concerns, hevent])
      simp only [RegistryChange.applyTo, hevent, get?_insert, if_neg hne]

/-- **The value of a name** comes from the changes that concern it, and other changes among these
make no difference. -/
theorem get?_foldl_applyTo_filter {s t : Table α} {name : String} (h : s.get? name = t.get? name)
    (changes : List (RegistryChange α)) :
    (changes.foldl (RegistryChange.applyTo ofEvent) s).get? name =
      ((changes.filter (·.concerns ofEvent name)).foldl (RegistryChange.applyTo ofEvent) t).get?
        name := by
  induction changes generalizing s t with
  | nil => exact h
  | cons change rest ih =>
    rw [List.foldl_cons]
    by_cases hconcerns : change.concerns ofEvent name = true
    · rw [List.filter_cons_of_pos hconcerns, List.foldl_cons]
      exact ih (get?_applyTo_congr h change)
    · rw [List.filter_cons_of_neg hconcerns]
      exact ih ((get?_applyTo_of_not_concerns hconcerns s).trans h)

end Table

/-! ## Registries -/

/-- What `after` shows after changes are the definitions since the last reset, and the value of a
name is the same after any two runs with the same changes that concern it. -/
structure Remembers {α : Type} (ofEvent : LoadEvent → Option (String × α))
    (after : List (RegistryChange α) → RegistryViews α) : Prop where
  reflect : ∀ changes, ∃ recent, IsSinceReset changes recent ∧
    (after changes).Reflect (recent.filterMap (·.definition? ofEvent))
  congr : ∀ changes changes' name,
    changes.filter (·.concerns ofEvent name) = changes'.filter (·.concerns ofEvent name) →
      (after changes).get? name = (after changes').get? name

theorem remembers_of_views {α : Type} {ofEvent : LoadEvent → Option (String × α)}
    {after : List (RegistryChange α) → RegistryViews α}
    (h : ∀ changes, after changes = (changes.foldl (RegistryChange.applyTo ofEvent) .empty).views) :
    Remembers ofEvent after := by
  constructor
  case reflect =>
    intro changes
    obtain ⟨recent, hrecent⟩ := exists_isSinceReset changes
    refine ⟨recent, hrecent, ?_⟩
    rw [h, Table.foldl_applyTo_of_isSinceReset hrecent]
    exact Table.reflect_views_ofList _
  case congr =>
    intro changes changes' name hsame
    rw [h, h]
    show Table.get? _ name = Table.get? _ name
    rw [Table.get?_foldl_applyTo_filter rfl changes, hsame,
      ← Table.get?_foldl_applyTo_filter rfl changes']

namespace RuleRegistry

/-- The registry after a change. -/
def change (registry : RuleRegistry) : RegistryChange Handler → RuleRegistry
  | .define id handler => registry.define id handler
  | .reset => registry.reset
  | .hear event => (listener.hear event registry).1

/-- The new registry after changes. -/
def afterChanges (changes : List (RegistryChange Handler)) : RuleRegistry :=
  changes.foldl change {}

/-- What the registry answers. -/
def views (registry : RuleRegistry) : RegistryViews Handler :=
  ⟨registry.ids, registry.get?, registry.isDefined, registry.entries, registry.size,
    registry.isEmpty⟩

theorem rules_change (registry : RuleRegistry) (c : RegistryChange Handler) :
    (registry.change c).rules = c.applyTo LoadEvent.definedRule? registry.rules := by
  cases c with
  | define id handler => rfl
  | reset => rfl
  | hear event => cases event <;> rfl

theorem rules_foldl_change (registry : RuleRegistry) (changes : List (RegistryChange Handler)) :
    (changes.foldl change registry).rules =
      changes.foldl (RegistryChange.applyTo LoadEvent.definedRule?) registry.rules := by
  induction changes generalizing registry with
  | nil => rfl
  | cons c rest ih => rw [List.foldl_cons, ih, rules_change, List.foldl_cons]

end RuleRegistry

namespace ProcessorRegistry

/-- The registry after a change. -/
def change (registry : ProcessorRegistry) : RegistryChange Processor → ProcessorRegistry
  | .define name processor => registry.define name processor
  | .reset => registry.reset
  | .hear event => (listener.hear event registry).1

/-- The new registry after changes. -/
def afterChanges (changes : List (RegistryChange Processor)) : ProcessorRegistry :=
  changes.foldl change {}

/-- What the registry answers. -/
def views (registry : ProcessorRegistry) : RegistryViews Processor :=
  ⟨registry.names, registry.get?, registry.isDefined, registry.entries, registry.size,
    registry.isEmpty⟩

theorem processors_change (registry : ProcessorRegistry) (c : RegistryChange Processor) :
    (registry.change c).processors = c.applyTo LoadEvent.definedProcessor? registry.processors := by
  cases c with
  | define name processor => rfl
  | reset => rfl
  | hear event => cases event <;> rfl

theorem processors_foldl_change (registry : ProcessorRegistry)
    (changes : List (RegistryChange Processor)) :
    (changes.foldl change registry).processors =
      changes.foldl (RegistryChange.applyTo LoadEvent.definedProcessor?) registry.processors := by
  induction changes generalizing registry with
  | nil => rfl
  | cons c rest ih => rw [List.foldl_cons, ih, processors_change, List.foldl_cons]

end ProcessorRegistry

/-- **Registries remember what was defined since the last reset**, whatever else they have been
through, and all their answers agree.  A registry of rules heeds no events but those of rules, a
registry of processors none but those of processors, and neither of them ever rejects an event. -/
theorem registries_remember :
    Remembers LoadEvent.definedRule? (fun changes => (RuleRegistry.afterChanges changes).views) ∧
      Remembers LoadEvent.definedProcessor?
        (fun changes => (ProcessorRegistry.afterChanges changes).views) ∧
      (∀ registry : RuleRegistry, registry.snapshot.entries = registry.entries ∧
        (registry.hasRules = true ↔ registry.ids ≠ [])) ∧
      (∀ event registry, ∃ registry', RuleRegistry.listener.hear event registry =
          (registry', .ok ()) ∧
        ((∀ key handler, event ≠ .rule key handler) → registry' = registry)) ∧
      ∀ event registry, ∃ registry', ProcessorRegistry.listener.hear event registry =
          (registry', .ok ()) ∧
        ((∀ name processor, event ≠ .processor name processor) → registry' = registry) := by
  refine ⟨remembers_of_views fun changes => ?_, remembers_of_views fun changes => ?_,
    fun registry => ⟨rfl, ?_⟩, fun event registry => ⟨_, rfl, fun h => ?_⟩,
    fun event registry => ⟨_, rfl, fun h => ?_⟩⟩
  · exact congrArg Table.views (RuleRegistry.rules_foldl_change {} changes)
  · exact congrArg Table.views (ProcessorRegistry.processors_foldl_change {} changes)
  · have hempty := (Table.ofList_entries registry.rules ▸
      Table.reflect_views_ofList registry.rules.entries).isEmpty
    rw [RuleRegistry.hasRules, Bool.not_eq_true', ← Bool.not_eq_true]
    exact not_congr hempty
  · cases event with
    | rule key handler => exact absurd rfl (h key handler)
    | processor name processor => rfl
    | failure error => rfl
  · cases event with
    | processor name processor => exact absurd rfl (h name processor)
    | rule key handler => rfl
    | failure error => rfl

/-- Rules that are forgotten and defined again, in another order, by definitions and by events. -/
def relearned : List (RegistryChange Handler) := [
  .define "a" (.builtIn "first" .lint none),
  .hear (.rule (.flat "b") (.builtIn "forgotten" .lint none)),
  .reset,
  .hear (.rule (.preset "p" "r") (.builtIn "overwritten" .lint none)),
  .hear (.processor "a" ⟨[".html"]⟩),
  .define "a" (.builtIn "second" .lint none),
  .define "p/r" (.builtIn "last" .fix none)]

/-- The rule that was overwritten keeps its place, the rule `b` is forgotten, and of all that the
registry has been through only the definitions of `a` and the reset count for `a`. -/
theorem relearned_remembered :
    (∃ recent, IsSinceReset relearned recent ∧ (RuleRegistry.afterChanges relearned).views.Reflect
      (recent.filterMap (·.definition? LoadEvent.definedRule?))) ∧
      (RuleRegistry.afterChanges relearned).ids = ["p/r", "a"] ∧
      (RuleRegistry.afterChanges relearned).get? "p/r" = some (.builtIn "last" .fix none) ∧
      (RuleRegistry.afterChanges relearned).get? "b" = none ∧
      (RuleRegistry.afterChanges relearned).get? "a" =
        (RuleRegistry.afterChanges [.define "a" (.builtIn "first" .lint none), .reset,
          .define "a" (.builtIn "second" .lint none)]).get? "a" := by
  obtain ⟨⟨hreflect, hcongr⟩, -⟩ := registries_remember
  have hvalue := hcongr relearned [.define "a" (.builtIn "first" .lint none), .reset,
    .define "a" (.builtIn "second" .lint none)] "a" (by decide)
  exact ⟨hreflect relearned, rfl, rfl, rfl, hvalue⟩

end LintRules
