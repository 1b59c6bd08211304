import LintRules.Proofs.SourcePriority

/-!
# Registries that refuse duplicates

A registry may replace a rule that is announced again, or refuse it.  Up to the first announcement
of an id that is there already the two do the same; there the one that refuses stops, with all
entries as they are.  What counts is the text of a key: a rule of its own, a rule of a preset and a
rule of a plugin are duplicates of one another if their keys have the same text.

* `RuleRegistry.AllNew`: events that announce no id twice and none that is defined.  By
  `RuleRegistry.allNew_cons` it can be told event by event.
* `RuleRegistry.hearAll_unique_of_allNew`, `RuleRegistry.hearAll_unique_of_duplicate`: what the
  registry does with such events, and with the first event that announces a duplicate.
* `Loader.nodup_ruleIds_of_delivers`: a preset or a plugin announces no id twice.
* `RuleRegistry.unique_refines`: the statements together.
-/

namespace LintRules
namespace RuleRegistry

variable {registry : RuleRegistry} {event : LoadEvent} {events heard rest : List LoadEvent}
  {key : RuleKey} {handler : Handler}

theorem enter_of_silent (h : event.ruleId? = none) (registry : RuleRegistry) :
    enter event registry = registry := by
  cases event with
  | rule key handler => cases h
  | processor name processor => rfl
  | failure error => rfl

theorem isDefined_enter (event : LoadEvent) (registry : RuleRegistry) (id : String) :
    (enter event registry).isDefined id = true ↔
      event.ruleId? = some id ∨ registry.isDefined id = true := by
  cases event with
  | rule key handler =>
    rw [isDefined, Table.contains, enter, define, Table.get?_insert, isDefined, Table.contains,
      LoadEvent.ruleId?, Option.some.injEq]
    split
    · next h => simp [h]
    · next h => simp [h]
  | processor name processor => simp [enter, LoadEvent.ruleId?]
  | failure error => simp [enter, LoadEvent.ruleId?]

/-! ## Events without duplicates -/

/-- The rules that the events announce have distinct ids, and none of these is defined. -/
structure AllNew (registry : RuleRegistry) (events : List LoadEvent) : Prop where
  distinct : (events.filterMap (·.ruleId?)).Nodup
  undefined : ∀ id ∈ events.filterMap (·.ruleId?), registry.isDefined id = false

theorem allNew_nil (registry : RuleRegistry) : registry.AllNew [] :=
  ⟨List.nodup_nil, fun _ h => absurd h List.not_mem_nil⟩

/-- The first of some events announces nothing that is defined, and the others announce nothing that
is defined after it. -/
theorem allNew_cons : registry.AllNew (event :: rest) ↔
    (∀ id, event.ruleId? = some id → registry.isDefined id = false) ∧
      (enter event registry).AllNew rest := by
  have hafter : ∀ id, (enter event registry).isDefined id = false ↔
      event.ruleId? ≠ some id ∧ registry.isDefined id = false := by
    intro id
    rw [← Bool.not_eq_true, isDefined_enter, not_or, Bool.not_eq_true]
  rcases hevent : event.ruleId? with _ | first
  · rw [enter_of_silent hevent]
    constructor
    · rintro ⟨hdistinct, hundefined⟩
      rw [List.filterMap_cons_none hevent] at hdistinct hundefined
      exact ⟨fun id h => absurd h (by simp), hdistinct, hundefined⟩
    · rintro ⟨-, hdistinct, hundefined⟩
      constructor
      · rwa [List.filterMap_cons_none hevent]
      · rwa [List.filterMap_cons_none hevent]
  · constructor
    · rintro ⟨hdistinct, hundefined⟩
      rw [List.filterMap_cons_some hevent] at hdistinct hundefined
      obtain ⟨hfirst, hlater⟩ := List.forall_mem_cons.mp hundefined
      obtain ⟨hnotMem, hnodup⟩ := List.nodup_cons.mp hdistinct
      refine ⟨fun id h => Option.some.inj h ▸ hfirst, hnodup, fun id hid => ?_⟩
      refine (hafter id).mpr ⟨fun h => hnotMem ?_, hlater id hid⟩
      rw [hevent, Option.some.injEq] at h
      rwa [h]
    · rintro ⟨hfirst, hnodup, hlater⟩
      constructor
      · rw [List.filterMap_cons_some hevent, List.nodup_cons]
        exact ⟨fun hmem => ((hafter first).mp (hlater first hmem)).1 hevent, hnodup⟩
      · rw [List.filterMap_cons_some hevent, List.forall_mem_cons]
        exact ⟨hfirst first rfl, fun id hid => ((hafter id).mp (hlater id hid)).2⟩

/-- Two announcements under one id are not both new, whatever their keys are. -/
theorem not_allNew_of_text_eq {key' : RuleKey} {handler' : Handler} (htext : key.text = key'.text)
    (h : [.rule key handler, .rule key' handler'].Sublist events) : ¬ registry.AllNew events := by
  intro hnew
  have hids := hnew.distinct.sublist (h.filterMap (·.ruleId?))
  simp [LoadEvent.ruleId?, htext] at hids

/-! ## What is heard -/

/-- An event is entered if it announces nothing that is defined. -/
theorem hear_unique_of_new
    (h : ∀ id, event.ruleId? = some id → registry.isDefined id = false) :
    unique.hear event registry = (enter event registry, .ok ()) := by
  cases event with
  | rule key handler =>
    have hkey : registry.isDefined key.text = false := h key.text rfl
    simp only [unique, hkey, Bool.false_eq_true, if_false]
    rfl
  | processor name processor => rfl
  | failure error => rfl

theorem hear_unique_of_isDefined (h : registry.isDefined key.text = true) (handler : Handler) :
    unique.hear (.rule key handler) registry =
      (registry, .error (.rejected ("rule \"" ++ key.text ++ "\" is already defined"))) := by
  simp only [unique, h, if_true]

theorem hearAll_listener_cons (event : LoadEvent) (rest : List LoadEvent)
    (registry : RuleRegistry) :
    listener.hearAll (event :: rest) registry = listener.hearAll rest (enter event registry) := rfl

/-- **Without duplicates nothing is refused**, and the registry becomes what it would become if it
replaced rules. -/
theorem hearAll_unique_of_allNew (h : registry.AllNew events) :
    unique.hearAll events registry = listener.hearAll events registry := by
  induction events generalizing registry with
  | nil => rfl
  | cons event rest ih =>
    obtain ⟨hevent, hrest⟩ := allNew_cons.mp h
    rw [Listener.hearAll, hear_unique_of_new hevent, hearAll_listener_cons]
    exact ih hrest

/-- **A duplicate is refused**, and nothing after it is heard. -/
theorem hearAll_unique_of_duplicate (hheard : registry.AllNew heard)
    (hdefined : (listener.hearAll heard registry).1.isDefined key.text = true) (handler : Handler)
    (unheard : List LoadEvent) :
    unique.hearAll (heard ++ .rule key handler :: unheard) registry =
      ((listener.hearAll heard registry).1,
        .error (.rejected ("rule \"" ++ key.text ++ "\" is already defined"))) := by
  induction heard generalizing registry with
  | nil =>
    have hkey : registry.isDefined key.text = true := hdefined
    rw [List.nil_append, Listener.hearAll_nil, Listener.hearAll, hear_unique_of_isDefined hkey]
  | cons event heard ih =>
    obtain ⟨hevent, hrest⟩ := allNew_cons.mp hheard
    rw [List.cons_append, Listener.hearAll, hear_unique_of_new hevent]
    exact ih hrest hdefined

/-- Events of which not all are new have a first one that announces a duplicate. -/
theorem exists_duplicate (h : ¬ registry.AllNew events) :
    ∃ heard key handler unheard, events = heard ++ .rule key handler :: unheard ∧
      registry.AllNew heard ∧ (listener.hearAll heard registry).1.isDefined key.text = true := by
  induction events generalizing registry with
  | nil => exact absurd registry.allNew_nil h
  | cons event rest ih =>
    by_cases hevent : ∀ id, event.ruleId? = some id → registry.isDefined id = false
    · have hrest : ¬ (enter event registry).AllNew rest := fun hrest =>
        h (allNew_cons.mpr ⟨hevent, hrest⟩)
      obtain ⟨heard, key, handler, unheard, rfl, hheard, hdefined⟩ := ih hrest
      exact ⟨event :: heard, key, handler, unheard, rfl, allNew_cons.mpr ⟨hevent, hheard⟩,
        hdefined⟩
    · cases event with
      | rule key handler =>
        refine ⟨[], key, handler, rest, rfl, registry.allNew_nil, ?_⟩
        by_contra hnot
        refine hevent fun id hid => ?_
        rw [← Option.some.inj hid]
        exact Bool.not_eq_true _ ▸ hnot
      | processor name processor => exact absurd (fun id hid => by cases hid) hevent
      | failure error => exact absurd (fun id hid => by cases hid) hevent

/-- New rules come after those that are there, in the order in which they are announced. -/
theorem entries_of_allNew (h : registry.AllNew events) :
    (listener.hearAll events registry).1.entries =
      registry.entries ++ events.filterMap (·.definedRule?) := by
  induction events generalizing registry with
  | nil => exact (List.append_nil _).symm
  | cons event rest ih =>
    obtain ⟨hevent, hrest⟩ := allNew_cons.mp h
    rw [hearAll_listener_cons, ih hrest]
    cases event with
    | rule key handler =>
      have hnew : key.text ∉ registry.rules.keys := by
        rw [← Table.contains_iff, Bool.not_eq_true]
        exact hevent key.text rfl
      have hentries : (enter (.rule key handler) registry).entries =
          registry.entries ++ [(key.text, handler)] :=
        Table.entries_insert_of_notMem hnew handler
      rw [hentries, List.append_assoc]
      rfl
    | processor name processor => rfl
    | failure error => rfl

end RuleRegistry

/-! ## Presets and plugins -/

namespace Loader

/-- The ids that a bundle announces its rules under are as distinct as their names. -/
theorem nodup_ruleIds (bundle : String) (key : String → RuleKey)
    (htext : ∀ rule, (key rule).text = bundle ++ "/" ++ rule) (rules : Table Handler) :
    ((rules.entries.map fun e => LoadEvent.rule (key e.1) e.2).filterMap (·.ruleId?)).Nodup := by
  have hids : (rules.entries.map fun e => LoadEvent.rule (key e.1) e.2).filterMap (·.ruleId?) =
      rules.keys.map fun rule => bundle ++ "/" ++ rule := by
    rw [List.filterMap_map, Table.keys, List.map_map, ← List.filterMap_eq_map]
    refine List.filterMap_congr fun e _ => ?_
    exact congrArg some (htext e.1)
  rw [hids]
  refine rules.nodup_keys.map fun a b hab => ?_
  exact (String.append_right_inj _).mp hab

theorem ruleIds_processor (name : String) (processor : Option Processor) :
    (processor.toList.map (LoadEvent.processor name)).filterMap (·.ruleId?) = [] := by
  cases processor <;> rfl

variable {loader : Loader} {name : String} {item : LoadItem} {events : List LoadEvent}

/-- **A preset or a plugin announces no id twice.** -/
theorem nodup_ruleIds_of_delivers (h : loader.Delivers item events)
    (hitem : item = .preset name ∨ item = .plugin name) :
    (events.filterMap (·.ruleId?)).Nodup := by
  cases h with
  | directory hscan => simp at hitem
  | skippedRule hshape => simp at hitem
  | rule hshape hexports => simp at hitem
  | skippedPreset hshape => exact List.nodup_nil
  | preset hshape hexports => exact nodup_ruleIds _ (.preset _) (fun _ => rfl) _
  | processorPlugin hexports =>
    rw [ruleIds_processor]
    exact List.nodup_nil
  | plugin hexports =>
    rw [List.filterMap_append, ruleIds_processor, List.append_nil]
    exact nodup_ruleIds _ (.plugin _) (fun _ => rfl) _

/-- Into a registry without rules a preset or a plugin goes as a whole. -/
theorem allNew_events (loader : Loader) (hitem : item = .preset name ∨ item = .plugin name) :
    ({} : RuleRegistry).AllNew (loader.loadItem item).events := by
  refine ⟨?_, fun _ _ => rfl⟩
  rcases loader.delivers_or_fails item with ⟨events, hdelivers⟩ | ⟨e, hfails⟩
  · rw [(Script.outcome_eq_iff.mp (outcome_of_delivers hdelivers)).1]
    exact nodup_ruleIds_of_delivers hdelivers hitem
  · rw [(Script.outcome_eq_iff.mp (outcome_of_fails hfails)).1]
    exact List.nodup_nil

end Loader

namespace RuleRegistry

/-- A script whose events are all new is performed as it is to the registry that replaces rules. -/
theorem perform_unique_of_allNew {script : Script} {registry : RuleRegistry}
    (h : registry.AllNew script.events) :
    script.perform unique registry =
      ((script.perform listener registry).1, script.actions, script.result) := by
  have hunique := hearAll_unique_of_allNew h
  have haccepts : Hearer.Accepts ⟨unique, registry⟩ script.events := by
    rw [Hearer.Accepts, hunique, listener, Listener.hearAll_accepting]
  have hstate : (script.perform listener registry).1 =
      (Hearer.after ⟨unique, registry⟩ script.events).state := by
    rw [Hearer.after, hunique, listener, Script.perform_accepting, Listener.hearAll_accepting]
  rw [hstate]
  exact Script.perform_of_accepts haccepts

/-- Events that are not all new are heard up to the first that announces a duplicate.  The registry
keeps the entries that it has in their places, and those that the events before have announced come
after them. -/
theorem exists_refused (h : ¬ registry.AllNew events) :
    ∃ heard key handler unheard, events = heard ++ .rule key handler :: unheard ∧
      registry.AllNew heard ∧ (listener.hearAll heard registry).1.isDefined key.text = true ∧
      unique.hearAll events registry = ((listener.hearAll heard registry).1,
        .error (.rejected ("rule \"" ++ key.text ++ "\" is already defined"))) ∧
      (listener.hearAll heard registry).1.entries =
        registry.entries ++ heard.filterMap (·.definedRule?) := by
  obtain ⟨heard, key, handler, unheard, rfl, hheard, hdefined⟩ := exists_duplicate h
  exact ⟨heard, key, handler, unheard, rfl, hheard, hdefined,
    hearAll_unique_of_duplicate hheard hdefined handler unheard, entries_of_allNew hheard⟩

theorem accepts_unique_iff :
    (unique.hearAll events registry).2 = .ok () ↔ registry.AllNew events := by
  constructor
  · intro haccepted
    by_contra h
    obtain ⟨heard, key, handler, unheard, -, -, -, hrefused, -⟩ := exists_refused h
    rw [hrefused] at haccepted
    cases haccepted
  · intro h
    rw [hearAll_unique_of_allNew h, listener, Listener.hearAll_accepting]

/-- **Refusing duplicates refines replacing.**  Events are all accepted exactly if they announce
rules under distinct ids that are not defined, and then the registry is the one that replaces rules.
Otherwise there is a first event that announces a duplicate: it is refused by its id, and the
registry is the one that replaces rules after the events before it, with no entry overwritten, lost
or moved.  Announcements whose keys have the same text are duplicates, whatever their keys are; and
nothing is refused when a single preset or plugin is loaded into a registry without rules. -/
theorem unique_refines (registry : RuleRegistry) (events : List LoadEvent) :
    ((unique.hearAll events registry).2 = .ok () ↔ registry.AllNew events) ∧
      (registry.AllNew events →
        unique.hearAll events registry = listener.hearAll events registry) ∧
      (¬ registry.AllNew events → ∃ heard key handler unheard,
        events = heard ++ .rule key handler :: unheard ∧ registry.AllNew heard ∧
        (listener.hearAll heard registry).1.isDefined key.text = true ∧
        unique.hearAll events registry = ((listener.hearAll heard registry).1,
          .error (.rejected ("rule \"" ++ key.text ++ "\" is already defined"))) ∧
        (listener.hearAll heard registry).1.entries =
          registry.entries ++ heard.filterMap (·.definedRule?)) ∧
      (∀ key handler key' handler', key.text = key'.text →
        [.rule key handler, .rule key' handler'].Sublist events → ¬ registry.AllNew events) ∧
      ∀ (loader : Loader) (name : String),
        ∀ script ∈ [loader.loadPreset name, loader.loadPlugin name],
          script.perform unique {} =
            ((script.perform listener {}).1, script.actions, script.result) := by
  refine ⟨accepts_unique_iff, hearAll_unique_of_allNew, exists_refused,
    fun _ _ _ _ htext hsublist => not_allNew_of_text_eq htext hsublist,
    fun loader name script hscript => ?_⟩
  rw [List.mem_cons, List.mem_singleton] at hscript
  rcases hscript with rfl | rfl
  · exact perform_unique_of_allNew (loader.allNew_events (.inl rfl))
  · exact perform_unique_of_allNew (loader.allNew_events (.inr rfl))

/-- A preset and a plugin that announce a rule under one text, after a rule of another text. -/
def sharedText : List LoadEvent := [.rule (.flat "inner") (.builtIn "flat" .lint none),
  .rule (.preset "p" "inner") (.builtIn "preset" .lint none), .processor "p" ⟨[".p"]⟩,
  .rule (.plugin "p" "inner") (.builtIn "plugin" .fix none),
  .rule (.flat "other") (.builtIn "other" .lint none)]

/-- The rule of the plugin is refused, and the rule of the preset stays. -/
theorem sharedText_unique_refines :
    (({} : RuleRegistry).AllNew (sharedText.take 3) ∧
        unique.hearAll (sharedText.take 3) {} = listener.hearAll (sharedText.take 3) {}) ∧
      ¬ ({} : RuleRegistry).AllNew sharedText ∧
      (∃ heard key handler unheard, sharedText = heard ++ .rule key handler :: unheard ∧
        unique.hearAll sharedText {} = ((listener.hearAll heard {}).1,
          .error (.rejected ("rule \"" ++ key.text ++ "\" is already defined")))) ∧
      unique.hearAll sharedText {} = (⟨.ofList [("inner", .builtIn "flat" .lint none),
        ("p/inner", .builtIn "preset" .lint none)]⟩,
          .error (.rejected "rule \"p/inner\" is already defined")) := by
  have hnew : ({} : RuleRegistry).AllNew (sharedText.take 3) := ⟨by decide, fun _ _ => rfl⟩
  obtain ⟨-, haccepted, -⟩ := unique_refines {} (sharedText.take 3)
  obtain ⟨-, -, hrefused, hduplicate, -⟩ := unique_refines {} sharedText
  have hnot : ¬ ({} : RuleRegistry).AllNew sharedText :=
    hduplicate (.preset "p" "inner") _ (.plugin "p" "inner") _ rfl
      (.cons _ (.cons_cons _ (.cons _ (.cons_cons _ (List.nil_sublist _)))))
  obtain ⟨heard, key, handler, unheard, hevents, -, -, hhear, -⟩ := hrefused hnot
  exact ⟨⟨hnew, haccepted hnew⟩, hnot, ⟨heard, key, handler, unheard, hevents, hhear⟩, rfl⟩

end RuleRegistry
end LintRules
