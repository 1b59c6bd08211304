import LintRules.Manifest.Basic
import LintRules.Proofs.Interleaving
import LintRules.Proofs.Table

/-!
# What a manifest declares

A manifest is made into a module in two stages.  First its sections have to be those of its kind,
and then each rule in it has to be one that can be made.  The rules are tried in the order in which
they stand, so the first that cannot be made tells the error, and a section that must not be there
tells it before any rule does.

* `TermRule.IsSound`, `TermRule.HasFault`: a rule can be made, or there is something wrong with it.
* `Manifest.IsSound`, `Manifest.FailsWith`: the same for a manifest.  Every manifest is one of the
  two (`Manifest.isSound_or_failsWith`).
* `Manifest.Declares`: the module of a manifest, told from what is written in it.
* `Manifest.toModule_exact`: a module is made exactly from a sound manifest, it is the module that
  the manifest declares, and otherwise the error is the one that the manifest fails with.
-/

namespace LintRules

/-! ## Rules -/

namespace TermRule

/-- A rule that can be made: it has terms, and none of their patterns is empty. -/
structure IsSound (rule : TermRule) : Prop where
  terms : rule.terms ≠ []
  patterns : ∀ term ∈ rule.terms, term.pattern ≠ ""

/-- What is wrong with a rule. -/
inductive HasFault (rule : TermRule) : ModuleFault → Prop
  | noTerms (h : rule.terms = []) : HasFault rule .noTerms
  | emptyPattern {term : Term} (hterm : term ∈ rule.terms) (h : term.pattern = "") :
      HasFault rule .emptyPattern

variable {package : String} {rule : TermRule}

theorem isSound_or_hasFault (rule : TermRule) :
    rule.IsSound ∨ ∃ fault, rule.HasFault fault := by
  by_cases hterms : rule.terms = []
  · exact Or.inr ⟨_, .noTerms hterms⟩
  · by_cases hpattern : ∃ term ∈ rule.terms, term.pattern = ""
    · obtain ⟨term, hterm, hempty⟩ := hpattern
      exact Or.inr ⟨_, .emptyPattern hterm hempty⟩
    · push Not at hpattern
      exact Or.inl ⟨hterms, hpattern⟩

theorem toHandler_of_isSound (h : rule.IsSound) : rule.toHandler package = .ok (.ofTerms rule) := by
  have hany : rule.terms.any (·.pattern = "") = false := by
    simpa using h.patterns
  unfold toHandler
  rw [if_neg (by simpa using h.terms), hany]
  rfl

theorem toHandler_of_hasFault {fault : ModuleFault} (h : rule.HasFault fault) :
    rule.toHandler package = .error (.invalidModule package fault) := by
  unfold toHandler
  cases h with
  | noTerms hterms =>
    rw [if_pos (by simp [hterms])]
  | emptyPattern hterm hempty =>
    have hne : rule.terms ≠ [] := List.ne_nil_of_mem hterm
    have hany : rule.terms.any (·.pattern = "") = true :=
      List.any_eq_true.mpr ⟨_, hterm, by simpa using hempty⟩
    rw [if_neg (by simpa using hne), if_pos hany]

end TermRule

/-- The handler is that of a rule: it says what the rule is for, it reports issues, and it proposes
replacements if a term of the rule has one. -/
structure Handler.Carries (handler : Handler) (rule : TermRule) : Prop where
  made : handler = .ofTerms rule
  description : handler.description = rule.description
  linter : handler.capabilities.linter = true
  fixer : handler.capabilities.fixer = true ↔ ∃ term ∈ rule.terms, term.replacement ≠ none

theorem Handler.carries_ofTerms (rule : TermRule) : (Handler.ofTerms rule).Carries rule := by
  refine ⟨rfl, rfl, ?_, ?_⟩
  · show rule.capabilities.linter = true
    unfold TermRule.capabilities
    split <;> rfl
  · show rule.capabilities.fixer = true ↔ _
    unfold TermRule.capabilities
    split
    · next h =>
      obtain ⟨term, hterm, hreplacement⟩ := List.any_eq_true.mp h
      refine iff_of_true rfl ⟨term, hterm, ?_⟩
      simpa [Option.isSome_iff_ne_none] using hreplacement
    · next h =>
      refine iff_of_false (by simp [Capabilities.lint]) ?_
      rintro ⟨term, hterm, hreplacement⟩
      exact h (List.any_eq_true.mpr ⟨term, hterm, Option.isSome_iff_ne_none.mpr hreplacement⟩)

/-! ## Rules one after another -/

/-- The handlers are those of the rules, under the same names in the same order. -/
def AreHandlersOf (rules : Table TermRule) (handlers : Table Handler) : Prop :=
  List.Forall₂ (fun entry made => made.1 = entry.1 ∧ made.2.Carries entry.2) rules.entries
    handlers.entries

/-- The first rule that cannot be made has the given name, and this is wrong with it. -/
def FirstFault (entries : List (String × TermRule)) (name : String) (fault : ModuleFault) : Prop :=
  ∃ before rule after, entries = before ++ (name, rule) :: after ∧
    (∀ entry ∈ before, entry.2.IsSound) ∧ rule.HasFault fault

namespace Manifest

variable {package : String}

theorem allSound_or_firstFault (entries : List (String × TermRule)) :
    (∀ entry ∈ entries, entry.2.IsSound) ∨ ∃ name fault, FirstFault entries name fault := by
  induction entries with
  | nil => exact Or.inl nofun
  | cons first rest ih =>
    obtain ⟨name, rule⟩ := first
    rcases rule.isSound_or_hasFault with hfirst | ⟨fault, hfault⟩
    · rcases ih with hrest | ⟨other, fault, before, stop, after, rfl, hbefore, hfault⟩
      · exact Or.inl (List.forall_mem_cons.mpr ⟨hfirst, hrest⟩)
      · refine Or.inr ⟨other, fault, (name, rule) :: before, stop, after, rfl, ?_, hfault⟩
        exact List.forall_mem_cons.mpr ⟨hfirst, hbefore⟩
    · exact Or.inr ⟨name, fault, [], rule, rest, rfl, nofun, hfault⟩

theorem handlers_of_allSound {entries : List (String × TermRule)}
    (h : ∀ entry ∈ entries, entry.2.IsSound) :
    handlers package entries = .ok (entries.map fun entry => (entry.1, .ofTerms entry.2)) := by
  induction entries with
  | nil => rfl
  | cons first rest ih =>
    obtain ⟨hfirst, hrest⟩ := List.forall_mem_cons.mp h
    rw [handlers, TermRule.toHandler_of_isSound hfirst, ih hrest]
    rfl

/-- Rules are tried in their order, and the first that has a fault is the one that is reported. -/
theorem handlers_of_firstFault {entries : List (String × TermRule)} {name : String}
    {fault : ModuleFault} (h : FirstFault entries name fault) :
    handlers package entries = .error (.invalidModule (package ++ "/" ++ name) fault) := by
  obtain ⟨before, rule, after, rfl, hbefore, hfault⟩ := h
  induction before with
  | nil =>
    rw [List.nil_append, handlers, TermRule.toHandler_of_hasFault hfault]
    rfl
  | cons first before ih =>
    obtain ⟨hfirst, hbefore⟩ := List.forall_mem_cons.mp hbefore
    rw [List.cons_append, handlers, TermRule.toHandler_of_isSound hfirst, ih hbefore]
    rfl

/-- The table of the handlers of rules. -/
def handlersOf (rules : Table TermRule) : Table Handler := rules.map fun _ rule => .ofTerms rule

theorem entries_handlersOf (rules : Table TermRule) :
    (handlersOf rules).entries = rules.entries.map fun entry => (entry.1, .ofTerms entry.2) :=
  rfl

/-- The names of the rules are distinct, so the table of their handlers has just these entries. -/
theorem handlerTable_of_allSound {rules : Table TermRule}
    (h : ∀ entry ∈ rules.entries, entry.2.IsSound) :
    handlerTable package rules = .ok (handlersOf rules) := by
  unfold handlerTable
  rw [handlers_of_allSound h, ← entries_handlersOf]
  exact congrArg Except.ok (Table.ofList_entries (handlersOf rules))

theorem handlerTable_of_firstFault {rules : Table TermRule} {name : String}
    {fault : ModuleFault} (h : FirstFault rules.entries name fault) :
    handlerTable package rules = .error (.invalidModule (package ++ "/" ++ name) fault) := by
  unfold handlerTable
  rw [handlers_of_firstFault h]
  rfl

theorem areHandlersOf_iff {rules : Table TermRule} {table : Table Handler} :
    AreHandlersOf rules table ↔ table = handlersOf rules := by
  constructor
  · intro h
    refine Table.ext (List.forall₂_eq_eq_eq ▸ ?_ : table.entries = _)
    rw [entries_handlersOf, List.forall₂_map_right_iff]
    refine (h.imp ?_).flip
    rintro entry made ⟨hname, hcarries⟩
    exact Prod.ext hname hcarries.made
  · rintro rfl
    unfold AreHandlersOf
    rw [entries_handlersOf, List.forall₂_map_right_iff, List.forall₂_same]
    intro entry _
    exact ⟨rfl, Handler.carries_ofTerms entry.2⟩

end Manifest

/-! ## Processors -/

/-- The extension begins with a dot, which is put there if the declared one has none. -/
structure IsDotted (declared extension : String) : Prop where
  dot : extension.toList.head? = some '.'
  same : declared.toList.head? = some '.' → extension = declared
  added : declared.toList.head? ≠ some '.' → extension = "." ++ declared

theorem isDotted_iff {declared extension : String} :
    IsDotted declared extension ↔ extension = dotted declared := by
  unfold dotted
  by_cases hdot : declared.toList.head? = some '.'
  · rw [if_pos hdot]
    constructor
    · intro h
      exact h.same hdot
    · rintro rfl
      exact ⟨hdot, fun _ => rfl, fun hne => absurd hdot hne⟩
  · rw [if_neg hdot]
    constructor
    · intro h
      exact h.added hdot
    · rintro rfl
      exact ⟨by simp [String.toList_append], fun h => absurd h hdot, fun _ => rfl⟩

/-- The processor has the declared extensions in their order, each with a dot. -/
def Processor.Carries (declared : List String) (processor : Processor) : Prop :=
  List.Forall₂ IsDotted declared processor.extensions

theorem Processor.carries_iff {declared : List String} {processor : Processor} :
    processor.Carries declared ↔ processor = .ofExtensions declared := by
  obtain ⟨extensions⟩ := processor
  unfold Processor.Carries Processor.ofExtensions
  rw [Processor.mk.injEq, ← List.forall₂_eq_eq_eq, List.forall₂_map_right_iff]
  constructor
  · intro h
    exact (h.imp fun _ _ => isDotted_iff.mp).flip
  · intro h
    exact h.flip.imp fun _ _ => isDotted_iff.mpr

/-! ## Manifests -/

namespace Manifest

/-- There is a section that a manifest of this kind must not have. -/
inductive HasForbidden (manifest : Manifest) : ModuleFault → Prop
  | sections (hkind : manifest.kind = .rule)
      (h : manifest.rules ≠ none ∨ manifest.extensions ≠ none) :
      HasForbidden manifest .ruleWithSections
  | processor (hkind : manifest.kind = .preset) (h : manifest.extensions ≠ none) :
      HasForbidden manifest .presetWithProcessor

/-- The rule that a manifest of a rule is about. -/
def ownRule (manifest : Manifest) : TermRule := ⟨manifest.description, manifest.terms⟩

/-- A module can be made of the manifest.  A rule has no sections for other rules and for a
processor, a preset has rules and no processor, and a plugin has what it likes; all rules can be
made. -/
inductive IsSound (manifest : Manifest) : Prop
  | rule (hkind : manifest.kind = .rule) (hrules : manifest.rules = none)
      (hprocessor : manifest.extensions = none) (h : manifest.ownRule.IsSound)
  | preset {rules : Table TermRule} (hkind : manifest.kind = .preset)
      (hprocessor : manifest.extensions = none) (hrules : manifest.rules = some rules)
      (h : ∀ entry ∈ rules.entries, entry.2.IsSound)
  | plugin (hkind : manifest.kind = .plugin)
      (h : ∀ rules, manifest.rules = some rules → ∀ entry ∈ rules.entries, entry.2.IsSound)

/-- The module is what the manifest says. -/
inductive Declares (manifest : Manifest) : Module → Prop
  | rule {handler : Handler} (hkind : manifest.kind = .rule)
      (h : handler.Carries manifest.ownRule) : Declares manifest (.rule handler)
  | preset {rules : Table TermRule} {handlers : Table Handler} (hkind : manifest.kind = .preset)
      (hrules : manifest.rules = some rules) (h : AreHandlersOf rules handlers) :
      Declares manifest (.bundle (some handlers) none)
  | plugin {handlers : Option (Table Handler)} {processor : Option Processor}
      (hkind : manifest.kind = .plugin) (hrules : Option.Rel AreHandlersOf manifest.rules handlers)
      (hprocessor : Option.Rel (fun declared processor => Processor.Carries declared processor)
        manifest.extensions processor) :
      Declares manifest (.bundle handlers processor)

/-- The error of a manifest of which no module can be made: a forbidden section counts before all
else, and of several rules the first that has a fault. -/
inductive FailsWith (package : String) (manifest : Manifest) : LoadError → Prop
  | forbidden {fault : ModuleFault} (h : manifest.HasForbidden fault) :
      FailsWith package manifest (.invalidModule package fault)
  | rule {fault : ModuleFault} (hkind : manifest.kind = .rule)
      (hallowed : ∀ fault, ¬ manifest.HasForbidden fault) (h : manifest.ownRule.HasFault fault) :
      FailsWith package manifest (.invalidModule package fault)
  | noRules (hkind : manifest.kind = .preset) (hallowed : ∀ fault, ¬ manifest.HasForbidden fault)
      (hrules : manifest.rules = none) :
      FailsWith package manifest (.unexpectedExport package .rules)
  | inline {rules : Table TermRule} {name : String} {fault : ModuleFault}
      (hkind : manifest.kind ≠ .rule) (hallowed : ∀ fault, ¬ manifest.HasForbidden fault)
      (hrules : manifest.rules = some rules) (h : FirstFault rules.entries name fault) :
      FailsWith package manifest (.invalidModule (package ++ "/" ++ name) fault)

variable {package : String} {manifest : Manifest}

/-- What is there stands in `R` to what is made of it. -/
theorem rel_map {α β : Type} {R : α → β → Prop} {f : α → β} (h : ∀ a, R a (f a)) (o : Option α) :
    Option.Rel R o (o.map f) := by
  cases o with
  | none => exact .none
  | some a => exact .some (h a)

theorem eq_map_of_rel {α β : Type} {R : α → β → Prop} {f : α → β} (h : ∀ a b, R a b → b = f a)
    {o : Option α} {o' : Option β} (hrel : Option.Rel R o o') : o' = o.map f := by
  cases hrel with
  | none => rfl
  | some hab => rw [h _ _ hab, Option.map_some]

theorem not_hasForbidden_of_rule (hkind : manifest.kind = .rule) (hrules : manifest.rules = none)
    (hprocessor : manifest.extensions = none) (fault : ModuleFault) :
    ¬ manifest.HasForbidden fault := by
  rintro (⟨-, h | h⟩ | ⟨hother, -⟩)
  · exact h hrules
  · exact h hprocessor
  · exact absurd (hkind.symm.trans hother) nofun

theorem not_hasForbidden_of_preset (hkind : manifest.kind = .preset)
    (hprocessor : manifest.extensions = none) (fault : ModuleFault) :
    ¬ manifest.HasForbidden fault := by
  rintro (⟨hother, -⟩ | ⟨-, h⟩)
  · exact absurd (hkind.symm.trans hother) nofun
  · exact h hprocessor

theorem not_hasForbidden_of_plugin (hkind : manifest.kind = .plugin) (fault : ModuleFault) :
    ¬ manifest.HasForbidden fault := by
  rintro (⟨hother, -⟩ | ⟨hother, -⟩)
  · exact absurd (hkind.symm.trans hother) nofun
  · exact absurd (hkind.symm.trans hother) nofun

/-- **A manifest is sound, or it fails.** -/
theorem isSound_or_failsWith (package : String) (manifest : Manifest) :
    manifest.IsSound ∨ ∃ e, manifest.FailsWith package e := by
  cases hkind : manifest.kind with
  | rule =>
    by_cases hsections : manifest.rules ≠ none ∨ manifest.extensions ≠ none
    · exact Or.inr ⟨_, .forbidden (.sections hkind hsections)⟩
    · push Not at hsections
      obtain ⟨hrules, hprocessor⟩ := hsections
      rcases manifest.ownRule.isSound_or_hasFault with hsound | ⟨fault, hfault⟩
      · exact Or.inl (.rule hkind hrules hprocessor hsound)
      · have hallowed := not_hasForbidden_of_rule hkind hrules hprocessor
        exact Or.inr ⟨_, .rule hkind hallowed hfault⟩
  | preset =>
    by_cases hprocessor : manifest.extensions = none
    · have hallowed := not_hasForbidden_of_preset hkind hprocessor
      cases hrules : manifest.rules with
      | none => exact Or.inr ⟨_, .noRules hkind hallowed hrules⟩
      | some rules =>
        rcases allSound_or_firstFault rules.entries with hsound | ⟨name, fault, hfault⟩
        · exact Or.inl (.preset hkind hprocessor hrules hsound)
        · exact Or.inr ⟨_, .inline (by simp [hkind]) hallowed hrules hfault⟩
    · exact Or.inr ⟨_, .forbidden (.processor hkind hprocessor)⟩
  | plugin =>
    have hallowed := not_hasForbidden_of_plugin hkind
    cases hrules : manifest.rules with
    | none => exact Or.inl (.plugin hkind (by simp [hrules]))
    | some rules =>
      rcases allSound_or_firstFault rules.entries with hsound | ⟨name, fault, hfault⟩
      · refine Or.inl (.plugin hkind fun other hother => ?_)
        rw [hrules, Option.some.injEq] at hother
        exact hother ▸ hsound
      · exact Or.inr ⟨_, .inline (by simp [hkind]) hallowed hrules hfault⟩

/-- **A sound manifest is made into the module that it declares.** -/
theorem exists_toModule_of_isSound (package : String) (h : manifest.IsSound) :
    ∃ module, manifest.toModule package = .ok module ∧ manifest.Declares module := by
  cases h with
  | rule hkind hrules hprocessor hsound =>
    have hhandler : TermRule.toHandler package ⟨manifest.description, manifest.terms⟩ =
        .ok (.ofTerms manifest.ownRule) := TermRule.toHandler_of_isSound hsound
    refine ⟨.rule (.ofTerms manifest.ownRule), ?_, .rule hkind (Handler.carries_ofTerms _)⟩
    simp only [toModule, hkind, hrules, hprocessor, hhandler]
    rfl
  | @preset rules hkind hprocessor hrules hsound =>
    refine ⟨.preset (handlersOf rules), ?_, .preset hkind hrules (areHandlersOf_iff.mpr rfl)⟩
    simp only [toModule, hkind, hrules, hprocessor, handlerTable_of_allSound hsound]
    rfl
  | plugin hkind hsound =>
    refine ⟨.bundle (manifest.rules.map handlersOf) (manifest.extensions.map .ofExtensions), ?_,
      .plugin hkind (rel_map (fun _ => areHandlersOf_iff.mpr rfl) _)
        (rel_map (fun _ => Processor.carries_iff.mpr rfl) _)⟩
    cases hrules : manifest.rules with
    | none => simp only [toModule, hkind, hrules, Option.map_none]
    | some rules =>
      simp only [toModule, hkind, hrules, handlerTable_of_allSound (hsound rules hrules)]
      rfl

theorem toModule_of_failsWith {e : LoadError} (h : manifest.FailsWith package e) :
    manifest.toModule package = .error e := by
  have hallowedSections : (∀ fault, ¬ manifest.HasForbidden fault) → manifest.kind = .rule →
      manifest.rules = none ∧ manifest.extensions = none := by
    intro hallowed hkind
    by_contra hsections
    exact hallowed _ (.sections hkind (by tauto))
  have hallowedProcessor : (∀ fault, ¬ manifest.HasForbidden fault) → manifest.kind = .preset →
      manifest.extensions = none := by
    intro hallowed hkind
    by_contra hprocessor
    exact hallowed _ (.processor hkind hprocessor)
  cases h with
  | forbidden h =>
    cases h with
    | sections hkind hsections =>
      have hsome : (manifest.rules.isSome || manifest.extensions.isSome) = true := by
        simpa [Option.isSome_iff_ne_none] using hsections
      simp only [toModule, hkind, hsome, if_true]
    | processor hkind hprocessor =>
      have hsome : manifest.extensions.isSome = true := Option.isSome_iff_ne_none.mpr hprocessor
      simp only [toModule, hkind, hsome, if_true]
  | @rule fault hkind hallowed hfault =>
    obtain ⟨hrules, hprocessor⟩ := hallowedSections hallowed hkind
    have hhandler : TermRule.toHandler package ⟨manifest.description, manifest.terms⟩ =
        .error (.invalidModule package fault) := TermRule.toHandler_of_hasFault hfault
    simp only [toModule, hkind, hrules, hprocessor, hhandler]
    rfl
  | noRules hkind hallowed hrules =>
    have hprocessor := hallowedProcessor hallowed hkind
    simp only [toModule, hkind, hrules, hprocessor]
    rfl
  | inline hkind hallowed hrules hfault =>
    cases hkind' : manifest.kind with
    | rule => exact absurd hkind' hkind
    | preset =>
      have hprocessor := hallowedProcessor hallowed hkind'
      simp only [toModule, hkind', hrules, hprocessor, handlerTable_of_firstFault hfault]
      rfl
    | plugin =>
      simp only [toModule, hkind', hrules, handlerTable_of_firstFault hfault]
      rfl

/-- A manifest declares one module only. -/
theorem Declares.unique {module module' : Module} (h : manifest.Declares module)
    (h' : manifest.Declares module') : module = module' := by
  cases h with
  | rule hkind h =>
    cases h' with
    | rule hkind' h' => rw [h.made, h'.made]
    | preset hkind' => exact absurd (hkind.symm.trans hkind') nofun
    | plugin hkind' => exact absurd (hkind.symm.trans hkind') nofun
  | preset hkind hrules h =>
    cases h' with
    | rule hkind' => exact absurd (hkind.symm.trans hkind') nofun
    | preset hkind' hrules' h' =>
      rw [hrules, Option.some.injEq] at hrules'
      rw [areHandlersOf_iff.mp h, areHandlersOf_iff.mp h', hrules']
    | plugin hkind' => exact absurd (hkind.symm.trans hkind') nofun
  | plugin hkind hrules hprocessor =>
    cases h' with
    | rule hkind' => exact absurd (hkind.symm.trans hkind') nofun
    | preset hkind' => exact absurd (hkind.symm.trans hkind') nofun
    | plugin hkind' hrules' hprocessor' =>
      have hhandlers := fun o => @eq_map_of_rel _ _ _ handlersOf
        (fun _ _ => areHandlersOf_iff.mp) manifest.rules o
      have hprocessors := fun o => @eq_map_of_rel _ _ _ Processor.ofExtensions
        (fun _ _ => Processor.carries_iff.mp) manifest.extensions o
      rw [hhandlers _ hrules, hhandlers _ hrules', hprocessors _ hprocessor,
        hprocessors _ hprocessor']

/-- **The modules that manifests are made into.** -/
theorem toModule_eq_ok_iff {module : Module} :
    manifest.toModule package = .ok module ↔ manifest.IsSound ∧ manifest.Declares module := by
  rcases manifest.isSound_or_failsWith package with hsound | ⟨e, hfails⟩
  · obtain ⟨made, hmade, hdeclares⟩ := exists_toModule_of_isSound package hsound
    rw [hmade, Except.ok.injEq]
    constructor
    · rintro rfl
      exact ⟨hsound, hdeclares⟩
    · rintro ⟨-, hother⟩
      exact hdeclares.unique hother
  · have herror := toModule_of_failsWith hfails
    rw [herror]
    refine iff_of_false nofun ?_
    rintro ⟨hsound, -⟩
    obtain ⟨made, hmade, -⟩ := exists_toModule_of_isSound package hsound
    exact nomatch hmade.symm.trans herror

/-- **The errors of manifests.** -/
theorem toModule_eq_error_iff {e : LoadError} :
    manifest.toModule package = .error e ↔ manifest.FailsWith package e := by
  constructor
  · intro h
    rcases manifest.isSound_or_failsWith package with hsound | ⟨other, hfails⟩
    · obtain ⟨made, hmade, -⟩ := exists_toModule_of_isSound package hsound
      exact nomatch hmade.symm.trans h
    · have hother := toModule_of_failsWith hfails
      rw [h, Except.error.injEq] at hother
      exact hother ▸ hfails
  · exact toModule_of_failsWith

/-- **Which manifests are made into a module, and into which one, and what is wrong with the
others.** -/
theorem toModule_exact (package : String) (manifest : Manifest) :
    ((∃ module, manifest.toModule package = .ok module) ↔ manifest.IsSound) ∧
      (∀ module, manifest.toModule package = .ok module ↔
        manifest.IsSound ∧ manifest.Declares module) ∧
      ∀ e, manifest.toModule package = .error e ↔ manifest.FailsWith package e := by
  refine ⟨?_, fun module => toModule_eq_ok_iff, fun e => toModule_eq_error_iff⟩
  constructor
  · rintro ⟨module, hmodule⟩
    exact (toModule_eq_ok_iff.mp hmodule).1
  · intro hsound
    obtain ⟨module, hmodule, -⟩ := exists_toModule_of_isSound package hsound
    exact ⟨module, hmodule⟩

/-- A processor that must not be there counts before a rule without terms. -/
example : ({ kind := .preset, rules := some (.ofList [("a", {})]), extensions := some [] } :
    Manifest).toModule "p" = .error (.invalidModule "p" .presetWithProcessor) := rfl

end Manifest

end LintRules
