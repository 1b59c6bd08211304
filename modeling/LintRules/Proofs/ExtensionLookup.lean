import LintRules.Proofs.DeclaredModule
import LintRules.Proofs.ProcessorPrecedence

/-!
# Looking up the processor of an extension

Extensions are compared without their leading dots, on both sides.  So it does not matter whether
dots are written, neither in what is looked up nor in what a plugin declares.  Of the plugins that
declare an extension the last one in the registry is found.

* `ProcessorRegistry.Serves`: a plugin of the registry declares an extension.
* `ProcessorRegistry.findByExtension?_eq_some_iff_serves`: which plugin is found.
* `sameExtension_dotted`: a dot in front makes no other extension.
* `ProcessorRegistry.renewed`: a registry with a processor that is made anew of its extensions.
* `ProcessorRegistry.findByExtension?_lookup`: a lookup, and the ways of writing it down that make
  no difference.
-/

namespace LintRules
namespace ProcessorRegistry

/-! ## Which plugin is found -/

/-- A plugin has this processor in the registry, and the processor declares the extension. -/
structure Serves (registry : ProcessorRegistry) (extension name : String) (p : Processor) :
    Prop where
  registered : (name, p) ∈ registry.entries
  declared : ∃ declared ∈ p.extensions, SameExtension declared extension

variable {registry : ProcessorRegistry} {extension name : String} {p : Processor}

/-- Events that announce the processors of a registry in their order. -/
def retold (registry : ProcessorRegistry) : List LoadEvent :=
  registry.entries.map fun e => .processor e.1 e.2

theorem announcements_retold (registry : ProcessorRegistry) :
    announcements registry.retold = registry.entries := by
  rw [announcements, retold, List.filterMap_map]
  exact List.filterMap_some

theorem heard_retold (registry : ProcessorRegistry) : heard registry.retold = registry := by
  have hprocessors : (heard registry.retold).processors = registry.processors := by
    rw [processors_heard, announcements_retold]
    exact Table.ofList_entries registry.processors
  cases registry
  exact congrArg ProcessorRegistry.mk hprocessors

theorem serves_iff :
    registry.Serves extension name p ↔
      (name, p) ∈ registry.entries ∧ handles extension p = true := by
  rw [handles_iff]
  constructor
  · intro h
    exact ⟨h.registered, h.declared⟩
  · rintro ⟨hregistered, hdeclared⟩
    exact ⟨hregistered, hdeclared⟩

theorem serves_iff_offers :
    registry.Serves extension name p ↔ Offers registry.retold extension name p := by
  rw [serves_iff, offers_iff, heard_retold]

/-- **The last plugin that declares an extension is found.** -/
theorem findByExtension?_eq_some_iff_serves :
    registry.findByExtension? extension = some (name, p) ↔
      registry.Serves extension name p ∧ ∀ other q, registry.Serves extension other q →
        other ≠ name → ArrivesBefore registry.names other name := by
  have hnames : announcedNames registry.retold = registry.names := by
    rw [announcedNames, announcements_retold]
    rfl
  simp only [serves_iff_offers, ← hnames]
  rw [← findByExtension?_eq_some_iff, heard_retold]

theorem isSome_findByExtension?_iff :
    (registry.findByExtension? extension).isSome = true ↔
      ∃ name p, registry.Serves extension name p := by
  rw [findByExtension?, List.find?_isSome]
  simp only [serves_iff, List.mem_reverse, Prod.exists]

/-! ## Dots -/

theorem findByExtension?_congr {other : String} (h : SameExtension extension other) :
    registry.findByExtension? other = registry.findByExtension? extension := by
  have hhandles : ∀ p, handles other p = handles extension p := by
    intro p
    rw [handles, handles, sameExtension_iff.mp h]
  simp only [findByExtension?, hhandles]

theorem sameExtension_dotted (declared : String) : SameExtension (dotted declared) declared := by
  rw [dotted]
  split
  · exact ⟨0, 0, declared.toList, rfl, rfl⟩
  · exact ⟨1, 0, declared.toList, String.toList_append, rfl⟩

/-- A processor that is made anew handles what it has handled before. -/
theorem handles_ofExtensions (extension : String) (p : Processor) :
    handles extension (.ofExtensions p.extensions) = handles extension p := by
  rw [handles, handles, Processor.ofExtensions, List.any_map]
  refine congrArg p.extensions.any (funext fun declared => ?_)
  rw [Function.comp_apply, sameExtension_iff.mp (sameExtension_dotted declared)]

/-- The registry with the processor of a plugin, if there is one, made anew of the extensions that
it declares. -/
def renewed (registry : ProcessorRegistry) (name : String) : ProcessorRegistry :=
  match registry.get? name with
  | some p => registry.define name (.ofExtensions p.extensions)
  | none => registry

theorem entries_renewed (registry : ProcessorRegistry) (name : String) :
    (registry.renewed name).entries = registry.entries.map fun e =>
      (e.1, if e.1 = name then .ofExtensions e.2.extensions else e.2) := by
  rw [renewed]
  rcases hget : registry.get? name with _ | p
  · have hnew : ∀ e ∈ registry.entries,
        (e.1, if e.1 = name then .ofExtensions e.2.extensions else e.2) = e := by
      intro e he
      have hne : e.1 ≠ name := by
        rintro rfl
        have hsome : registry.get? e.1 = some e.2 := Table.mem_entries_iff_get?_eq_some.mp he
        rw [hsome] at hget
        cases hget
      rw [if_neg hne]
    rw [List.map_congr_left hnew, List.map_id']
  · exact Entries.put_of_find?_eq_some registry.processors.nodup hget
      fun p => .ofExtensions p.extensions

/-- **A processor that is made anew** is found where it was found before, and so is every other
one. -/
theorem findByExtension?_renewed (registry : ProcessorRegistry) (name extension : String) :
    (registry.renewed name).findByExtension? extension =
      (registry.findByExtension? extension).map fun e =>
        (e.1, if e.1 = name then .ofExtensions e.2.extensions else e.2) := by
  have hhandles : ∀ e : String × Processor,
      handles extension (if e.1 = name then .ofExtensions e.2.extensions else e.2) =
        handles extension e.2 := by
    intro e
    split
    · exact handles_ofExtensions extension e.2
    · rfl
  rw [findByExtension?, findByExtension?, entries_renewed, ← List.map_reverse, List.find?_map]
  simp only [Function.comp_def, hhandles]

/-- **Looking up an extension.**  A plugin is found exactly if some plugin declares the extension,
up to leading dots; it is one of these, and it stands behind the others.  Leading dots in what is
looked up make no difference.  Neither does it make one if the processor of a plugin is made anew
of its extensions: the same plugin is found, with the processor that it has now.  To make a
processor anew is to put a dot in front of those extensions that have none, and so it does nothing
the second time. -/
theorem findByExtension?_lookup (registry : ProcessorRegistry) (extension : String) :
    ((registry.findByExtension? extension).isSome = true ↔
      ∃ name p, registry.Serves extension name p) ∧
    (∀ name p, registry.findByExtension? extension = some (name, p) ↔
      registry.Serves extension name p ∧ ∀ other q, registry.Serves extension other q →
        other ≠ name → ArrivesBefore registry.names other name) ∧
    (∀ other, SameExtension extension other →
      registry.findByExtension? other = registry.findByExtension? extension) ∧
    (∀ name, (registry.renewed name).findByExtension? extension =
      (registry.findByExtension? extension).map fun e =>
        (e.1, if e.1 = name then .ofExtensions e.2.extensions else e.2)) ∧
    ∀ extensions, List.Forall₂ IsDotted extensions (Processor.ofExtensions extensions).extensions ∧
      (Processor.ofExtensions extensions).extensions.length = extensions.length ∧
      Processor.ofExtensions (Processor.ofExtensions extensions).extensions =
        .ofExtensions extensions := by
  refine ⟨isSome_findByExtension?_iff, fun name p => findByExtension?_eq_some_iff_serves,
    fun other => findByExtension?_congr,
    fun name => findByExtension?_renewed registry name extension, fun extensions =>
      ⟨Processor.carries_iff.mpr rfl, List.length_map dotted, ?_⟩⟩
  simp only [Processor.ofExtensions, List.map_map, Function.comp_def, dotted_dotted]

/-- Three plugins of which two declare one extension, with no dot and with two. -/
def unevenlyDotted : ProcessorRegistry :=
  ⟨.ofList [("html", ⟨["htm", "html"]⟩), ("mdx", ⟨[".mdx"]⟩), ("html5", ⟨["..html"]⟩)]⟩

/-- The later of the two plugins is found, with one dot and with none, and the earlier one is found
under the extension that only it declares, also after it is made anew. -/
theorem unevenlyDotted_lookup :
    unevenlyDotted.findByExtension? ".html" = some ("html5", ⟨["..html"]⟩) ∧
      SameExtension ".html" "html" ∧
      unevenlyDotted.findByExtension? "html" = some ("html5", ⟨["..html"]⟩) ∧
      ArrivesBefore unevenlyDotted.names "html" "html5" ∧
      (unevenlyDotted.renewed "html").findByExtension? "htm" = some ("html", ⟨[".htm", ".html"]⟩) ∧
      unevenlyDotted.findByExtension? ".txt" = none := by
  obtain ⟨-, hfound, hdots, -⟩ := findByExtension?_lookup unevenlyDotted ".html"
  obtain ⟨-, -, -, hrenewed, -⟩ := findByExtension?_lookup unevenlyDotted "htm"
  have hlater : unevenlyDotted.findByExtension? ".html" = some ("html5", ⟨["..html"]⟩) := by decide
  have hsame : SameExtension ".html" "html" := ⟨1, 0, "html".toList, rfl, rfl⟩
  have hserves : unevenlyDotted.Serves ".html" "html" ⟨["htm", "html"]⟩ :=
    serves_iff.mpr (by decide)
  refine ⟨hlater, hsame, (hdots "html" hsame).trans hlater, ?_, ?_, by decide⟩
  · exact ((hfound _ _).mp hlater).2 _ _ hserves (by decide)
  · rw [hrenewed]
    decide

end ProcessorRegistry
end LintRules
