import LintRules.Proofs.Registry

/-!
# Which processor handles an extension

Several plugins may have a processor for an extension.  The one that is picked is the one whose
plugin stands last in the registry, and a plugin stands where it was announced first.  So it is the
one that was announced most recently as long as no plugin is announced a second time.

* `ArrivesBefore`, `ComesAfter`: two names in a list, by their first and by their last places.
* `ProcessorRegistry.SameExtension`, `ProcessorRegistry.Offers`: a plugin has a processor for an
  extension, after some events.
* `ProcessorRegistry.findByExtension?_exact`: which processor is picked, and when it is the one
  that was announced most recently.
* `ProcessorRegistry.findByExtension?_passes_over_latest`: a plugin that is announced again and does
  not take precedence.
-/

namespace LintRules

/-! ## Places in a list of names -/

/-- A name occurs before the first place of another one. -/
def ArrivesBefore (names : List String) (earlier name : String) : Prop :=
  ∃ before after, names = before ++ name :: after ∧ name ∉ before ∧ earlier ∈ before

/-- A name occurs after the last place of another one. -/
def ComesAfter (names : List String) (later name : String) : Prop :=
  ∃ before after, names = before ++ name :: after ∧ name ∉ after ∧ later ∈ after

section Places

variable {names : List String} {name other : String}

theorem arrivesBefore_iff_idxOf_lt (hname : name ∈ names) :
    ArrivesBefore names other name ↔ names.idxOf other < names.idxOf name := by
  constructor
  · rintro ⟨before, after, rfl, hnew, hother⟩
    rw [List.idxOf_append_of_mem hother, List.idxOf_append_of_notMem hnew]
    have hlt : before.idxOf other < before.length := List.idxOf_lt_length_iff.mpr hother
    omega
  · intro hlt
    obtain ⟨before, after, rfl, hnew⟩ := List.eq_append_cons_of_mem hname
    refine ⟨before, after, rfl, hnew, ?_⟩
    rw [List.idxOf_append_of_notMem hnew, List.idxOf_cons_self] at hlt
    by_contra hother
    rw [List.idxOf_append_of_notMem hother] at hlt
    omega

theorem ArrivesBefore.left_mem (h : ArrivesBefore names other name) : other ∈ names := by
  obtain ⟨before, after, rfl, -, hother⟩ := h
  exact List.mem_append_left _ hother

theorem ArrivesBefore.right_mem (h : ArrivesBefore names other name) : name ∈ names := by
  obtain ⟨before, after, rfl, -, -⟩ := h
  exact List.mem_append_right _ (List.mem_cons_self ..)

/-- Of two names only one arrives before the other. -/
theorem ArrivesBefore.asymm (h : ArrivesBefore names other name) :
    ¬ ArrivesBefore names name other := by
  intro h'
  have hlt := (arrivesBefore_iff_idxOf_lt h.right_mem).mp h
  have hlt' := (arrivesBefore_iff_idxOf_lt h.left_mem).mp h'
  omega

/-- Where no name occurs twice, one of two names comes after the other exactly if the other arrives
before it. -/
theorem comesAfter_iff_arrivesBefore (hnodup : names.Nodup) :
    ComesAfter names name other ↔ ArrivesBefore names other name := by
  constructor
  · rintro ⟨before, after, rfl, -, hname⟩
    obtain ⟨between, rest, rfl⟩ := List.append_of_mem hname
    refine ⟨before ++ other :: between, rest, by simp, ?_, by simp⟩
    have hsplit : before ++ other :: (between ++ name :: rest) =
        (before ++ other :: between) ++ name :: rest := by simp
    rw [hsplit, List.nodup_append] at hnodup
    exact fun hmem => hnodup.2.2 _ hmem _ (List.mem_cons_self ..) rfl
  · rintro ⟨before, after, rfl, -, hother⟩
    obtain ⟨rest, between, rfl⟩ := List.append_of_mem hother
    refine ⟨rest, between ++ name :: after, by simp, ?_, by simp⟩
    have hsplit : (rest ++ other :: between) ++ name :: after =
        rest ++ other :: (between ++ name :: after) := by simp
    rw [hsplit, List.nodup_append, List.nodup_cons] at hnodup
    exact hnodup.2.1.1

end Places

/-- The last entry that is wanted is one after which none is. -/
theorem find?_reverse_eq_some_iff {α : Type} {wanted : α → Bool} {l : List α} {a : α} :
    l.reverse.find? wanted = some a ↔
      wanted a = true ∧ ∃ before after, l = before ++ a :: after ∧
        ∀ b ∈ after, wanted b = false := by
  rw [List.find?_eq_some_iff_append]
  refine and_congr_right fun _ => ?_
  constructor
  · rintro ⟨after, before, hl, hafter⟩
    refine ⟨before.reverse, after.reverse, ?_, fun b hb => ?_⟩
    · rw [← List.reverse_reverse l, hl]
      simp
    · simpa using hafter b (List.mem_reverse.mp hb)
  · rintro ⟨before, after, rfl, hafter⟩
    refine ⟨after.reverse, before.reverse, by simp, fun b hb => ?_⟩
    simpa using hafter b (List.mem_reverse.mp hb)

namespace Text

theorem exists_replicate_dropAll (c : Char) (text : List Char) :
    ∃ n, text = List.replicate n c ++ dropAll c text := by
  induction text with
  | nil => exact ⟨0, rfl⟩
  | cons d text ih =>
    rw [dropAll]
    split
    · next h =>
      obtain ⟨n, hn⟩ := ih
      refine ⟨n + 1, ?_⟩
      rw [List.replicate_succ, List.cons_append, ← hn, h]
    · exact ⟨0, rfl⟩

theorem dropAll_replicate_append (c : Char) (n : Nat) (text : List Char) :
    dropAll c (List.replicate n c ++ text) = dropAll c text := by
  induction n with
  | zero => rfl
  | succ n ih => rw [List.replicate_succ, List.cons_append, dropAll_cons_self, ih]

end Text

namespace ProcessorRegistry

/-! ## Extensions -/

/-- The extensions differ at most in the dots at their beginnings. -/
def SameExtension (extension other : String) : Prop :=
  ∃ m n rest, extension.toList = List.replicate m '.' ++ rest ∧
    other.toList = List.replicate n '.' ++ rest

theorem sameExtension_iff {extension other : String} :
    SameExtension extension other ↔ undotted extension = undotted other := by
  rw [undotted, undotted, Text.dropAllOf, Text.dropAllOf, String.ofList_inj]
  constructor
  · rintro ⟨m, n, rest, hm, hn⟩
    rw [hm, hn, Text.dropAll_replicate_append, Text.dropAll_replicate_append]
  · intro h
    obtain ⟨m, hm⟩ := Text.exists_replicate_dropAll '.' extension.toList
    obtain ⟨n, hn⟩ := Text.exists_replicate_dropAll '.' other.toList
    exact ⟨m, n, Text.dropAll '.' other.toList, h ▸ hm, hn⟩

theorem handles_iff {extension : String} {p : Processor} :
    handles extension p = true ↔ ∃ declared ∈ p.extensions, SameExtension declared extension := by
  rw [handles, List.any_eq_true]
  simp only [beq_iff_eq, sameExtension_iff]

/-! ## After some events -/

/-- The processors that events announce, with the names of their plugins. -/
def announcements (events : List LoadEvent) : List (String × Processor) :=
  events.filterMap (·.definedProcessor?)

/-- The names of the plugins in the order of the announcements, with repetitions. -/
def announcedNames (events : List LoadEvent) : List String := (announcements events).map Prod.fst

/-- The registry that has heard the events and nothing else. -/
def heard (events : List LoadEvent) : ProcessorRegistry := (listener.hearAll events {}).1

/-- The plugin has been announced, last with this processor, and the processor declares the
extension. -/
structure Offers (events : List LoadEvent) (extension name : String) (p : Processor) : Prop where
  current : Entries.last? name (announcements events) = some p
  declared : ∃ declared ∈ p.extensions, SameExtension declared extension

variable {events : List LoadEvent} {extension name : String} {p : Processor}

theorem processors_heard (events : List LoadEvent) :
    (heard events).processors = .ofList (announcements events) := by
  rw [heard, listener, Listener.hearAll_accepting, foldl_enter]
  rfl

/-- A plugin offers a processor if the processor is entered under its name and handles the
extension. -/
theorem offers_iff :
    Offers events extension name p ↔
      (name, p) ∈ (heard events).entries ∧ handles extension p = true := by
  rw [entries, processors_heard, Table.mem_entries_iff_get?_eq_some, Table.get?_ofList, handles_iff]
  constructor
  · intro h
    exact ⟨h.current, h.declared⟩
  · rintro ⟨hcurrent, hdeclared⟩
    exact ⟨hcurrent, hdeclared⟩

/-- What stands before an entry was announced before it, and what stands after it was announced
after it, if only first announcements count. -/
theorem arrivesBefore_of_entries {before after : List (String × Processor)}
    {e f : String × Processor} (h : (heard events).entries = before ++ e :: after) :
    (f ∈ before → ArrivesBefore (announcedNames events) f.1 e.1) ∧
      (f ∈ after → ArrivesBefore (announcedNames events) e.1 f.1) := by
  have horder : IsArrivalOrder (announcedNames events) ((before ++ e :: after).map Prod.fst) := by
    rw [← h, entries, processors_heard]
    exact Table.isArrivalOrder_keys_ofList _
  have hmem : ∀ g ∈ before ++ e :: after, g.1 ∈ announcedNames events :=
    fun g hg => (horder.mem_iff _).mp (List.mem_map_of_mem hg)
  have hpairs := horder.ordered
  rw [List.pairwise_map, List.pairwise_append, List.pairwise_cons] at hpairs
  obtain ⟨-, ⟨hafter, -⟩, hbefore⟩ := hpairs
  constructor
  · intro hf
    rw [arrivesBefore_iff_idxOf_lt (hmem e (by simp))]
    exact hbefore f hf e (List.mem_cons_self ..)
  · intro hf
    rw [arrivesBefore_iff_idxOf_lt (hmem f (by simp [hf]))]
    exact hafter f hf

/-- **The plugin that is picked is the one that was announced last, by first announcements.** -/
theorem findByExtension?_eq_some_iff :
    (heard events).findByExtension? extension = some (name, p) ↔
      Offers events extension name p ∧ ∀ other q, Offers events extension other q → other ≠ name →
        ArrivesBefore (announcedNames events) other name := by
  rw [findByExtension?, find?_reverse_eq_some_iff]
  constructor
  · rintro ⟨hhandles, before, after, hentries, hafter⟩
    have hmem : (name, p) ∈ (heard events).entries := by
      rw [hentries]
      simp
    refine ⟨offers_iff.mpr ⟨hmem, hhandles⟩, fun other q hother hne => ?_⟩
    obtain ⟨hentry, hq⟩ := offers_iff.mp hother
    rw [hentries, List.mem_append, List.mem_cons] at hentry
    rcases hentry with hentry | heq | hentry
    · exact (arrivesBefore_of_entries hentries).1 hentry
    · exact absurd (Prod.mk.inj heq).1 hne
    · exact absurd (hafter _ hentry) (by simp [hq])
  · rintro ⟨hoffers, hfirst⟩
    obtain ⟨hmem, hhandles⟩ := offers_iff.mp hoffers
    obtain ⟨before, after, hentries⟩ := List.append_of_mem hmem
    refine ⟨hhandles, before, after, hentries, fun other hother => ?_⟩
    by_contra hq
    rw [Bool.not_eq_false] at hq
    have hlater := (arrivesBefore_of_entries hentries).2 hother
    have hentry : (other.1, other.2) ∈ (heard events).entries := by
      rw [hentries]
      simp [hother]
    have hne : other.1 ≠ name := by
      rintro rfl
      exact hlater.asymm hlater
    exact hlater.asymm (hfirst _ _ (offers_iff.mpr ⟨hentry, hq⟩) hne)

theorem findByExtension?_eq_none_iff :
    (heard events).findByExtension? extension = none ↔
      ∀ name p, ¬ Offers events extension name p := by
  rw [findByExtension?, List.find?_eq_none]
  simp only [offers_iff, not_and, List.mem_reverse, Prod.forall]

/-- **Which processor is picked for an extension.**  It is one of those that handle the extension,
and all others of these were announced before it if only first announcements count.  If recent
announcements count, then it is the latest exactly if no other of these was announced both before
and after all of its own announcements; so it is the latest if no plugin was announced twice. -/
theorem findByExtension?_exact (events : List LoadEvent) (extension : String) :
    ((heard events).findByExtension? extension = none ↔
      ∀ name p, ¬ Offers events extension name p) ∧
    (∀ name p, (heard events).findByExtension? extension = some (name, p) ↔
      Offers events extension name p ∧ ∀ other q, Offers events extension other q → other ≠ name →
        ArrivesBefore (announcedNames events) other name) ∧
    (∀ name p, (heard events).findByExtension? extension = some (name, p) →
      ((∀ other q, Offers events extension other q → other ≠ name →
          ¬ ComesAfter (announcedNames events) other name) ↔
        ¬ ∃ other q, Offers events extension other q ∧
          ArrivesBefore (announcedNames events) other name ∧
          ComesAfter (announcedNames events) other name)) ∧
    ((announcedNames events).Nodup → ∀ name p,
      (heard events).findByExtension? extension = some (name, p) ↔
        Offers events extension name p ∧ ∀ other q, Offers events extension other q →
          other ≠ name → ComesAfter (announcedNames events) name other) := by
  refine ⟨findByExtension?_eq_none_iff, fun name p => findByExtension?_eq_some_iff,
    fun name p hpicked => ?_, fun hnodup name p => ?_⟩
  · obtain ⟨-, hfirst⟩ := findByExtension?_eq_some_iff.mp hpicked
    constructor
    · rintro hlatest ⟨other, q, hother, harrives, hcomes⟩
      have hne : other ≠ name := by
        rintro rfl
        exact harrives.asymm harrives
      exact hlatest other q hother hne hcomes
    · intro hnone other q hother hne hcomes
      exact hnone ⟨other, q, hother, hfirst other q hother hne, hcomes⟩
  · simp only [findByExtension?_eq_some_iff, comesAfter_iff_arrivesBefore hnodup]

/-- A plugin with a processor for pages. -/
def announcesPages (name : String) : LoadEvent := .processor name (.ofExtensions ["html"])

/-- Of two plugins that were announced once each the later one is picked. -/
theorem second_findByExtension?_exact :
    (announcedNames [announcesPages "a", announcesPages "b"]).Nodup ∧
      Offers [announcesPages "a", announcesPages "b"] ".html" "a" (.ofExtensions ["html"]) ∧
      (heard [announcesPages "a", announcesPages "b"]).findByExtension? ".html" =
        some ("b", .ofExtensions ["html"]) ∧
      ComesAfter ["a", "b"] "b" "a" := by
  have hnodup : (announcedNames [announcesPages "a", announcesPages "b"]).Nodup := by
    decide
  have hpicked : (heard [announcesPages "a", announcesPages "b"]).findByExtension? ".html" =
      some ("b", .ofExtensions ["html"]) := by
    decide
  have ha : Offers [announcesPages "a", announcesPages "b"] ".html" "a" (.ofExtensions ["html"]) :=
    offers_iff.mpr (by decide)
  obtain ⟨-, -, -, hlatest⟩ :=
    findByExtension?_exact [announcesPages "a", announcesPages "b"] ".html"
  obtain ⟨-, hafter⟩ := (hlatest hnodup _ _).mp hpicked
  exact ⟨hnodup, ha, hpicked, hafter _ _ ha (by decide)⟩

/-- The first of two plugins is announced again, and the other one is picked nevertheless. -/
theorem findByExtension?_passes_over_latest :
    (heard [announcesPages "a", announcesPages "b", announcesPages "a"]).findByExtension? "html" =
        some ("b", .ofExtensions ["html"]) ∧
      Offers [announcesPages "a", announcesPages "b", announcesPages "a"] "html" "a"
        (.ofExtensions ["html"]) ∧
      ComesAfter (announcedNames [announcesPages "a", announcesPages "b", announcesPages "a"])
        "a" "b" := by
  refine ⟨by decide, offers_iff.mpr (by decide), ["a"], ["a"], rfl, by decide, by decide⟩

end ProcessorRegistry
end LintRules
