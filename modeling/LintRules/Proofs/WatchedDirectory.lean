import LintRules.Proofs.Path
import LintRules.RuleFile
import Mathlib.Data.Finset.Image

/-!
# A directory that is watched

Whoever watches a directory keeps a set of paths: those of the rule files that are there at first.
What is said of a file puts its path into the set or takes it out.  The file system says of each
change what it is and which paths it is about; a renaming within the directory has two ends, which
are told one by one, or together, or both.

The set holds every rule file that is there, and no file that was deleted.  But the end that a
renaming leaves is taken for a file that is there, so its path stays in the set until another change
concerns it.

* `DirectoryChange`: what can happen to the files of a directory; `DirectoryChange.IsReportedAs`
  says how the file system tells of it.
* `IsTracked.step`: what one change does to the set.
* `IsWatched.isTracked`: what any run of changes has done to it.
* `mem_tracked_iff`: the set is right, but for the files that were renamed away.
-/

namespace LintRules

/-! ## Changes of a directory -/

/-- What the file system reports: what happened, and to which paths. -/
structure FileReport where
  kind : FileEvent
  paths : List Path

/-- What happens to a file of a directory; the files are told by their names. -/
inductive DirectoryChange where
  | created (name : String)
  | written (name : String)
  | deleted (name : String)
  /-- The file is renamed to a place outside the directory. -/
  | movedOut (name : String)
  /-- A file from outside the directory is renamed to a place in it. -/
  | movedIn (name : String)
  /-- A file of the directory gets another name in it. -/
  | renamed (before after : String)
  deriving DecidableEq

namespace DirectoryChange

/-- The change can happen to a directory with these files. -/
def CanHappen (present : Finset String) : DirectoryChange → Prop
  | .created name | .movedIn name => Path.IsEntryName name
  | .written name | .deleted name | .movedOut name => name ∈ present
  | .renamed before after => before ∈ present ∧ Path.IsEntryName after ∧ after ≠ before

instance (present : Finset String) :
    (change : DirectoryChange) → Decidable (change.CanHappen present)
  | .created name | .movedIn name => inferInstanceAs (Decidable (Path.IsEntryName name))
  | .written name | .deleted name | .movedOut name => inferInstanceAs (Decidable (name ∈ present))
  | .renamed before after =>
    inferInstanceAs (Decidable (before ∈ present ∧ Path.IsEntryName after ∧ after ≠ before))

/-- The files of the directory after the change. -/
def applyTo (present : Finset String) : DirectoryChange → Finset String
  | .created name | .movedIn name => insert name present
  | .written _ => present
  | .deleted name | .movedOut name => present.erase name
  | .renamed before after => insert after (present.erase before)

/-- The change has to do with a file of the name. -/
def Concerns (name : String) : DirectoryChange → Prop
  | .created other | .written other | .deleted other | .movedOut other | .movedIn other =>
    other = name
  | .renamed before after => before = name ∨ after = name

/-- The change renames the file of the name to something else. -/
def MovesAway (name : String) : DirectoryChange → Prop
  | .movedOut other | .renamed other _ => other = name
  | .created _ | .written _ | .deleted _ | .movedIn _ => False

/-- How the file system tells of a change. -/
inductive IsReportedAs (directory : Path) : DirectoryChange → List FileReport → Prop
  | created (name : String) :
    IsReportedAs directory (.created name) [⟨.create .file, [Path.join directory name]⟩]
  | written (name : String) :
    IsReportedAs directory (.written name) [⟨.modify .data, [Path.join directory name]⟩]
  | deleted (name : String) :
    IsReportedAs directory (.deleted name) [⟨.remove .file, [Path.join directory name]⟩]
  | movedOut (name : String) :
    IsReportedAs directory (.movedOut name) [⟨.modify (.name .from), [Path.join directory name]⟩]
  | movedIn (name : String) :
    IsReportedAs directory (.movedIn name) [⟨.modify (.name .to), [Path.join directory name]⟩]
  | ends (before after : String) :
    IsReportedAs directory (.renamed before after)
      [⟨.modify (.name .from), [Path.join directory before]⟩,
        ⟨.modify (.name .to), [Path.join directory after]⟩]
  | both (before after : String) :
    IsReportedAs directory (.renamed before after)
      [⟨.modify (.name .both), [Path.join directory before, Path.join directory after]⟩]
  | endsAndBoth (before after : String) :
    IsReportedAs directory (.renamed before after)
      [⟨.modify (.name .from), [Path.join directory before]⟩,
        ⟨.modify (.name .to), [Path.join directory after]⟩,
        ⟨.modify (.name .both), [Path.join directory before, Path.join directory after]⟩]

theorem mem_applyTo_of_not_concerns {change : DirectoryChange} {name : String}
    (h : ¬ change.Concerns name) (present : Finset String) :
    name ∈ change.applyTo present ↔ name ∈ present := by
  cases change with
  | created other | movedIn other =>
    have hne : name ≠ other := fun heq => h heq.symm
    rw [applyTo, Finset.mem_insert, or_iff_right hne]
  | written other => rfl
  | deleted other | movedOut other =>
    have hne : name ≠ other := fun heq => h heq.symm
    rw [applyTo, Finset.mem_erase, and_iff_right hne]
  | renamed before after =>
    have hbefore : name ≠ before := fun heq => h (.inl heq.symm)
    have hafter : name ≠ after := fun heq => h (.inr heq.symm)
    rw [applyTo, Finset.mem_insert, Finset.mem_erase, or_iff_right hafter, and_iff_right hbefore]

theorem isEntryName_of_concerns {change : DirectoryChange} {present : Finset String}
    (hcan : change.CanHappen present) (hpresent : ∀ name ∈ present, Path.IsEntryName name)
    {name : String} (h : change.Concerns name) : Path.IsEntryName name := by
  cases change with
  | created other | movedIn other => exact h ▸ hcan
  | written other | deleted other | movedOut other => exact h ▸ hpresent other hcan
  | renamed before after =>
    rcases h with hbefore | hafter
    · exact hbefore ▸ hpresent before hcan.1
    · exact hafter ▸ hcan.2.1

theorem notMem_applyTo_of_movesAway {change : DirectoryChange} {present : Finset String}
    {name : String} (hcan : change.CanHappen present) (h : change.MovesAway name) :
    name ∉ change.applyTo present := by
  cases change with
  | created | written | deleted | movedIn => exact h.elim
  | movedOut other =>
    cases h
    exact Finset.notMem_erase name present
  | renamed before after =>
    cases h
    rw [applyTo, Finset.mem_insert, not_or]
    exact ⟨hcan.2.2.symm, Finset.notMem_erase name present⟩

end DirectoryChange

/-- The last of the changes that concern the name has renamed its file to something else. -/
def IsLeftBehind (changes : List DirectoryChange) (name : String) : Prop :=
  ∃ before change after, changes = before ++ change :: after ∧ change.MovesAway name ∧
    ∀ later ∈ after, ¬ later.Concerns name

theorem not_isLeftBehind_nil (name : String) : ¬ IsLeftBehind [] name := by
  rintro ⟨before, change, after, hsplit, -⟩
  exact List.append_ne_nil_of_right_ne_nil before (List.cons_ne_nil _ _) hsplit.symm

theorem isLeftBehind_concat {changes : List DirectoryChange} {change : DirectoryChange}
    {name : String} :
    IsLeftBehind (changes ++ [change]) name ↔
      change.MovesAway name ∨ ¬ change.Concerns name ∧ IsLeftBehind changes name := by
  constructor
  · rintro ⟨before, moving, after, hsplit, hmoves, hlater⟩
    rcases List.eq_nil_or_concat after with rfl | ⟨between, last, rfl⟩
    · obtain ⟨-, hlast⟩ := List.append_inj' hsplit rfl
      rw [List.singleton_inj] at hlast
      exact .inl (hlast ▸ hmoves)
    · rw [List.concat_eq_append, ← List.cons_append, ← List.append_assoc] at hsplit
      obtain ⟨hchanges, hlast⟩ := List.append_inj' hsplit rfl
      rw [List.singleton_inj] at hlast
      rw [List.concat_eq_append, List.forall_mem_append, List.forall_mem_singleton, ← hlast]
        at hlater
      exact .inr ⟨hlater.2, before, moving, between, hchanges, hmoves, hlater.1⟩
  · rintro (hmoves | ⟨hother, before, moving, after, rfl, hmoves, hlater⟩)
    · exact ⟨changes, change, [], rfl, hmoves, nofun⟩
    · refine ⟨before, moving, after ++ [change], by simp, hmoves, ?_⟩
      rw [List.forall_mem_append, List.forall_mem_singleton]
      exact ⟨hlater, hother⟩

/-! ## Paths that are tracked -/

/-- The paths of the rule files among the files of a directory. -/
def ruleFilePaths (directory : Path) (names : Finset String) : Finset Path :=
  (names.image (Path.join directory)).filter fun path => isRuleFile path

/-- A set of paths after a change of a rule file. -/
def RuleFileChange.applyTo (tracked : Finset Path) : RuleFileChange → Finset Path
  | .upserted path => insert path tracked
  | .removed path => tracked.erase path

/-- A set of paths after a report. -/
def FileReport.applyTo (tracked : Finset Path) (report : FileReport) : Finset Path :=
  (RuleFileChange.ofEvent report.kind report.paths).foldl RuleFileChange.applyTo tracked

/-- A set of paths after reports. -/
def track (tracked : Finset Path) (reports : List FileReport) : Finset Path :=
  reports.foldl FileReport.applyTo tracked

theorem track_cons (tracked : Finset Path) (report : FileReport) (rest : List FileReport) :
    track tracked (report :: rest) = track (report.applyTo tracked) rest := rfl

theorem track_singleton (tracked : Finset Path) (report : FileReport) :
    track tracked [report] = report.applyTo tracked := rfl

theorem track_append (tracked : Finset Path) (reports more : List FileReport) :
    track tracked (reports ++ more) = track (track tracked reports) more :=
  List.foldl_append

theorem mem_ruleFilePaths {directory : Path} {names : Finset String} {path : Path} :
    path ∈ ruleFilePaths directory names ↔
      isRuleFile path = true ∧ ∃ name ∈ names, Path.join directory name = path := by
  rw [ruleFilePaths, Finset.mem_filter, Finset.mem_image, and_comm]

theorem RuleFileChange.mem_foldl_upserted (paths : List Path) (tracked : Finset Path)
    (path : Path) :
    path ∈ (paths.map upserted).foldl applyTo tracked ↔ path ∈ tracked ∨ path ∈ paths := by
  induction paths generalizing tracked with
  | nil => simp
  | cons first rest ih =>
    rw [List.map_cons, List.foldl_cons, ih, applyTo, Finset.mem_insert, List.mem_cons, or_assoc,
      or_left_comm]

/-- A report that something is there enters the rule files that it is about. -/
theorem FileReport.mem_applyTo_of_upserts {kind : FileEvent}
    (hkind : ∀ path, RuleFileChange.ofKind? kind path = some (.upserted path)) (paths : List Path)
    (tracked : Finset Path) (path : Path) :
    path ∈ applyTo tracked ⟨kind, paths⟩ ↔
      path ∈ tracked ∨ path ∈ paths ∧ isRuleFile path = true := by
  have hevent : RuleFileChange.ofEvent kind paths = (paths.filter isRuleFile).map .upserted := by
    rw [RuleFileChange.ofEvent, funext hkind]
    exact congrFun (List.filterMap_eq_map ..) _
  rw [applyTo, hevent, RuleFileChange.mem_foldl_upserted, List.mem_filter]

theorem FileReport.mem_applyTo_removed (tracked : Finset Path) (path other : Path) :
    path ∈ applyTo tracked ⟨.remove .file, [other]⟩ ↔
      path ∈ tracked ∧ ¬ (path = other ∧ isRuleFile path = true) := by
  cases hother : isRuleFile other with
  | true =>
    have hevent : RuleFileChange.ofEvent (.remove .file) [other] = [.removed other] := by
      simp [RuleFileChange.ofEvent, RuleFileChange.ofKind?, hother]
    rw [applyTo, hevent, List.foldl_cons, List.foldl_nil, RuleFileChange.applyTo, Finset.mem_erase,
      and_comm]
    refine and_congr_right fun _ => not_congr ⟨fun heq => ⟨heq, heq ▸ hother⟩, And.left⟩
  | false =>
    have hevent : RuleFileChange.ofEvent (.remove .file) [other] = [] := by
      simp [RuleFileChange.ofEvent, hother]
    rw [applyTo, hevent, List.foldl_nil, iff_self_and]
    rintro - ⟨rfl, hrule⟩
    exact Bool.false_ne_true (hother.symm.trans hrule)

/-- The set holds the paths of the rule files among those of the known names. -/
structure IsTracked (directory : Path) (known : String → Prop) (tracked : Finset Path) : Prop where
  isEntryName : ∀ name, known name → Path.IsEntryName name
  mem_iff : ∀ path, path ∈ tracked ↔
    isRuleFile path = true ∧ ∃ name, known name ∧ Path.join directory name = path

namespace IsTracked

variable {directory : Path} {known known' : String → Prop} {tracked : Finset Path}

theorem congr (h : IsTracked directory known tracked) (hknown : ∀ name, known' name ↔ known name) :
    IsTracked directory known' tracked := by
  rwa [funext fun name => propext (hknown name)]

/-- What is said to be there is known from then on. -/
theorem upsert (h : IsTracked directory known tracked) (kind : FileEvent)
    (hkind : ∀ path, RuleFileChange.ofKind? kind path = some (.upserted path)) {names : List String}
    (hnames : ∀ name ∈ names, Path.IsEntryName name) :
    IsTracked directory (fun name => known name ∨ name ∈ names)
      (FileReport.applyTo tracked ⟨kind, names.map (Path.join directory)⟩) := by
  refine ⟨fun name => ?_, fun path => ?_⟩
  · rintro (hknown | hmem)
    · exact h.isEntryName name hknown
    · exact hnames name hmem
  · rw [FileReport.mem_applyTo_of_upserts hkind, h.mem_iff, List.mem_map, and_comm (b := _ = true),
      ← and_or_left]
    simp only [or_and_right, exists_or]

/-- The same for several reports, one after another. -/
theorem upsertAll (h : IsTracked directory known tracked) (said : List (FileEvent × List String))
    (hkind : ∀ s ∈ said, ∀ path, RuleFileChange.ofKind? s.1 path = some (.upserted path))
    (hnames : ∀ name ∈ said.flatMap Prod.snd, Path.IsEntryName name) :
    IsTracked directory (fun name => known name ∨ name ∈ said.flatMap Prod.snd)
      (track tracked (said.map fun s => ⟨s.1, s.2.map (Path.join directory)⟩)) := by
  induction said generalizing known tracked with
  | nil => exact h.congr fun name => or_iff_left (List.not_mem_nil)
  | cons first rest ih =>
    obtain ⟨hfirst, hrest⟩ := List.forall_mem_cons.mp hkind
    rw [List.flatMap_cons, List.forall_mem_append] at hnames
    rw [List.map_cons, track_cons]
    refine (ih (h.upsert first.1 hfirst hnames.1) hrest hnames.2).congr fun name => ?_
    rw [List.flatMap_cons, List.mem_append, or_assoc]

/-- What is said to be gone is not known any more. -/
theorem remove (h : IsTracked directory known tracked) {name : String}
    (hname : Path.IsEntryName name) :
    IsTracked directory (fun other => known other ∧ other ≠ name)
      (FileReport.applyTo tracked ⟨.remove .file, [Path.join directory name]⟩) := by
  refine ⟨fun other hother => h.isEntryName other hother.1, fun path => ?_⟩
  rw [FileReport.mem_applyTo_removed, h.mem_iff]
  constructor
  · rintro ⟨⟨hrule, other, hknown, rfl⟩, hother⟩
    exact ⟨hrule, other, ⟨hknown, fun heq => hother ⟨heq ▸ rfl, hrule⟩⟩, rfl⟩
  · rintro ⟨hrule, other, ⟨hknown, hne⟩, rfl⟩
    refine ⟨⟨hrule, other, hknown, rfl⟩, fun hsame => hne ?_⟩
    exact (Path.join_inj directory (h.isEntryName other hknown) hname).mp hsame.1

end IsTracked

/-! ## One change -/

/-- The names that a set holds after changes: those of the files that are there, and those that
files were renamed away from. -/
def IsKnown (present : Finset String) (changes : List DirectoryChange) (name : String) : Prop :=
  name ∈ present ∨ IsLeftBehind changes name

/-- After a deletion its name is not known any more. -/
theorem isKnown_deleted {present : Finset String} {changes : List DirectoryChange}
    {deleted : String} (name : String) :
    IsKnown (DirectoryChange.applyTo present (.deleted deleted)) (changes ++ [.deleted deleted])
        name ↔
      IsKnown present changes name ∧ name ≠ deleted := by
  rw [IsKnown, IsKnown, isLeftBehind_concat, DirectoryChange.applyTo, Finset.mem_erase]
  simp only [DirectoryChange.MovesAway, DirectoryChange.Concerns, false_or, eq_comm (a := deleted)]
  tauto

/-- After any other change the names that it concerns are known. -/
theorem isKnown_concat {present : Finset String} {changes : List DirectoryChange}
    {change : DirectoryChange} (hcan : change.CanHappen present)
    (hkeeps : ∀ deleted, change ≠ .deleted deleted) (name : String) :
    IsKnown (change.applyTo present) (changes ++ [change]) name ↔
      IsKnown present changes name ∨ change.Concerns name := by
  rw [IsKnown, IsKnown, isLeftBehind_concat]
  by_cases hconcerns : change.Concerns name
  · rw [iff_true_right (.inr hconcerns)]
    cases change with
    | created other | movedIn other => exact .inl (hconcerns ▸ Finset.mem_insert_self other present)
    | written other => exact .inl (hconcerns ▸ hcan)
    | deleted other => exact absurd rfl (hkeeps other)
    | movedOut other => exact .inr (.inl hconcerns)
    | renamed before after =>
      rcases hconcerns with hbefore | hafter
      · exact .inr (.inl hbefore)
      · exact .inl (hafter ▸ Finset.mem_insert_self after _)
  · have hstays : ¬ change.MovesAway name := by
      cases change with
      | created | written | deleted | movedIn => exact id
      | movedOut other => exact hconcerns
      | renamed before after => exact fun hbefore => hconcerns (.inl hbefore)
    rw [DirectoryChange.mem_applyTo_of_not_concerns hconcerns, or_iff_right hstays,
      and_iff_right hconcerns, or_iff_left hconcerns]

/-- A change that is reported as arrivals of what it concerns leaves the known names in the set. -/
theorem IsTracked.step_of_arrivals {directory : Path} {present : Finset String}
    {changes : List DirectoryChange} {tracked : Finset Path} {change : DirectoryChange}
    (h : IsTracked directory (IsKnown present changes) tracked) (hcan : change.CanHappen present)
    (hkeeps : ∀ deleted, change ≠ .deleted deleted) (said : List (FileEvent × List String))
    (hkind : ∀ s ∈ said, ∀ path, RuleFileChange.ofKind? s.1 path = some (.upserted path))
    (hsaid : ∀ name, name ∈ said.flatMap Prod.snd ↔ change.Concerns name) :
    IsTracked directory (IsKnown (change.applyTo present) (changes ++ [change]))
      (track tracked (said.map fun s => ⟨s.1, s.2.map (Path.join directory)⟩)) := by
  have hpresent : ∀ name ∈ present, Path.IsEntryName name :=
    fun name hname => h.isEntryName name (.inl hname)
  have hnames : ∀ name ∈ said.flatMap Prod.snd, Path.IsEntryName name :=
    fun name hname => DirectoryChange.isEntryName_of_concerns hcan hpresent ((hsaid name).mp hname)
  refine (h.upsertAll said hkind hnames).congr fun name => ?_
  rw [isKnown_concat hcan hkeeps, hsaid]

/-- **One change leaves exactly the known names in the set**, however it is reported. -/
theorem IsTracked.step {directory : Path} {present : Finset String}
    {changes : List DirectoryChange} {tracked : Finset Path} {change : DirectoryChange}
    {reports : List FileReport} (h : IsTracked directory (IsKnown present changes) tracked)
    (hcan : change.CanHappen present) (hreported : change.IsReportedAs directory reports) :
    IsTracked directory (IsKnown (change.applyTo present) (changes ++ [change]))
      (track tracked reports) := by
  cases hreported with
  | created name =>
    exact h.step_of_arrivals hcan nofun [(.create .file, [name])]
      (by simp [RuleFileChange.ofKind?]) (by simp [DirectoryChange.Concerns, eq_comm])
  | written name =>
    exact h.step_of_arrivals hcan nofun [(.modify .data, [name])]
      (by simp [RuleFileChange.ofKind?]) (by simp [DirectoryChange.Concerns, eq_comm])
  | movedOut name =>
    exact h.step_of_arrivals hcan nofun [(.modify (.name .from), [name])]
      (by simp [RuleFileChange.ofKind?]) (by simp [DirectoryChange.Concerns, eq_comm])
  | movedIn name =>
    exact h.step_of_arrivals hcan nofun [(.modify (.name .to), [name])]
      (by simp [RuleFileChange.ofKind?]) (by simp [DirectoryChange.Concerns, eq_comm])
  | deleted name =>
    rw [track_singleton]
    exact (h.remove (h.isEntryName name (.inl hcan))).congr isKnown_deleted
  | ends before after =>
    exact h.step_of_arrivals hcan nofun
      [(.modify (.name .from), [before]), (.modify (.name .to), [after])]
      (by simp [RuleFileChange.ofKind?]) (by simp [DirectoryChange.Concerns, eq_comm])
  | both before after =>
    exact h.step_of_arrivals hcan nofun [(.modify (.name .both), [before, after])]
      (by simp [RuleFileChange.ofKind?]) (by simp [DirectoryChange.Concerns, eq_comm])
  | endsAndBoth before after =>
    exact h.step_of_arrivals hcan nofun
      [(.modify (.name .from), [before]), (.modify (.name .to), [after]),
        (.modify (.name .both), [before, after])]
      (by simp [RuleFileChange.ofKind?]) fun name => by
        simp only [List.flatMap_cons, List.flatMap_nil, List.mem_append, List.mem_pair,
          List.mem_singleton, List.not_mem_nil, DirectoryChange.Concerns, eq_comm (b := name)]
        tauto

/-! ## Runs of changes -/

/-- A run: changes with the reports about them, from the files of a directory at its beginning to
those at its end. -/
inductive IsWatched (directory : Path) (start : Finset String) :
    List (DirectoryChange × List FileReport) → Finset String → Prop
  | start : IsWatched directory start [] start
  | step {run : List (DirectoryChange × List FileReport)} {present : Finset String}
    {change : DirectoryChange} {reports : List FileReport}
    (hrun : IsWatched directory start run present) (hcan : change.CanHappen present)
    (hreported : change.IsReportedAs directory reports) :
    IsWatched directory start (run ++ [(change, reports)]) (change.applyTo present)

namespace IsWatched

variable {directory : Path} {start present : Finset String}
  {run : List (DirectoryChange × List FileReport)}

/-- **After any run exactly the known names are in the set.** -/
theorem isTracked (h : IsWatched directory start run present)
    (hstart : ∀ name ∈ start, Path.IsEntryName name) :
    IsTracked directory (IsKnown present (run.map Prod.fst))
      (track (ruleFilePaths directory start) (run.flatMap Prod.snd)) := by
  induction h with
  | start =>
    have hbefore : IsTracked directory (· ∈ start) (ruleFilePaths directory start) :=
      ⟨hstart, fun path => mem_ruleFilePaths⟩
    exact hbefore.congr fun name => or_iff_left (not_isLeftBehind_nil name)
  | step _ hcan hreported ih =>
    rw [List.map_append, List.flatMap_append, track_append, List.flatMap_singleton]
    exact ih.step hcan hreported

/-- A file that was renamed to something else is not there. -/
theorem notMem_of_isLeftBehind (h : IsWatched directory start run present) {name : String}
    (hleft : IsLeftBehind (run.map Prod.fst) name) : name ∉ present := by
  induction h with
  | start => exact absurd hleft (not_isLeftBehind_nil name)
  | step _ hcan _ ih =>
    rw [List.map_append, List.map_singleton, isLeftBehind_concat] at hleft
    rcases hleft with hmoves | ⟨hother, hleft⟩
    · exact DirectoryChange.notMem_applyTo_of_movesAway hcan hmoves
    · rw [DirectoryChange.mem_applyTo_of_not_concerns hother]
      exact ih hleft

end IsWatched

/-- **What is tracked.**  After any run of changes, the set holds the paths of the rule files that
are there, and besides them only the paths of those that were renamed to something else and that no
later change concerns.  So the set is right exactly if no rule file was renamed away for good. -/
theorem mem_tracked_iff {directory : Path} {start present : Finset String}
    {run : List (DirectoryChange × List FileReport)}
    (hstart : ∀ name ∈ start, Path.IsEntryName name)
    (h : IsWatched directory start run present) :
    (∀ path, path ∈ track (ruleFilePaths directory start) (run.flatMap Prod.snd) ↔
      path ∈ ruleFilePaths directory present ∨
        isRuleFile path = true ∧
          ∃ name, IsLeftBehind (run.map Prod.fst) name ∧ Path.join directory name = path) ∧
      (track (ruleFilePaths directory start) (run.flatMap Prod.snd) =
          ruleFilePaths directory present ↔
        ∀ name, IsLeftBehind (run.map Prod.fst) name →
          isRuleFile (Path.join directory name) = false) := by
  have htracked := h.isTracked hstart
  have hmem : ∀ path, path ∈ track (ruleFilePaths directory start) (run.flatMap Prod.snd) ↔
      path ∈ ruleFilePaths directory present ∨
        isRuleFile path = true ∧
          ∃ name, IsLeftBehind (run.map Prod.fst) name ∧ Path.join directory name = path := by
    intro path
    rw [htracked.mem_iff, mem_ruleFilePaths, ← and_or_left]
    simp only [IsKnown, or_and_right, exists_or]
  refine ⟨hmem, fun heq name hleft => ?_, fun hnone => Finset.ext fun path => ?_⟩
  · by_contra hrule
    rw [Bool.not_eq_false] at hrule
    have hthere : Path.join directory name ∈ ruleFilePaths directory present := by
      rw [← heq, hmem]
      exact .inr ⟨hrule, name, hleft, rfl⟩
    obtain ⟨-, other, hother, hjoin⟩ := mem_ruleFilePaths.mp hthere
    have hsame : other = name := (Path.join_inj directory
      (htracked.isEntryName other (.inl hother)) (htracked.isEntryName name (.inr hleft))).mp hjoin
    exact h.notMem_of_isLeftBehind hleft (hsame ▸ hother)
  · rw [hmem, or_iff_left]
    rintro ⟨hrule, name, hleft, rfl⟩
    exact Bool.false_ne_true ((hnone name hleft).symm.trans hrule)

/-- A file is created, renamed within the directory and deleted, a file is renamed to a place in the
directory, and the first one to a place outside. -/
def shuffled : List (DirectoryChange × List FileReport) :=
  [(.created "b.yml", [⟨.create .file, ["rules/b.yml"]⟩]),
    (.renamed "b.yml" "c.json", [⟨.modify (.name .from), ["rules/b.yml"]⟩,
      ⟨.modify (.name .to), ["rules/c.json"]⟩]),
    (.deleted "c.json", [⟨.remove .file, ["rules/c.json"]⟩]),
    (.movedIn "d.yaml", [⟨.modify (.name .to), ["rules/d.yaml"]⟩]),
    (.movedOut "a.yml", [⟨.modify (.name .from), ["rules/a.yml"]⟩])]

theorem isWatched_shuffled : IsWatched "rules" {"a.yml"} shuffled {"d.yaml"} := by
  have hcreated : IsWatched "rules" {"a.yml"} _ _ :=
    IsWatched.start.step (by decide) (.created "b.yml")
  have hrenamed := hcreated.step (by decide) (.ends "b.yml" "c.json")
  have hdeleted := hrenamed.step (by decide) (.deleted "c.json")
  have hmovedIn := hdeleted.step (by decide) (.movedIn "d.yaml")
  have hmovedOut := hmovedIn.step (by decide) (.movedOut "a.yml")
  exact hmovedOut

theorem shuffled_mem_tracked :
    (∀ name ∈ ({"a.yml"} : Finset String), Path.IsEntryName name) ∧
      IsWatched "rules" {"a.yml"} shuffled {"d.yaml"} ∧
      ("rules/d.yaml" ∈ track (ruleFilePaths "rules" {"a.yml"}) (shuffled.flatMap Prod.snd)) ∧
      ("rules/c.json" ∉ track (ruleFilePaths "rules" {"a.yml"}) (shuffled.flatMap Prod.snd)) ∧
      ∃ name, IsLeftBehind (shuffled.map Prod.fst) name ∧
        isRuleFile (Path.join "rules" name) = true := by
  have hstart : ∀ name ∈ ({"a.yml"} : Finset String), Path.IsEntryName name := by decide
  have hmem := mem_tracked_iff hstart isWatched_shuffled
  refine ⟨hstart, isWatched_shuffled, (hmem.1 _).mpr (.inl (by decide)), ?_, ?_⟩
  · decide
  · by_contra hnone
    have hright := hmem.2.mpr fun name hleft => by
      rw [← Bool.not_eq_true]
      exact fun hrule => hnone ⟨name, hleft, hrule⟩
    exact absurd hright (by decide)

/-- A rule file that was renamed to a place outside is not there, and its path is still held. -/
theorem movedOut_tracked :
    IsWatched "rules" {"a.yml"}
        [(.movedOut "a.yml", [⟨.modify (.name .from), ["rules/a.yml"]⟩])] ∅ ∧
      "rules/a.yml" ∉ ruleFilePaths "rules" ∅ ∧
      "rules/a.yml" ∈ track (ruleFilePaths "rules" {"a.yml"})
        [⟨.modify (.name .from), ["rules/a.yml"]⟩] := by
  refine ⟨?_, by decide, by decide⟩
  exact IsWatched.start.step (by decide) (.movedOut "a.yml")

end LintRules
