import LintRules.Proofs.DirectoryScan
import Mathlib.Data.List.TakeWhile
import Mathlib.Logic.Function.Basic

/-!
# What a rule file is called

A rule file is told from other files by its name alone, and the name is the last part of its path,
in whichever way the path of the directory is written.  So those who scan a directory and those who
are told what happens in it mean the same files.

* `Path.splitName_eq_iff`: a name is cut at its last dot.
* `IsRuleFileName`: the names of rule files, as a rule about names.  `isRuleFile_iff` and
  `isRuleFile_join` say that a path names a rule file exactly if its last part is such a name.
* `RuleDirectory.scan_withText`: a file with another name does not count, whatever it holds.
* `RuleFileChange.ofEvent_eq_flatMap`: a report about several paths is read path by path.
* `RuleDirectory.scan_agrees_with_report`: the files of a directory that a scan accounts for, and
  those whose creation is reported as a change.
-/

namespace LintRules

/-! ## The last dot of a name -/

namespace Path

theorem splitName_append {stem extension : List Char} (hstem : stem ≠ [])
    (hextension : '.' ∉ extension) :
    splitName (stem ++ '.' :: extension) = (stem, some extension) := by
  have hafter : ∀ c ∈ extension.reverse, (c != '.') = true := by
    intro c hc
    rw [bne_iff_ne]
    exact fun hdot => hextension (hdot ▸ List.mem_reverse.mp hc)
  have hreverse : (stem ++ '.' :: extension).reverse =
      extension.reverse ++ '.' :: stem.reverse := by
    simp
  obtain ⟨c, before, hbefore⟩ := List.exists_cons_of_ne_nil (List.reverse_ne_nil_iff.mpr hstem)
  rw [splitName, hreverse, List.takeWhile_append_of_pos hafter,
    List.dropWhile_append_of_pos hafter, List.takeWhile_cons_of_neg (by decide),
    List.dropWhile_cons_of_neg (by decide), hbefore, List.append_nil]
  show ((c :: before).reverse, some extension.reverse.reverse) = (stem, some extension)
  rw [← hbefore, List.reverse_reverse, List.reverse_reverse]

theorem of_splitName_eq {name stem extension : List Char}
    (h : splitName name = (stem, some extension)) :
    stem ≠ [] ∧ '.' ∉ extension ∧ name = stem ++ '.' :: extension := by
  have hparts : name.reverse.takeWhile (· != '.') ++ name.reverse.dropWhile (· != '.') =
      name.reverse := List.takeWhile_append_dropWhile
  have hafter : '.' ∉ name.reverse.takeWhile (· != '.') := fun hdot =>
    Bool.false_ne_true (List.mem_takeWhile_imp (p := (· != '.')) hdot)
  have hstop := List.head?_dropWhile_not (· != '.') name.reverse
  rw [splitName] at h
  generalize name.reverse.takeWhile (· != '.') = after at h hparts hafter
  -- there is no dot, it is the first character, or something stands before it
  rcases hbefore : name.reverse.dropWhile (· != '.') with _ | ⟨dot, _ | ⟨c, before⟩⟩
  · rw [hbefore] at h
    cases h
  · rw [hbefore] at h
    cases h
  · rw [hbefore] at h hparts hstop
    cases h
    have hdot : dot = '.' := by simpa using hstop
    refine ⟨by simp, fun hmem => hafter (List.mem_reverse.mp hmem), ?_⟩
    rw [← List.reverse_inj, ← hparts, hdot]
    simp

/-- **A name is cut at its last dot**, unless this is its first character. -/
theorem splitName_eq_iff {name stem extension : String} :
    splitName name.toList = (stem.toList, some extension.toList) ↔
      stem ≠ "" ∧ '.' ∉ extension.toList ∧ name = stem ++ "." ++ extension := by
  have hname : name = stem ++ "." ++ extension ↔
      name.toList = stem.toList ++ '.' :: extension.toList := by
    rw [← String.toList_inj, String.toList_append, String.toList_append, List.append_assoc]
    rfl
  have hstem : stem ≠ "" ↔ stem.toList ≠ [] := not_congr String.toList_inj.symm
  rw [hname, hstem]
  constructor
  · exact of_splitName_eq
  · rintro ⟨hne, hdot, htext⟩
    rw [htext, splitName_append hne hdot]

theorem join_empty (name : Path) : join "" name = name := by
  rw [join]
  split
  · rfl
  · exact if_pos rfl

/-- The last part of a name is the name. -/
theorem fileName?_of_isEntryName {name : String} (h : IsEntryName name) :
    fileName? name = some name.toList := by
  have hjoin := fileName?_join "" h
  rwa [join_empty] at hjoin

end Path

/-! ## The names of rule files -/

/-- The name of a rule file: a stem, the last dot and one of three extensions.  The name does not
begin with a dot. -/
structure IsRuleFileName (name : String) : Prop where
  visible : name.toList.head? ≠ some '.'
  parts : ∃ stem extension : String, stem ≠ "" ∧ extension ∈ ["yml", "yaml", "json"] ∧
    '.' ∉ extension.toList ∧ name = stem ++ "." ++ extension

theorem isRuleFile_of_fileName? {path : Path} {name : List Char}
    (h : Path.fileName? path = some name) :
    isRuleFile path = (name.head? != some '.' &&
      ((Path.splitName name).2.map String.ofList).any ruleFileExtensions.contains) := by
  rw [isRuleFile, Path.extension?, h]
  rfl

/-- **The directory does not count**, nor how its path is written. -/
theorem isRuleFile_join {name : String} (directory : Path) (h : Path.IsEntryName name) :
    isRuleFile (Path.join directory name) = isRuleFile name := by
  rw [isRuleFile_of_fileName? (Path.fileName?_join directory h),
    isRuleFile_of_fileName? (Path.fileName?_of_isEntryName h)]

/-- **Rule files are told by their names.** -/
theorem isRuleFile_iff {name : String} (h : Path.IsEntryName name) :
    isRuleFile name = true ↔ IsRuleFileName name := by
  rw [isRuleFile_of_fileName? (Path.fileName?_of_isEntryName h), Bool.and_eq_true, bne_iff_ne]
  constructor
  · rintro ⟨hvisible, hknown⟩
    rcases hsplit : Path.splitName name.toList with ⟨stem, _ | extension⟩
    · rw [hsplit] at hknown
      cases hknown
    · have hparts : Path.splitName name.toList =
          ((String.ofList stem).toList, some (String.ofList extension).toList) := by
        rw [hsplit, String.toList_ofList, String.toList_ofList]
      obtain ⟨hstem, hdot, hname⟩ := Path.splitName_eq_iff.mp hparts
      rw [hsplit] at hknown
      exact ⟨hvisible, _, _, hstem, List.contains_iff_mem.mp hknown, hdot, hname⟩
  · rintro ⟨hvisible, stem, extension, hstem, hmem, hdot, hname⟩
    refine ⟨hvisible, ?_⟩
    rw [Path.splitName_eq_iff.mpr ⟨hstem, hdot, hname⟩]
    show ruleFileExtensions.contains (String.ofList extension.toList) = true
    rw [String.ofList_toList]
    exact List.contains_iff_mem.mpr hmem

/-! ## Reports -/

namespace RuleFileChange

theorem ofEvent_singleton {path : Path} (h : isRuleFile path = true) (kind : FileEvent) :
    ofEvent kind [path] = (ofKind? kind path).toList := by
  rw [ofEvent, List.filter_cons_of_pos h, List.filter_nil, List.filterMap_cons]
  cases ofKind? kind path <;> rfl

/-- **A report is read path by path**, and only the paths of rule files count. -/
theorem ofEvent_eq_flatMap (kind : FileEvent) (paths : List Path) :
    ofEvent kind paths =
      (paths.filter fun path => isRuleFile path).flatMap fun path => ofEvent kind [path] := by
  rw [ofEvent, List.filterMap_eq_flatMap_toList]
  refine List.flatMap_congr fun path hpath => ?_
  exact (ofEvent_singleton (List.mem_filter.mp hpath).2 kind).symm

theorem path_of_ofKind? {kind : FileEvent} {path : Path} {change : RuleFileChange}
    (h : ofKind? kind path = some change) : change.path = path := by
  unfold ofKind? at h
  split at h <;> cases h <;> rfl

/-- A report about one path says what became of this path. -/
theorem path_of_mem_ofEvent {kind : FileEvent} {path : Path} {change : RuleFileChange}
    (h : change ∈ ofEvent kind [path]) : change.path = path := by
  obtain ⟨other, hother, hchange⟩ := List.mem_filterMap.mp h
  have hsame : other = path := List.mem_singleton.mp (List.mem_filter.mp hother).1
  exact (path_of_ofKind? hchange).trans hsame

/-- **The creation of a file is one change if the file is a rule file**, and none if it is not. -/
theorem length_ofEvent_created {path : Path} :
    (ofEvent (.create .file) [path]).length = 1 ↔ isRuleFile path = true := by
  by_cases h : isRuleFile path = true
  · rw [ofEvent_singleton h]
    exact iff_of_true rfl h
  · rw [ofEvent, List.filter_cons_of_neg h]
    exact iff_of_false nofun h

end RuleFileChange

/-! ## Scans -/

/-- The file system with another text in one file. -/
def Files.withText (files : Files) (path : Path) (text : Except FileError String) : Files :=
  { files with text := Function.update files.text path text }

namespace RuleDirectory

variable {files : Files} {directory : Path} {names : List String}

/-- **Files of other names do not count.** -/
theorem scan_withText (hnames : files.names directory = .ok names) (hlisting : IsListing names)
    {path : Path} (h : isRuleFile path = false) (text : Except FileError String) :
    scan (files.withText path text) directory = scan files directory := by
  have hnames' : (files.withText path text).names directory = .ok names := hnames
  have hsorted : ruleFileNames (files.withText path text) directory names =
      ruleFileNames files directory names := rfl
  rw [scan_eq_ok hnames', scan_eq_ok hnames, hsorted]
  refine congrArg Except.ok (scanned_congr hlisting (fun name _ heligible _ => ?_)
    (List.append_nil _))
  have hother : Path.join directory name ≠ path := fun hsame =>
    Bool.false_ne_true (h.symm.trans (hsame ▸ heligible.2))
  exact Function.update_of_ne hother text files.text

/-- **A scan and a report mean the same files.**  An entry of a directory is a rule file by its
name, in whichever way the path of the directory is written.  A scan makes a rule or a failure of
every file with such a name, of each once, and of no other file, so that it does not matter what the
others hold.  The report that a file was created is one change exactly if the file has such a name.
A report about several paths is made of the changes of the rule files among them, in their order. -/
theorem scan_agrees_with_report (files : Files) (directory : Path) :
    (∀ name, Path.IsEntryName name →
      isRuleFile (Path.join directory name) = isRuleFile name ∧
        (isRuleFile name = true ↔ IsRuleFileName name) ∧
        ((RuleFileChange.ofEvent (.create .file) [Path.join directory name]).length = 1 ↔
          IsRuleFileName name)) ∧
      (∀ names, files.names directory = .ok names → IsListing names →
        ∃ result done accepted failed, scan files directory = .ok result ∧ done.Nodup ∧
          Accounts files directory names done result accepted failed ∧
          ∀ name ∈ names, files.isFile (Path.join directory name) = true →
            (name ∈ accepted ∨ name ∈ failed ↔ IsRuleFileName name) ∧
              (¬ IsRuleFileName name → ∀ text,
                scan (files.withText (Path.join directory name) text) directory = .ok result)) ∧
      ∀ kind,
        (∀ paths, RuleFileChange.ofEvent kind paths =
          (paths.filter fun path => isRuleFile path).flatMap fun path =>
            RuleFileChange.ofEvent kind [path]) ∧
        ∀ path, ∀ change ∈ RuleFileChange.ofEvent kind [path], change.path = path := by
  refine ⟨fun name hname => ?_, fun names hnames hlisting => ?_, fun kind => ?_⟩
  · have hjoin := isRuleFile_join directory hname
    have hiff := isRuleFile_iff hname
    exact ⟨hjoin, hiff, by rw [RuleFileChange.length_ofEvent_created, hjoin, hiff]⟩
  · obtain ⟨accepted, failed, haccounts⟩ := exists_accounts hlisting
      (List.append_nil (ruleFileNames files directory names))
    refine ⟨_, _, accepted, failed, scan_eq_ok hnames,
      (pairwise_ruleFileNames hlisting.nodup).imp ne_of_lt, haccounts, fun name hmem hfile => ?_⟩
    have hname := hlisting.isEntryName name hmem
    have hiff : isRuleFile (Path.join directory name) = true ↔ IsRuleFileName name := by
      rw [isRuleFile_join directory hname, isRuleFile_iff hname]
    refine ⟨?_, fun hother text => ?_⟩
    · rw [← haccounts.split.mem_iff, mem_ruleFileNames, and_iff_right hmem, Eligible,
        and_iff_right hfile, hiff]
    · have hno : isRuleFile (Path.join directory name) = false :=
        Bool.eq_false_iff.mpr fun hrule => hother (hiff.mp hrule)
      rw [scan_withText hnames hlisting hno, scan_eq_ok hnames]
  · exact ⟨RuleFileChange.ofEvent_eq_flatMap kind,
      fun path change => RuleFileChange.path_of_mem_ofEvent⟩

/-- Of two files with the extension of a rule file the one that begins with a dot does not count. -/
theorem mixed_agrees_with_report :
    ∃ (result : DirectoryScan) (accepted failed : List String),
      scan mixed "./rules/" = .ok result ∧
      ("a.yaml" ∈ accepted ∨ "a.yaml" ∈ failed) ∧
      ¬ (".hidden.yml" ∈ accepted ∨ ".hidden.yml" ∈ failed) ∧
      scan (mixed.withText "./rules/.hidden.yml" (.ok "kind: ")) "./rules/" = .ok result ∧
      (RuleFileChange.ofEvent (.create .file) ["./rules/a.yaml"]).length = 1 ∧
      (RuleFileChange.ofEvent (.create .file) ["./rules/.hidden.yml"]).length ≠ 1 := by
  obtain ⟨hnames, hscan, -⟩ := scan_agrees_with_report mixed "./rules/"
  have hrule : IsRuleFileName "a.yaml" :=
    ⟨by decide, "a", "yaml", by decide, by decide, by decide, by decide⟩
  have hhidden : ¬ IsRuleFileName ".hidden.yml" := fun h => h.visible (by decide)
  obtain ⟨result, done, accepted, failed, hok, -, -, hall⟩ :=
    hscan mixedNames rfl (by decide)
  have hfirst := hall "a.yaml" (by decide) (by decide)
  have hsecond := hall ".hidden.yml" (by decide) (by decide)
  exact ⟨result, accepted, failed, hok, hfirst.1.mpr hrule,
    fun h => hhidden (hsecond.1.mp h), hsecond.2 hhidden _,
    (hnames "a.yaml" (by decide)).2.2.mpr hrule,
    fun h => hhidden ((hnames ".hidden.yml" (by decide)).2.2.mp h)⟩

end RuleDirectory
end LintRules
