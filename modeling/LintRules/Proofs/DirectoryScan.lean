import LintRules.Files.Tree
import LintRules.Proofs.Interleaving
import LintRules.Proofs.Path
import LintRules.Proofs.Table
import LintRules.RuleDirectory
import Mathlib.Data.List.Sort
import Mathlib.Data.String.Basic

/-!
# What becomes of the files of a directory

A scan takes the rule files of a directory in the order of their names.  A file becomes the rule of
its name, or it is a failure; it is the rule if it holds one and no file before it with the same
rule name does.  What holds no rule is in nobody's way.

* `RuleDirectory.HoldsRule`, `RuleDirectory.IsBroken`: what a file holds.  Every file does exactly
  one of the two, by `RuleDirectory.loadFile_eq_ok_iff` and `RuleDirectory.loadFile_eq_error_iff`.
* `RuleDirectory.Becomes`: what becomes of a file, told from the files before it.
* `RuleDirectory.Accounts`: the rules and failures of a scan that has come to some file, kept by one
  more file in `RuleDirectory.Accounts.step`.
* `RuleDirectory.scan_accounts`: a whole scan.
-/

namespace LintRules
namespace RuleDirectory

/-! ## What a file holds -/

/-- The name of the rule in a file: the name of the file without its extension. -/
def ruleName (name : String) : String := String.ofList (Path.splitName name.toList).1

/-- The names of the entries of a directory, in any order. -/
structure IsListing (names : List String) : Prop where
  nodup : names.Nodup
  isEntryName : ∀ name ∈ names, Path.IsEntryName name

instance (names : List String) : Decidable (IsListing names) :=
  decidable_of_iff (names.Nodup ∧ ∀ name ∈ names, Path.IsEntryName name)
    ⟨fun ⟨hnodup, hname⟩ => ⟨hnodup, hname⟩, fun h => ⟨h.nodup, h.isEntryName⟩⟩

variable (files : Files) (directory : Path)

/-- A rule file: a regular file in the directory with the name of a rule file. -/
def Eligible (name : String) : Prop :=
  files.isFile (Path.join directory name) = true ∧ isRuleFile (Path.join directory name) = true

instance (name : String) : Decidable (Eligible files directory name) :=
  inferInstanceAs (Decidable (_ ∧ _))

/-- The file can be read, it is a manifest of a rule, and the rule can be made. -/
inductive HoldsRule (name : String) (handler : Handler) : Prop
  | intro {text : String} {manifest : Manifest}
      (htext : files.text (Path.join directory name) = .ok text)
      (hmanifest : Manifest.ofText text = .ok manifest) (hkind : manifest.kind = .rule)
      (hmodule : manifest.toModule (ruleName name) = .ok (.rule handler))

/-- What is wrong with a file that holds no rule. -/
inductive IsBroken (name : String) : LoadError → Prop
  | unread {why : FileError} (htext : files.text (Path.join directory name) = .error why) :
      IsBroken name (.file (Path.join directory name) why)
  | malformed {text : String} {why : Yaml.Unreadable}
      (htext : files.text (Path.join directory name) = .ok text)
      (hmanifest : Manifest.ofText text = .error why) :
      IsBroken name (.unreadable (Path.join directory name) why)
  | otherKind {text : String} {manifest : Manifest}
      (htext : files.text (Path.join directory name) = .ok text)
      (hmanifest : Manifest.ofText text = .ok manifest) (hkind : manifest.kind ≠ .rule) :
      IsBroken name (.unexpectedExport (ruleName name) .rule)
  | faulty {text : String} {manifest : Manifest} {e : LoadError}
      (htext : files.text (Path.join directory name) = .ok text)
      (hmanifest : Manifest.ofText text = .ok manifest) (hkind : manifest.kind = .rule)
      (hmodule : manifest.toModule (ruleName name) = .error e) : IsBroken name e

variable {files directory}

/-- A manifest of a rule makes nothing but a rule. -/
theorem exists_handler_of_toModule {manifest : Manifest} {package : String} {module : Module}
    (hkind : manifest.kind = .rule) (h : manifest.toModule package = .ok module) :
    ∃ handler, module = .rule handler := by
  rw [Manifest.toModule, hkind] at h
  simp only at h
  split at h
  · cases h
  · rcases hhandler : TermRule.toHandler package ⟨manifest.description, manifest.terms⟩ with
      e | handler
    · rw [hhandler] at h
      cases h
    · rw [hhandler] at h
      exact ⟨handler, (Except.ok.inj h).symm⟩

theorem loadFile_of_holdsRule {name : String} {handler : Handler}
    (h : HoldsRule files directory name handler) :
    loadFile files (Path.join directory name) (ruleName name) = .ok handler := by
  obtain ⟨htext, hmanifest, hkind, hmodule⟩ := h
  rw [loadFile, Manifest.ofFile, htext]
  simp only [hmanifest, hkind, hmodule, bind, Except.bind, ne_eq, not_true_eq_false, if_false,
    Module.toRule]

theorem loadFile_of_isBroken {name : String} {e : LoadError}
    (h : IsBroken files directory name e) :
    loadFile files (Path.join directory name) (ruleName name) = .error e := by
  cases h with
  | unread htext =>
    rw [loadFile, Manifest.ofFile, htext]
    rfl
  | malformed htext hmanifest =>
    rw [loadFile, Manifest.ofFile, htext]
    simp only [hmanifest, bind, Except.bind]
  | otherKind htext hmanifest hkind =>
    rw [loadFile, Manifest.ofFile, htext]
    simp only [hmanifest, bind, Except.bind, ne_eq, hkind, not_false_eq_true, if_true]
  | faulty htext hmanifest hkind hmodule =>
    rw [loadFile, Manifest.ofFile, htext]
    simp only [hmanifest, hkind, hmodule, bind, Except.bind, ne_eq, not_true_eq_false, if_false]

theorem holdsRule_or_isBroken (files : Files) (directory : Path) (name : String) :
    (∃ handler, HoldsRule files directory name handler) ∨
      ∃ e, IsBroken files directory name e := by
  rcases htext : files.text (Path.join directory name) with why | text
  · exact Or.inr ⟨_, .unread htext⟩
  · rcases hmanifest : Manifest.ofText text with why | manifest
    · exact Or.inr ⟨_, .malformed htext hmanifest⟩
    · by_cases hkind : manifest.kind = .rule
      · rcases hmodule : manifest.toModule (ruleName name) with e | module
        · exact Or.inr ⟨e, .faulty htext hmanifest hkind hmodule⟩
        · obtain ⟨handler, rfl⟩ := exists_handler_of_toModule hkind hmodule
          exact Or.inl ⟨handler, .intro htext hmanifest hkind hmodule⟩
      · exact Or.inr ⟨_, .otherKind htext hmanifest hkind⟩

theorem loadFile_eq_ok_iff {name : String} {handler : Handler} :
    loadFile files (Path.join directory name) (ruleName name) = .ok handler ↔
      HoldsRule files directory name handler := by
  refine ⟨fun h => ?_, loadFile_of_holdsRule⟩
  rcases holdsRule_or_isBroken files directory name with ⟨handler', hholds⟩ | ⟨e, hbroken⟩
  · rw [loadFile_of_holdsRule hholds] at h
    rwa [← Except.ok.inj h]
  · rw [loadFile_of_isBroken hbroken] at h
    cases h

theorem loadFile_eq_error_iff {name : String} {e : LoadError} :
    loadFile files (Path.join directory name) (ruleName name) = .error e ↔
      IsBroken files directory name e := by
  refine ⟨fun h => ?_, loadFile_of_isBroken⟩
  rcases holdsRule_or_isBroken files directory name with ⟨handler, hholds⟩ | ⟨e', hbroken⟩
  · rw [loadFile_of_holdsRule hholds] at h
    cases h
  · rw [loadFile_of_isBroken hbroken] at h
    rwa [← Except.error.inj h]

/-- A file is loaded from its text and from nothing else. -/
theorem loadFile_congr {files' : Files} {path : Path} (h : files'.text path = files.text path)
    (rule : String) : loadFile files' path rule = loadFile files path rule := by
  rw [loadFile, loadFile, Manifest.ofFile, Manifest.ofFile, h]

/-! ## What becomes of a file -/

variable (files directory)

/-- A rule file with an earlier name holds a rule of the same name. -/
def Shadowed (names : List String) (name : String) : Prop :=
  ∃ earlier ∈ names, Eligible files directory earlier ∧ earlier < name ∧
    ruleName earlier = ruleName name ∧ ∃ handler, HoldsRule files directory earlier handler

/-- What becomes of a rule file. -/
inductive Becomes (names : List String) (name : String) : Except LoadError Handler → Prop
  /-- The first file that holds a rule of its name is the rule. -/
  | rule {handler : Handler} (hfirst : ¬ Shadowed files directory names name)
      (hholds : HoldsRule files directory name handler) : Becomes names name (.ok handler)
  /-- A broken file before it is a failure. -/
  | broken {e : LoadError} (hfirst : ¬ Shadowed files directory names name)
      (hbroken : IsBroken files directory name e) : Becomes names name (.error e)
  /-- Any file after it is a failure. -/
  | duplicate (hlater : Shadowed files directory names name) :
      Becomes names name
        (.error (.invalidModule (ruleName name) (.duplicateRule (ruleName name) directory)))

/-- The names of the rule files, in order. -/
def ruleFileNames (names : List String) : List String :=
  (sortNames names).filter fun name =>
    files.isFile (Path.join directory name) && isRuleFile (Path.join directory name)

variable {files directory}

theorem ruleFiles_eq_map (names : List String) :
    ruleFiles files directory names =
      (ruleFileNames files directory names).map (Path.join directory) := by
  rw [ruleFiles, ruleFileNames, List.filter_map]
  rfl

theorem mem_ruleFileNames {names : List String} {name : String} :
    name ∈ ruleFileNames files directory names ↔
      name ∈ names ∧ Eligible files directory name := by
  rw [ruleFileNames, List.mem_filter, Bool.and_eq_true, sortNames,
    (List.mergeSort_perm names _).mem_iff]
  rfl

/-- The names of the rule files stand in strict order. -/
theorem pairwise_ruleFileNames {names : List String} (h : names.Nodup) :
    (ruleFileNames files directory names).Pairwise (· < ·) := by
  have hle : (sortNames names).Pairwise (· ≤ ·) := by
    have hsorted : (sortNames names).Pairwise fun a b => (!decide (b < a)) = true := by
      refine List.pairwise_mergeSort (fun a b c hab hbc => ?_) (fun a b => ?_) names
      · simp only [Bool.not_eq_true', decide_eq_false_iff_not, not_lt] at hab hbc ⊢
        exact hab.trans hbc
      · simp only [Bool.or_eq_true, Bool.not_eq_true', decide_eq_false_iff_not, not_lt]
        exact le_total a b
    refine hsorted.imp fun hab => ?_
    simpa only [Bool.not_eq_true', decide_eq_false_iff_not, not_lt] using hab
  have hnodup : (sortNames names).Nodup := (List.mergeSort_perm names _).nodup_iff.mpr h
  refine List.Pairwise.filter _ ?_
  exact hle.imp₂ (fun a b hab hne => lt_of_le_of_ne hab hne) hnodup

/-! ## One file after another -/

variable {names : List String}

theorem enter_of_loadNew {result : DirectoryScan} {name : String} (hname : Path.IsEntryName name) :
    enter files directory result (Path.join directory name) =
      match loadNew files directory result.rules (Path.join directory name) (ruleName name) with
      | .ok handler => { result with rules := result.rules.insert (ruleName name) handler }
      | .error error =>
        { result with failures := result.failures ++ [⟨Path.join directory name, error⟩] } := by
  rw [enter, Path.stem?_join directory hname]
  rfl

/-- A scan that has come to the end of `done`: `accepted` are the files that have become rules and
`failed` those that have become failures, in the order in which the scan reports them. -/
structure Accounts (files : Files) (directory : Path) (names done : List String)
    (result : DirectoryScan) (accepted failed : List String) : Prop where
  split : Interleaves accepted failed done
  rules : List.Forall₂ (fun name entry => entry.1 = ruleName name ∧
    Becomes files directory names name (.ok entry.2)) accepted result.rules.entries
  failures : List.Forall₂ (fun name failure => failure.path = Path.join directory name ∧
    Becomes files directory names name (.error failure.error)) failed result.failures
  /-- A file that holds a rule leaves a rule of its name, if not its own. -/
  known : ∀ name ∈ done, (∃ handler, HoldsRule files directory name handler) →
    ruleName name ∈ result.rules.keys

namespace Accounts

variable {done accepted failed : List String} {result : DirectoryScan}

theorem start : Accounts files directory names [] {} [] [] :=
  ⟨.nil, .nil, .nil, fun _ h => absurd h List.not_mem_nil⟩

/-- **Only a file that holds a rule is in the way of another file.** -/
theorem contains_iff (h : Accounts files directory names done result accepted failed)
    {name : String}
    (hdone : ∀ earlier, earlier ∈ done ↔
      (earlier ∈ names ∧ Eligible files directory earlier) ∧ earlier < name) :
    result.rules.contains (ruleName name) = true ↔ Shadowed files directory names name := by
  rw [Table.contains_iff]
  constructor
  · intro hkey
    obtain ⟨entry, hentry, hrule⟩ := List.mem_map.mp hkey
    obtain ⟨earlier, hearlier, hname, hbecomes⟩ := exists_of_mem_right h.rules hentry
    obtain ⟨⟨hmem, heligible⟩, hlt⟩ := (hdone earlier).mp (h.split.sublist_left.subset hearlier)
    cases hbecomes with
    | rule hfirst hholds =>
      exact ⟨earlier, hmem, heligible, hlt, hname.symm.trans hrule, _, hholds⟩
  · rintro ⟨earlier, hmem, heligible, hlt, hrule, hholds⟩
    rw [← hrule]
    exact h.known earlier ((hdone earlier).mpr ⟨⟨hmem, heligible⟩, hlt⟩) hholds

theorem add_failure (h : Accounts files directory names done result accepted failed)
    {name : String} {e : LoadError} (hbecomes : Becomes files directory names name (.error e))
    (hknown : (∃ handler, HoldsRule files directory name handler) →
      ruleName name ∈ result.rules.keys) :
    Accounts files directory names (done ++ [name])
      { result with failures := result.failures ++ [⟨Path.join directory name, e⟩] }
      accepted (failed ++ [name]) := by
  refine ⟨?_, h.rules, ?_, fun other hother hholds => ?_⟩
  · have hsplit := h.split.append (.right name .nil)
    rwa [List.append_nil] at hsplit
  · exact List.rel_append h.failures (.cons ⟨rfl, hbecomes⟩ .nil)
  · rcases List.mem_append.mp hother with hother | hother
    · exact h.known other hother hholds
    · rw [List.mem_singleton] at hother
      subst hother
      exact hknown hholds

theorem add_rule (h : Accounts files directory names done result accepted failed)
    {name : String} {handler : Handler}
    (hbecomes : Becomes files directory names name (.ok handler))
    (hnew : ruleName name ∉ result.rules.keys) :
    Accounts files directory names (done ++ [name])
      { result with rules := result.rules.insert (ruleName name) handler }
      (accepted ++ [name]) failed := by
  refine ⟨?_, ?_, h.failures, fun other hother hholds => ?_⟩
  · have hsplit := h.split.append (.left name .nil)
    rwa [List.append_nil] at hsplit
  · rw [Table.entries_insert_of_notMem hnew]
    exact List.rel_append h.rules (.cons ⟨rfl, hbecomes⟩ .nil)
  · rw [Table.keys_insert, if_neg hnew, List.mem_append, List.mem_singleton]
    rcases List.mem_append.mp hother with hother | hother
    · exact Or.inl (h.known other hother hholds)
    · rw [List.mem_singleton] at hother
      exact Or.inr (congrArg ruleName hother)

/-- **One more file.** -/
theorem step (h : Accounts files directory names done result accepted failed) {name : String}
    (hname : Path.IsEntryName name)
    (hdone : ∀ earlier, earlier ∈ done ↔
      (earlier ∈ names ∧ Eligible files directory earlier) ∧ earlier < name) :
    ∃ accepted' failed', Accounts files directory names (done ++ [name])
      (enter files directory result (Path.join directory name)) accepted' failed' := by
  have hshadowed := h.contains_iff hdone
  rw [enter_of_loadNew hname, loadNew]
  by_cases hcontains : result.rules.contains (ruleName name) = true
  · rw [if_pos hcontains]
    exact ⟨accepted, failed ++ [name], h.add_failure (.duplicate (hshadowed.mp hcontains))
      fun _ => Table.contains_iff.mp hcontains⟩
  · have hfirst : ¬ Shadowed files directory names name := fun hlater =>
      hcontains (hshadowed.mpr hlater)
    rw [if_neg hcontains]
    rcases holdsRule_or_isBroken files directory name with ⟨handler, hholds⟩ | ⟨e, hbroken⟩
    · rw [loadFile_of_holdsRule hholds]
      exact ⟨accepted ++ [name], failed, h.add_rule (.rule hfirst hholds) fun hkey =>
        hcontains (Table.contains_iff.mpr hkey)⟩
    · rw [loadFile_of_isBroken hbroken]
      refine ⟨accepted, failed ++ [name], h.add_failure (.broken hfirst hbroken) ?_⟩
      rintro ⟨handler, hholds⟩
      have hload := loadFile_of_holdsRule hholds
      rw [loadFile_of_isBroken hbroken] at hload
      cases hload

end Accounts

/-! ## A whole scan -/

variable {done rest : List String} {name : String}

/-- The rule files before a file are those with earlier names. -/
theorem mem_done_iff (hnodup : names.Nodup)
    (h : done ++ name :: rest = ruleFileNames files directory names) (earlier : String) :
    earlier ∈ done ↔ (earlier ∈ names ∧ Eligible files directory earlier) ∧ earlier < name := by
  have hlt : (ruleFileNames files directory names).Pairwise (· < ·) := pairwise_ruleFileNames hnodup
  rw [← h, List.pairwise_append, List.pairwise_cons] at hlt
  obtain ⟨-, ⟨hrest, -⟩, hdone⟩ := hlt
  rw [← mem_ruleFileNames, ← h, List.mem_append, List.mem_cons]
  constructor
  · exact fun hmem => ⟨Or.inl hmem, hdone earlier hmem name (List.mem_cons_self ..)⟩
  · rintro ⟨hmem | rfl | hmem, hbefore⟩
    · exact hmem
    · exact absurd hbefore (lt_irrefl earlier)
    · exact absurd hbefore (lt_asymm (hrest earlier hmem))

theorem isEntryName_of_mem_ruleFileNames (hlisting : IsListing names)
    (h : name ∈ ruleFileNames files directory names) : Path.IsEntryName name :=
  hlisting.isEntryName name (mem_ruleFileNames.mp h).1

/-- The result of a scan that has come to the end of `done`. -/
def scanned (files : Files) (directory : Path) (done : List String) : DirectoryScan :=
  (done.map (Path.join directory)).foldl (enter files directory) {}

theorem scanned_append_singleton (files : Files) (directory : Path) (done : List String)
    (name : String) :
    scanned files directory (done ++ [name]) =
      enter files directory (scanned files directory done) (Path.join directory name) := by
  rw [scanned, List.map_append, List.foldl_append]
  rfl

theorem scan_eq_ok (hnames : files.names directory = .ok names) :
    scan files directory = .ok (scanned files directory (ruleFileNames files directory names)) := by
  rw [scan, hnames]
  simp only [ruleFiles_eq_map]
  rfl

/-- **Every file that a scan has come to is accounted for.** -/
theorem exists_accounts (hlisting : IsListing names)
    (h : done ++ rest = ruleFileNames files directory names) :
    ∃ accepted failed,
      Accounts files directory names done (scanned files directory done) accepted failed := by
  induction done using List.reverseRecOn generalizing rest with
  | nil => exact ⟨[], [], .start⟩
  | append_singleton done name ih =>
    rw [List.append_assoc, List.singleton_append] at h
    obtain ⟨accepted, failed, haccounts⟩ := ih h
    have hname : Path.IsEntryName name :=
      isEntryName_of_mem_ruleFileNames hlisting (h ▸ List.mem_append_cons_self)
    rw [scanned_append_singleton]
    exact haccounts.step hname (mem_done_iff hlisting.nodup h)

/-- A file for a rule that is there already is not read. -/
theorem enter_congr {files' : Files} {result : DirectoryScan} (hname : Path.IsEntryName name)
    (htext : result.rules.contains (ruleName name) ≠ true →
      files'.text (Path.join directory name) = files.text (Path.join directory name)) :
    enter files' directory result (Path.join directory name) =
      enter files directory result (Path.join directory name) := by
  rw [enter_of_loadNew hname, enter_of_loadNew hname, loadNew, loadNew]
  by_cases hcontains : result.rules.contains (ruleName name) = true
  · rw [if_pos hcontains, if_pos hcontains]
  · rw [if_neg hcontains, if_neg hcontains, loadFile_congr (htext hcontains)]

/-- Only the texts of files without an earlier rule of the same name count. -/
theorem scanned_congr {files' : Files} (hlisting : IsListing names)
    (htext : ∀ name ∈ names, Eligible files directory name →
      ¬ Shadowed files directory names name →
      files'.text (Path.join directory name) = files.text (Path.join directory name))
    (h : done ++ rest = ruleFileNames files directory names) :
    scanned files' directory done = scanned files directory done := by
  induction done using List.reverseRecOn generalizing rest with
  | nil => rfl
  | append_singleton done name ih =>
    rw [List.append_assoc, List.singleton_append] at h
    have hmem : name ∈ ruleFileNames files directory names := h ▸ List.mem_append_cons_self
    obtain ⟨accepted, failed, haccounts⟩ := exists_accounts hlisting h
    rw [scanned_append_singleton, scanned_append_singleton, ih h]
    refine enter_congr (isEntryName_of_mem_ruleFileNames hlisting hmem) fun hcontains => ?_
    obtain ⟨hname, heligible⟩ := mem_ruleFileNames.mp hmem
    exact htext name hname heligible fun hlater =>
      hcontains ((haccounts.contains_iff (mem_done_iff hlisting.nodup h)).mpr hlater)

/-- There is one way to order the rule files. -/
theorem eq_ruleFileNames {sorted : List String} (hnodup : names.Nodup)
    (hlt : sorted.Pairwise (· < ·))
    (hmem : ∀ name, name ∈ sorted ↔ name ∈ names ∧ Eligible files directory name) :
    sorted = ruleFileNames files directory names := by
  have hlt' : (ruleFileNames files directory names).Pairwise (· < ·) :=
    pairwise_ruleFileNames hnodup
  have hperm : sorted.Perm (ruleFileNames files directory names) := by
    refine (List.perm_ext_iff_of_nodup (hlt.imp ne_of_lt) (hlt'.imp ne_of_lt)).mpr fun name => ?_
    rw [hmem, mem_ruleFileNames]
  exact hperm.eq_of_pairwise (fun a b _ _ hab hba => absurd hab (lt_asymm hba)) hlt hlt'

/-- **What a scan makes of a directory.**  A directory that can be listed is scanned.  Its rule
files, in the order of their names, are the files behind the rules and those behind the failures,
each file behind one rule or one failure: a file is the rule of its name if it holds one and no file
before it does.  Neither the order of the listing nor what else the directory holds counts, nor the
text of a file after the rule of its name. -/
theorem scan_accounts (hnames : files.names directory = .ok names) (hlisting : IsListing names) :
    (∃ result sorted accepted failed,
      scan files directory = .ok result ∧
      sorted.Pairwise (· < ·) ∧
      (∀ name, name ∈ sorted ↔ name ∈ names ∧ Eligible files directory name) ∧
      Interleaves accepted failed sorted ∧
      List.Forall₂ (fun name entry => entry.1 = ruleName name ∧
        Becomes files directory names name (.ok entry.2)) accepted result.rules.entries ∧
      List.Forall₂ (fun name failure => failure.path = Path.join directory name ∧
        Becomes files directory names name (.error failure.error)) failed result.failures) ∧
    ∀ files' names', files'.names directory = .ok names' → IsListing names' →
      (∀ name, name ∈ names' ∧ Eligible files' directory name ↔
        name ∈ names ∧ Eligible files directory name) →
      (∀ name ∈ names, Eligible files directory name → ¬ Shadowed files directory names name →
        files'.text (Path.join directory name) = files.text (Path.join directory name)) →
      scan files' directory = scan files directory := by
  have hall := List.append_nil (ruleFileNames files directory names)
  constructor
  · obtain ⟨accepted, failed, haccounts⟩ := exists_accounts hlisting hall
    exact ⟨_, _, accepted, failed, scan_eq_ok hnames, pairwise_ruleFileNames hlisting.nodup,
      fun _ => mem_ruleFileNames, haccounts.split, haccounts.rules, haccounts.failures⟩
  · intro files' names' hnames' hlisting' heligible htext
    have hsorted : ruleFileNames files' directory names' = ruleFileNames files directory names :=
      eq_ruleFileNames hlisting.nodup (pairwise_ruleFileNames hlisting'.nodup) fun name =>
        mem_ruleFileNames.trans (heligible name)
    rw [scan_eq_ok hnames, scan_eq_ok hnames', hsorted, scanned_congr hlisting htext hall]

/-- A directory `rules` with the given entries. -/
def rulesOnly (entries : List (String × FileTree)) : Files :=
  FileTree.files [] (.directory [("rules", .directory entries)])

/-- Three files for the rule `a`, of which the first cannot be read, a file for the rule `b`, and
two entries that are no rule files. -/
def mixed : Files := rulesOnly [
  ("b.yml", .file (.ok "terms:\n- pattern: b\n")),
  (".hidden.yml", .file (.ok "terms:\n- pattern: h\n")),
  ("nested.yml", .directory []),
  ("a.yml", .file (.ok "terms:\n- pattern: c\n")),
  ("a.yaml", .file (.ok "terms:\n- pattern: a\n")),
  ("a.json", .file (.error (.notText "")))]

/-- The same rule files in another order, the last file for `a` with another text. -/
def remixed : Files := rulesOnly [
  ("a.json", .file (.error (.notText ""))),
  ("a.yaml", .file (.ok "terms:\n- pattern: a\n")),
  ("a.yml", .file (.ok "kind: ")),
  ("b.yml", .file (.ok "terms:\n- pattern: b\n"))]

def mixedNames : List String :=
  ["b.yml", ".hidden.yml", "nested.yml", "a.yml", "a.yaml", "a.json"]

def mixedRuleNames : List String := ["a.json", "a.yaml", "a.yml", "b.yml"]

theorem mem_mixedRuleNames (name : String) :
    name ∈ mixedRuleNames ↔ name ∈ mixedNames ∧ Eligible mixed "rules" name := by
  have hrules : ∀ name ∈ mixedRuleNames, name ∈ mixedNames ∧ Eligible mixed "rules" name := by
    decide
  have hall : ∀ name ∈ mixedNames, Eligible mixed "rules" name → name ∈ mixedRuleNames := by
    decide
  exact ⟨hrules name, fun h => hall name h.1 h.2⟩

theorem shadowed_mixed : Shadowed mixed "rules" mixedNames "a.yml" := by
  refine ⟨"a.yaml", by decide, by decide, by decide, by decide,
    .ofTerms ⟨none, [⟨"a", none, none⟩]⟩, loadFile_eq_ok_iff.mp ?_⟩
  decide +kernel

theorem text_remixed {name : String} (h : name ∈ mixedRuleNames)
    (hfirst : ¬ Shadowed mixed "rules" mixedNames name) :
    remixed.text (Path.join "rules" name) = mixed.text (Path.join "rules" name) := by
  simp only [mixedRuleNames, List.mem_cons, List.not_mem_nil, or_false] at h
  rcases h with rfl | rfl | rfl | rfl
  · rfl
  · rfl
  · exact absurd shadowed_mixed hfirst
  · rfl

/-- The file that cannot be read is in nobody's way, and the last file for `a` is not read. -/
theorem mixed_scan :
    ∃ result accepted failed, scan mixed "rules" = .ok result ∧
      Interleaves accepted failed ["a.json", "a.yaml", "a.yml", "b.yml"] ∧
      result.rules.keys = ["a", "b"] ∧
      result.failures.map (·.path) = ["rules/a.json", "rules/a.yml"] ∧
      scan remixed "rules" = .ok result := by
  have hnames : mixed.names "rules" = .ok mixedNames := rfl
  have hlisting : IsListing mixedNames := by decide
  obtain ⟨⟨result, sorted, accepted, failed, hscan, hlt, hmem, hsplit, -, -⟩, hcongr⟩ :=
    scan_accounts hnames hlisting
  have hsorted := eq_ruleFileNames hlisting.nodup (by decide) mem_mixedRuleNames
  rw [eq_ruleFileNames hlisting.nodup hlt hmem, ← hsorted] at hsplit
  have hresult : result = scanned mixed "rules" mixedRuleNames := by
    rw [scan_eq_ok hnames, ← hsorted] at hscan
    exact (Except.ok.inj hscan).symm
  refine ⟨result, accepted, failed, hscan, hsplit, ?_, ?_, ?_⟩
  · rw [hresult]
    decide +kernel
  · rw [hresult]
    decide +kernel
  · have heligible : ∀ name ∈ mixedRuleNames, Eligible remixed "rules" name := by decide
    rw [← hscan]
    refine hcongr remixed mixedRuleNames rfl (by decide) (fun name => ?_)
      fun name hname hrule => text_remixed ((mem_mixedRuleNames name).mpr ⟨hname, hrule⟩)
    rw [← mem_mixedRuleNames]
    exact and_iff_left_of_imp (heligible name)

end RuleDirectory
end LintRules
