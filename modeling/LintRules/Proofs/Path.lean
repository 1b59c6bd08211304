import LintRules.Path
import Mathlib.Data.List.Basic

/-!
# Paths of the entries of a directory

The name of an entry of a directory is a text without slashes.  Joined to the path of the directory,
in whichever way that path is written, it is the last part of the path of the entry.

* `Path.segments_append`: a path is cut at each of its slashes.
* `Path.fileName?_join`, `Path.stem?_join`: the last part of the path of an entry is its name.
* `Path.slash_notMem_stem`: no part of a path holds a slash.
-/

namespace LintRules
namespace Path

/-- A name that an entry of a directory may have. -/
structure IsEntryName (name : String) : Prop where
  nonempty : name ≠ ""
  noSlash : '/' ∉ name.toList
  notHere : name ≠ "."
  notAbove : name ≠ ".."

instance (name : String) : Decidable (IsEntryName name) :=
  decidable_of_iff (name ≠ "" ∧ '/' ∉ name.toList ∧ name ≠ "." ∧ name ≠ "..")
    ⟨fun ⟨hempty, hslash, hhere, habove⟩ => ⟨hempty, hslash, hhere, habove⟩,
      fun h => ⟨h.nonempty, h.noSlash, h.notHere, h.notAbove⟩⟩

/-! ## Segments -/

theorem segments_append (before after : List Char) :
    segments (before ++ '/' :: after) = segments before ++ segments after := by
  induction before with
  | nil =>
    rw [List.nil_append, segments.eq_def ('/' :: after)]
    exact if_pos rfl
  | cons c before ih =>
    rw [List.cons_append, segments, segments, ih]
    split
    · rfl
    · rcases hbefore : segments before with _ | ⟨s, rest⟩
      · exact absurd hbefore (segments_ne_nil before)
      · rfl

theorem segments_of_notMem {text : List Char} (h : '/' ∉ text) : segments text = [text] := by
  induction text with
  | nil => rfl
  | cons c text ih =>
    rw [List.mem_cons, not_or] at h
    rw [segments, if_neg (Ne.symm h.1), ih h.2]

theorem slash_notMem_of_mem_segments {text s : List Char} (h : s ∈ segments text) : '/' ∉ s := by
  induction text generalizing s with
  | nil =>
    rw [segments, List.mem_singleton] at h
    rw [h]
    exact List.not_mem_nil
  | cons c text ih =>
    rw [segments] at h
    split at h
    · rcases List.mem_cons.mp h with rfl | h
      · exact List.not_mem_nil
      · exact ih h
    · next hc =>
      rcases htext : segments text with _ | ⟨first, rest⟩
      · exact absurd htext (segments_ne_nil text)
      · rw [htext] at h ih
        rcases List.mem_cons.mp h with rfl | h
        · rw [List.mem_cons, not_or]
          exact ⟨Ne.symm hc, ih (List.mem_cons_self ..)⟩
        · exact ih (List.mem_cons_of_mem _ h)

/-! ## Parts -/

theorem slash_notMem_fileName {path : Path} {name : List Char} (h : fileName? path = some name) :
    '/' ∉ name := by
  rw [fileName?, Option.bind_eq_some_iff] at h
  obtain ⟨s, hlast, hs⟩ := h
  split at hs
  · cases hs
  · rw [← Option.some.inj hs]
    exact slash_notMem_of_mem_segments (List.mem_filter.mp (List.mem_of_getLast? hlast)).1

theorem mem_of_mem_splitName {c : Char} {name : List Char} (h : c ∈ (splitName name).1) :
    c ∈ name := by
  rw [splitName] at h
  rcases hbefore : name.reverse.dropWhile (· != '.') with _ | ⟨dot, _ | ⟨d, stem⟩⟩
  · rwa [hbefore] at h
  · rwa [hbefore] at h
  · rw [hbefore] at h
    have hdrop : c ∈ name.reverse.dropWhile (· != '.') := by
      rw [hbefore]
      exact List.mem_cons_of_mem _ (List.mem_reverse.mp h)
    exact List.mem_reverse.mp (List.dropWhile_subset _ hdrop)

theorem slash_notMem_stem {path : Path} {stem : String} (h : stem? path = some stem) :
    '/' ∉ stem.toList := by
  rw [stem?, Option.map_eq_some_iff] at h
  obtain ⟨name, hname, rfl⟩ := h
  rw [String.toList_ofList]
  exact fun hmem => slash_notMem_fileName hname (mem_of_mem_splitName hmem)

/-! ## Entries of a directory -/

theorem isAbsolute_eq_false {name : String} (h : '/' ∉ name.toList) : isAbsolute name = false := by
  rw [isAbsolute, beq_eq_false_iff_ne]
  exact fun hhead => h (List.mem_of_mem_head? hhead)

/-- The path of an entry is the path of the directory, with a slash after it unless it ends in one
or is empty, and the name of the entry. -/
theorem exists_join (directory : Path) :
    ∃ lead : String, (∀ name, isAbsolute name = false → join directory name = lead ++ name) ∧
      (lead = "" ∨ ∃ before, lead = before ++ "/") := by
  by_cases hempty : directory.toList = []
  · refine ⟨"", fun name hname => ?_, Or.inl rfl⟩
    rw [join, hname, if_neg Bool.false_ne_true, if_pos hempty, String.empty_append]
  · by_cases hslash : directory.toList.getLast? = some '/'
    · refine ⟨directory, fun name hname => ?_, Or.inr ?_⟩
      · rw [join, hname, if_neg Bool.false_ne_true, if_neg hempty, if_pos hslash]
      · obtain ⟨before, hbefore⟩ := List.getLast?_eq_some_iff.mp hslash
        refine ⟨String.ofList before, ?_⟩
        rw [← String.toList_inj, hbefore, String.toList_append, String.toList_ofList]
        rfl
    · refine ⟨directory ++ "/", fun name hname => ?_, Or.inr ⟨directory, rfl⟩⟩
      rw [join, hname, if_neg Bool.false_ne_true, if_neg hempty, if_neg hslash]

/-- The path of an entry has the segments of the path of the directory and the name, but for an
empty segment after a slash at the end of the directory. -/
theorem exists_segments_join {name : String} (directory : Path) (h : '/' ∉ name.toList) :
    ∃ before, segments (join directory name).toList = before ++ [name.toList] ∧
      (segments directory.toList = before ∨ segments directory.toList = before ++ [[]]) := by
  have hrelative := isAbsolute_eq_false h
  rw [join, hrelative, if_neg Bool.false_ne_true]
  by_cases hempty : directory.toList = []
  · rw [if_pos hempty, segments_of_notMem h, hempty]
    exact ⟨[], rfl, .inr rfl⟩
  · rw [if_neg hempty]
    by_cases hslash : directory.toList.getLast? = some '/'
    · obtain ⟨before, hbefore⟩ := List.getLast?_eq_some_iff.mp hslash
      refine ⟨segments before, ?_, .inr ?_⟩
      · rw [if_pos hslash, String.toList_append, hbefore, List.append_assoc, List.singleton_append,
          segments_append, segments_of_notMem h]
      · rw [hbefore, segments_append]
        rfl
    · refine ⟨segments directory.toList, ?_, .inl rfl⟩
      rw [if_neg hslash, String.toList_append, String.toList_append, List.append_assoc,
        show "/".toList ++ name.toList = '/' :: name.toList from rfl, segments_append,
        segments_of_notMem h]

theorem IsEntryName.toList_ne_parent {name : String} (h : IsEntryName name) :
    name.toList ≠ ['.', '.'] :=
  fun habove => h.notAbove (String.toList_inj.mp habove)

theorem IsEntryName.isIdle_eq_false {name : String} (h : IsEntryName name) :
    isIdle name.toList = false := by
  rw [isIdle, Bool.or_eq_false_iff, beq_eq_false_iff_ne, beq_eq_false_iff_ne]
  exact ⟨fun hempty => h.nonempty (String.toList_inj.mp hempty),
    fun hdot => h.notHere (String.toList_inj.mp hdot)⟩

/-- **The last part of the path of an entry is its name.** -/
theorem fileName?_join {name : String} (directory : Path) (h : IsEntryName name) :
    fileName? (join directory name) = some name.toList := by
  obtain ⟨before, hsegments, -⟩ := exists_segments_join directory h.noSlash
  rw [fileName?, names, hsegments, List.filter_append,
    List.filter_cons_of_pos (by simp [h.isIdle_eq_false]), List.filter_nil, List.getLast?_concat,
    Option.bind_some, if_neg h.toList_ne_parent]

theorem join_inj {name other : String} (directory : Path) (h : IsEntryName name)
    (hother : IsEntryName other) : join directory name = join directory other ↔ name = other := by
  constructor
  · intro hjoin
    have hnames := congrArg fileName? hjoin
    rw [fileName?_join directory h, fileName?_join directory hother, Option.some.injEq] at hnames
    exact String.toList_inj.mp hnames
  · exact congrArg (join directory)

theorem stem?_join {name : String} (directory : Path) (h : IsEntryName name) :
    stem? (join directory name) = some (String.ofList (splitName name.toList).1) := by
  rw [stem?, fileName?_join directory h, Option.map_some]

end Path
end LintRules
