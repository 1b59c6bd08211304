import LintRules.Proofs.Path

/-!
# Paths below a directory

A path joined to a base lies below it, as far as it can be told from how it is written, if it does
not start at the root and has no segment that leads to the parent.  Joining does not normalise, so
this is a statement about the joined path too: it says with which path it was joined.

* `Path.StaysBelow`: the paths that stay below where they start.
* `Path.IsBelow`: the paths below a base; `Path.isBelow_join_iff` tells which joined paths are.
* `Path.join_join`: joining in two steps.
* `Path.staysBelow_join_iff`: two paths one after the other.
-/

namespace LintRules
namespace Path

/-- The path does not start at the root and never goes to a parent. -/
structure StaysBelow (path : Path) : Prop where
  relative : isAbsolute path = false
  noParent : ['.', '.'] ∉ segments path.toList

instance (path : Path) : Decidable path.StaysBelow :=
  decidable_of_iff (isAbsolute path = false ∧ ['.', '.'] ∉ segments path.toList)
    ⟨fun ⟨hrelative, hparent⟩ => ⟨hrelative, hparent⟩, fun h => ⟨h.relative, h.noParent⟩⟩

/-- The path is the base joined with one that stays below. -/
def IsBelow (base path : Path) : Prop := ∃ rest, StaysBelow rest ∧ path = join base rest

variable {base path name : Path}

theorem isAbsolute_append {lead : String} (hlead : lead ≠ "") (name : String) :
    isAbsolute (lead ++ name) = isAbsolute lead := by
  have hne : lead.toList ≠ [] := fun h => hlead (String.toList_inj.mp h)
  rw [isAbsolute, isAbsolute, String.toList_append, List.head?_append_of_ne_nil _ hne]

theorem join_of_isAbsolute (h : isAbsolute name = true) (base : Path) : join base name = name := by
  rw [join, if_pos h]

theorem isAbsolute_join (h : isAbsolute name = false) (base : Path) :
    isAbsolute (join base name) = isAbsolute base := by
  rw [join, h, if_neg Bool.false_ne_true]
  split
  · next hempty =>
    rw [h, isAbsolute, hempty]
    rfl
  · next hne =>
    have hbase : base ≠ "" := fun hempty => hne (by rw [hempty]; rfl)
    split
    · rw [isAbsolute_append hbase]
    · rw [String.append_assoc, isAbsolute_append hbase]

/-- **A joined path lies below its base if what was joined stays below.** -/
theorem isBelow_join_iff (h : isAbsolute name = false) :
    IsBelow base (join base name) ↔ StaysBelow name := by
  constructor
  · rintro ⟨rest, hrest, hjoin⟩
    obtain ⟨lead, hlead, -⟩ := exists_join base
    rw [hlead name h, hlead rest hrest.relative, String.append_right_inj] at hjoin
    rwa [hjoin]
  · intro hname
    exact ⟨name, hname, rfl⟩

/-- What lies below a base starts at the root if the base does. -/
theorem IsBelow.isAbsolute_eq (h : IsBelow base path) : isAbsolute path = isAbsolute base := by
  obtain ⟨rest, hrest, rfl⟩ := h
  exact isAbsolute_join hrest.relative base

/-- A text that ends in a slash, or none, is not parted from what is joined to it. -/
theorem join_lead {lead : String} (hlead : lead = "" ∨ ∃ before, lead = before ++ "/")
    (h : isAbsolute name = false) : join lead name = lead ++ name := by
  rw [join, h, if_neg Bool.false_ne_true]
  obtain rfl | ⟨before, rfl⟩ := hlead
  · rw [if_pos (by rfl), String.empty_append]
  · have hlast : (before ++ "/").toList.getLast? = some '/' := by
      rw [String.toList_append]
      exact List.getLast?_concat ..
    rw [if_neg (by simp), if_pos hlast]

theorem join_append {first : String} (hfirst : first ≠ "") (h : isAbsolute name = false)
    (lead : String) : join (lead ++ first) name = lead ++ join first name := by
  have hne : first.toList ≠ [] := fun hempty => hfirst (String.toList_inj.mp hempty)
  have hlast : (lead ++ first).toList.getLast? = first.toList.getLast? := by
    rw [String.toList_append, List.getLast?_append_of_ne_nil _ hne]
  rw [join, join, h, if_neg Bool.false_ne_true, if_neg Bool.false_ne_true, hlast,
    if_neg (by simp [hne]), if_neg hne]
  split
  · rw [String.append_assoc]
  · rw [String.append_assoc, String.append_assoc, String.append_assoc]

/-- **Joining in two steps.** -/
theorem join_join (base first second : Path) :
    join (join base first) second = join base (join first second) := by
  cases hsecond : isAbsolute second with
  | true =>
    rw [join_of_isAbsolute hsecond, join_of_isAbsolute hsecond, join_of_isAbsolute hsecond]
  | false =>
    have hboth : isAbsolute (join first second) = isAbsolute first := isAbsolute_join hsecond first
    cases hfirst : isAbsolute first with
    | true => rw [join_of_isAbsolute hfirst, join_of_isAbsolute (hboth.trans hfirst)]
    | false =>
      obtain ⟨lead, hlead, hend⟩ := exists_join base
      rw [hlead first hfirst, hlead (join first second) (hboth.trans hfirst)]
      by_cases hempty : first = ""
      · rw [hempty, String.append_empty, join_lead hend hsecond,
          join_lead (.inl rfl) hsecond, String.empty_append]
      · exact join_append hempty hsecond lead

/-! ## Segments of joined paths -/

/-- A text without slashes is added to the last segment. -/
theorem exists_segments_append {suffix : List Char} (h : '/' ∉ suffix) (text : List Char) :
    ∃ before last, segments text = before ++ [last] ∧
      segments (text ++ suffix) = before ++ [last ++ suffix] := by
  induction text with
  | nil => exact ⟨[], [], rfl, segments_of_notMem h⟩
  | cons c text ih =>
    obtain ⟨before, last, htext, hboth⟩ := ih
    rw [List.cons_append, segments, segments, htext, hboth]
    by_cases hc : c = '/'
    · rw [if_pos hc, if_pos hc]
      exact ⟨[] :: before, last, rfl, rfl⟩
    · rw [if_neg hc, if_neg hc]
      cases before with
      | nil => exact ⟨[], c :: last, rfl, rfl⟩
      | cons s before => exact ⟨(c :: s) :: before, last, rfl, rfl⟩

/-- A text without slashes is put before the first segment. -/
theorem exists_segments_prepend {lead : List Char} (h : '/' ∉ lead) (text : List Char) :
    ∃ first rest, segments text = first :: rest ∧
      segments (lead ++ text) = (lead ++ first) :: rest := by
  induction lead with
  | nil =>
    obtain ⟨first, rest, htext⟩ := List.exists_cons_of_ne_nil (segments_ne_nil text)
    exact ⟨first, rest, htext, htext⟩
  | cons c lead ih =>
    rw [List.mem_cons, not_or] at h
    obtain ⟨first, rest, htext, hboth⟩ := ih h.2
    refine ⟨first, rest, htext, ?_⟩
    rw [List.cons_append, segments, if_neg (Ne.symm h.1), hboth]
    rfl

/-- A longer lead without slashes keeps a path below. -/
theorem StaysBelow.lead_append {lead lead' text : String} (h : StaysBelow (lead ++ text))
    (hlead : '/' ∉ lead.toList) (hlead' : '/' ∉ lead'.toList) (hlength : 2 < lead'.toList.length) :
    StaysBelow (lead' ++ text) := by
  have hne : lead' ≠ "" := by
    rintro rfl
    exact absurd hlength (by decide)
  obtain ⟨first, rest, htext, hboth⟩ := exists_segments_prepend hlead text.toList
  obtain ⟨first', rest', htext', hboth'⟩ := exists_segments_prepend hlead' text.toList
  rw [htext, List.cons.injEq] at htext'
  obtain ⟨rfl, rfl⟩ := htext'
  refine ⟨(isAbsolute_append hne text).trans (isAbsolute_eq_false hlead'), ?_⟩
  have hparent := h.noParent
  rw [String.toList_append, hboth, List.mem_cons, not_or] at hparent
  rw [String.toList_append, hboth', List.mem_cons, not_or]
  refine ⟨fun heq => ?_, hparent.2⟩
  have hlen := congrArg List.length heq
  rw [List.length_append] at hlen
  simp only [List.length_cons, List.length_nil] at hlen
  omega

/-- The segments of a joined path that say something are those of its two parts. -/
theorem mem_segments_join_iff (h : isAbsolute name = false) {s : List Char} (hs : s ≠ []) :
    s ∈ segments (join base name).toList ↔ s ∈ segments base.toList ∨ s ∈ segments name.toList := by
  rw [join, h, if_neg Bool.false_ne_true]
  split
  · next hempty =>
    rw [hempty, segments, List.mem_singleton, or_iff_right hs]
  · split
    · next hlast =>
      obtain ⟨before, hbefore⟩ := List.getLast?_eq_some_iff.mp hlast
      rw [String.toList_append, hbefore, List.append_assoc, List.singleton_append,
        segments_append, segments_append, List.mem_append, List.mem_append, segments.eq_def [],
        List.mem_singleton, or_iff_left hs]
    · rw [String.toList_append, String.toList_append, List.append_assoc,
        show "/".toList ++ name.toList = '/' :: name.toList from rfl, segments_append,
        List.mem_append]

/-- **Two paths one after the other stay below if both do.** -/
theorem staysBelow_join_iff (h : isAbsolute name = false) :
    StaysBelow (join base name) ↔ StaysBelow base ∧ StaysBelow name := by
  have hparent := @mem_segments_join_iff base name h ['.', '.'] (List.cons_ne_nil _ _)
  constructor
  · intro hjoin
    have hnone := fun hor => hjoin.noParent (hparent.mpr hor)
    exact ⟨⟨(isAbsolute_join h base).symm.trans hjoin.relative, fun hmem => hnone (.inl hmem)⟩,
      ⟨h, fun hmem => hnone (.inr hmem)⟩⟩
  · rintro ⟨hbase, hname⟩
    exact ⟨(isAbsolute_join h base).trans hbase.relative,
      fun hmem => (hparent.mp hmem).elim hbase.noParent hname.noParent⟩

end Path
end LintRules
