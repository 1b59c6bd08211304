/-!
# Paths

A path is a text; it is shown as it was written or joined and is never normalised.  What it names
is read off its *segments*, the pieces between slashes.  Empty segments and segments `.` say
nothing, except that an empty first segment of a longer path makes the path absolute.

* `segments`, `ofSegments_segments`: a path is its segments with slashes between them.
* `Path.join`: a path below another one; an absolute path replaces it.
* `Path.parent?`, `Path.fileName?`, `Path.stem?`, `Path.extension?`: parts of a path.
* `Path.ancestors`: a path and those above it.
-/

namespace LintRules

/-- A path as it is written. -/
abbrev Path := String

namespace Path

/-! ## Segments -/

/-- The pieces of a text between slashes; there is always at least one. -/
def segments : List Char → List (List Char)
  | [] => [[]]
  | c :: text =>
    if c = '/' then [] :: segments text
    else match segments text with
      | [] => [[c]]
      | s :: rest => (c :: s) :: rest

/-- Segments with slashes between them. -/
def ofSegments : List (List Char) → List Char
  | [] => []
  | [s] => s
  | s :: rest => s ++ '/' :: ofSegments rest

theorem segments_ne_nil (text : List Char) : segments text ≠ [] := by
  cases text with
  | nil => simp [segments]
  | cons c text =>
    rw [segments]
    split
    · simp
    · split <;> simp

theorem ofSegments_cons {s : List Char} {rest : List (List Char)} (h : rest ≠ []) :
    ofSegments (s :: rest) = s ++ '/' :: ofSegments rest := by
  cases rest with
  | nil => exact absurd rfl h
  | cons => rfl

/-- A path is its segments with slashes between them. -/
theorem ofSegments_segments (text : List Char) : ofSegments (segments text) = text := by
  induction text with
  | nil => rfl
  | cons c text ih =>
    rw [segments]
    split
    · next h => rw [ofSegments_cons (segments_ne_nil text), ih, h]; rfl
    · split
      · next h => exact absurd h (segments_ne_nil text)
      · next s rest h =>
        rw [h] at ih
        rw [← ih]
        cases rest <;> simp [ofSegments]

theorem ofSegments_eq_append_flatMap (first : List Char) (rest : List (List Char)) :
    ofSegments (first :: rest) = first ++ rest.flatMap ('/' :: ·) := by
  induction rest generalizing first with
  | nil => exact (List.append_nil first).symm
  | cons s rest ih =>
    rw [ofSegments_cons (List.cons_ne_nil s rest), ih, List.flatMap_cons, List.cons_append]

/-- A segment that says nothing. -/
def isIdle (segment : List Char) : Bool := segment == [] || segment == ['.']

/-- Drops the segments at the end that say nothing. -/
def dropIdle (segments : List (List Char)) : List (List Char) :=
  (segments.reverse.dropWhile isIdle).reverse

theorem dropIdle_prefix (segments : List (List Char)) : dropIdle segments <+: segments := by
  rw [← List.reverse_suffix, dropIdle, List.reverse_reverse]
  exact List.dropWhile_suffix isIdle

theorem length_pos_of_isIdle {segment : List Char} (h : isIdle segment = false) :
    0 < segment.length := by
  rw [isIdle, Bool.or_eq_false_iff, beq_eq_false_iff_ne] at h
  exact List.length_pos_iff.mpr h.1

/-- The last segment that is left says something. -/
theorem isIdle_of_reverse_dropIdle {segments before : List (List Char)} {last : List Char}
    (h : (dropIdle segments).reverse = last :: before) : isIdle last = false := by
  rw [dropIdle, List.reverse_reverse] at h
  have hhead := List.head?_dropWhile_not isIdle segments.reverse
  rw [h] at hhead
  exact hhead

/-- The segments that say something. -/
def names (path : Path) : List (List Char) :=
  (segments path.toList).filter fun s => !isIdle s

/-! ## Parts -/

/-- A path that starts at the root. -/
def isAbsolute (path : Path) : Bool := path.toList.head? == some '/'

/-- The path named `name` below `base`; an absolute `name` stands for itself. -/
def join (base name : Path) : Path :=
  if isAbsolute name then name
  else if base.toList = [] then name
  else if base.toList.getLast? = some '/' then base ++ name
  else base ++ "/" ++ name

/-- The path without its last part: `none` for the root and for the empty path.  What stands
before the last part is left as it is written, except for idle segments at its end. -/
def parent? (path : Path) : Option Path :=
  match segments path.toList with
  | [] => none
  | first :: rest =>
    match (dropIdle rest).reverse with
    | [] => if first = [] then none else some ""
    | _ :: before =>
      let kept := dropIdle before.reverse
      if first = [] ∧ kept = [] then some "/"
      else some (String.ofList (ofSegments (first :: kept)))

/-- The last part of a path, if it is the name of an entry. -/
def fileName? (path : Path) : Option (List Char) :=
  (names path).getLast?.bind fun s => if s = ['.', '.'] then none else some s

/-- A name cut at its last dot: what stands before the dot, and what stands after it if there is
a dot that is not the first character. -/
def splitName (name : List Char) : List Char × Option (List Char) :=
  let after := name.reverse.takeWhile (· != '.')
  let before := name.reverse.dropWhile (· != '.')
  match before with
  | [] => (name, none)
  | _ :: [] => (name, none)
  | _ :: stem => (stem.reverse, some after.reverse)

/-- The last part of a path without its extension. -/
def stem? (path : Path) : Option String :=
  (fileName? path).map fun n => String.ofList (splitName n).1

/-- The extension of the last part of a path, without the dot. -/
def extension? (path : Path) : Option String :=
  ((fileName? path).bind fun n => (splitName n).2).map String.ofList

/-! ## Above a path -/

/-- What stands before the last name is shorter by the name and the slash before it. -/
theorem length_flatMap_dropIdle_lt {rest before : List (List Char)} {last : List Char}
    (h : (dropIdle rest).reverse = last :: before) :
    ((dropIdle before.reverse).flatMap ('/' :: ·)).length + 1 <
      (rest.flatMap ('/' :: ·)).length := by
  have hlast : 0 < last.length := length_pos_of_isIdle (isIdle_of_reverse_dropIdle h)
  -- `rest` is what is kept, idle segments, `last`, and idle segments again
  obtain ⟨idle, hidle⟩ := dropIdle_prefix before.reverse
  obtain ⟨idle', hidle'⟩ := dropIdle_prefix rest
  rw [List.reverse_eq_iff, List.reverse_cons, ← hidle] at h
  rw [← hidle', h]
  simp only [List.flatMap_append, List.flatMap_cons, List.length_append, List.length_cons]
  omega

/-- The path without its last part is shorter. -/
theorem length_lt_of_parent? {path above : Path} (h : parent? path = some above) :
    above.length < path.length := by
  have hpath := congrArg List.length (ofSegments_segments path.toList)
  rw [parent?] at h
  cases hsegments : segments path.toList with
  | nil => exact absurd hsegments (segments_ne_nil _)
  | cons first rest =>
    rw [hsegments, ofSegments_eq_append_flatMap, List.length_append, String.length_toList] at hpath
    rw [hsegments] at h
    dsimp only at h
    cases hrest : (dropIdle rest).reverse with
    | nil =>
      rw [hrest] at h
      dsimp only at h
      split at h
      · cases h
      · next hfirst =>
        cases h
        rw [← hpath]
        exact Nat.add_pos_left (List.length_pos_iff.mpr hfirst) _
    | cons last before =>
      rw [hrest] at h
      dsimp only at h
      have hshorter := length_flatMap_dropIdle_lt hrest
      split at h
      · cases h
        show 1 < path.length
        omega
      · cases h
        rw [← String.length_toList, String.toList_ofList, ofSegments_eq_append_flatMap,
          List.length_append]
        omega

/-- A path and those that are left of it as its last parts are taken away one by one. -/
def ancestors (path : Path) : List Path :=
  path ::
    match h : parent? path with
    | none => []
    | some above =>
      have := length_lt_of_parent? h
      ancestors above
termination_by path.length

end Path
end LintRules
