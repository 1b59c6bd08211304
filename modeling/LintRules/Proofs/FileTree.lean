import LintRules.Files.Tree
import LintRules.Proofs.PathBelow
import LintRules.Table

/-!
# Entries of a directory in a file tree

A path is walked segment by segment, so a name that is joined to the path of a directory leads to
the entry of that name, in whichever way the path of the directory is written.

* `FileTree.walkTo`: where a path leads, whatever its length.
* `FileTree.walk_concat`, `FileTree.walkTo_join`: the last name of a path is looked up in what the
  path before it leads to.
* `FileTree.walkTo_entry_eq_ok_iff`: the entries that a directory has.
-/

namespace LintRules
namespace FileTree

variable {above : List FileTree} {here : FileTree} {base : Path} {name : String}

/-! ## Walking -/

/-- Where a path leads, if it is not refused for what is written in it or for its length. -/
def walkTo (above : List FileTree) (here : FileTree) (path : Path) : Except FileError FileTree :=
  if Path.isAbsolute path then walk (Path.segments path.toList) [] (above.getLast?.getD here)
  else walk (Path.segments path.toList) above here

/-- One step from a directory. -/
theorem walk_cons_directory (segment : List Char) (rest : List (List Char))
    (above : List FileTree) (entries : List (String × FileTree)) :
    walk (segment :: rest) above (.directory entries) =
      if Path.isIdle segment then walk rest above (.directory entries)
      else if segment = ['.', '.'] then
        walk rest above.tail (above.head?.getD (.directory entries))
      else if 255 < (String.ofList segment).utf8ByteSize then .error .nameTooLong
      else match child? (String.ofList segment) (.directory entries) with
        | some next => walk rest (.directory entries :: above) next
        | none => .error .notFound := by
  cases above <;> rw [walk.eq_def] <;> rfl

/-- A step that does not go to the parent does not depend on what is above. -/
theorem walk_singleton {segment : List Char} (h : segment ≠ ['.', '.']) (above : List FileTree)
    (here : FileTree) : walk [segment] above here = walk [segment] [] here := by
  cases here with
  | file text => rfl
  | directory entries =>
    rw [walk_cons_directory, walk_cons_directory, if_neg h, if_neg h]
    split
    · rfl
    · split
      · rfl
      · split <;> rfl

/-- **The last segment is looked up** in what the segments before it lead to. -/
theorem walk_concat {segment : List Char} (h : segment ≠ ['.', '.'])
    (segments : List (List Char)) (above : List FileTree) (here : FileTree) :
    walk (segments ++ [segment]) above here =
      walk segments above here >>= fun tree => walk [segment] [] tree := by
  induction segments generalizing above here with
  | nil => exact walk_singleton h above here
  | cons first rest ih =>
    cases here with
    | file text => rfl
    | directory entries =>
      rw [List.cons_append, walk_cons_directory, walk_cons_directory]
      split
      · exact ih above _
      · split
        · exact ih above.tail _
        · split
          · rfl
          · split
            · exact ih _ _
            · rfl

/-- An empty segment before the last one leads nowhere else. -/
theorem walk_empty_bind (segment : List Char) (tree : FileTree) :
    (walk [[]] [] tree >>= fun tree => walk [segment] [] tree) = walk [segment] [] tree := by
  cases tree <;> rfl

/-- **A name joined to a path** is looked up in what the path leads to. -/
theorem walkTo_join (h : Path.IsEntryName name) :
    walkTo above here (Path.join base name) =
      walkTo above here base >>= fun tree => walk [name.toList] [] tree := by
  have hname := h.toList_ne_parent
  have hwalk : ∀ above here, walk (Path.segments (Path.join base name).toList) above here =
      walk (Path.segments base.toList) above here >>= fun tree => walk [name.toList] [] tree := by
    intro above here
    obtain ⟨before, hjoin, hbase | hbase⟩ := Path.exists_segments_join base h.noSlash
    · rw [hjoin, hbase, walk_concat hname]
    · rw [hjoin, hbase, walk_concat hname, walk_concat (by decide)]
      cases walk before above here with
      | error e => rfl
      | ok tree => exact (walk_empty_bind name.toList tree).symm
  rw [walkTo, walkTo, Path.isAbsolute_join (Path.isAbsolute_eq_false h.noSlash)]
  split
  · exact hwalk _ _
  · exact hwalk _ _

/-! ## Looking up -/

theorem walkTo_of_lookup_eq_ok {path : Path} {tree : FileTree}
    (h : lookup above here path = .ok tree) : walkTo above here path = .ok tree := by
  rw [lookup] at h
  split at h
  · cases h
  · split at h
    · cases h
    · split at h
      · cases h
      · exact h

/-- A path that the system accepts. -/
structure IsAccepted (path : Path) : Prop where
  noNul : '\x00' ∉ path.toList
  nonempty : path ≠ ""
  length : path.utf8ByteSize < 4096

instance (path : Path) : Decidable (IsAccepted path) :=
  decidable_of_iff ('\x00' ∉ path.toList ∧ path ≠ "" ∧ path.utf8ByteSize < 4096)
    ⟨fun ⟨hnul, hempty, hlength⟩ => ⟨hnul, hempty, hlength⟩,
      fun h => ⟨h.noNul, h.nonempty, h.length⟩⟩

theorem lookup_eq_walkTo {path : Path} (h : IsAccepted path) :
    lookup above here path = walkTo above here path := by
  have hempty : ¬ path.toList = [] := fun hempty => h.nonempty (String.toList_inj.mp hempty)
  rw [lookup, if_neg h.noNul, if_neg hempty, if_neg (Nat.not_le.mpr h.length)]
  rfl

theorem isFile_files {path : Path} : (files above here).isFile path = true ↔
    ∃ text, lookup above here path = .ok (.file text) := by
  rw [Files.isFile, files]
  dsimp only
  rcases lookup above here path with e | text | entries
  · simp [Except.map]
  · simp [Except.map]
  · simp [Except.map]

/-! ## Entries of a directory -/

variable {entries : List (String × FileTree)}

theorem child?_directory (name : String) (entries : List (String × FileTree)) :
    child? name (.directory entries) = Entries.find? name entries := by
  rw [child?]
  induction entries with
  | nil => rfl
  | cons e rest ih =>
    rw [List.find?_cons, Entries.find?, ← ih]
    by_cases h : e.1 = name
    · rw [if_pos h, beq_iff_eq.mpr h]
      rfl
    · rw [if_neg h, beq_eq_false_iff_ne.mpr h]

/-- One step to an entry. -/
theorem walk_entry (h : Path.IsEntryName name) (above : List FileTree) :
    walk [name.toList] above (.directory entries) =
      if 255 < name.utf8ByteSize then .error .nameTooLong
      else match Entries.find? name entries with
        | some tree => .ok tree
        | none => .error .notFound := by
  rw [walk_cons_directory, h.isIdle_eq_false, if_neg Bool.false_ne_true,
    if_neg h.toList_ne_parent, String.ofList_toList, child?_directory]
  split
  · rfl
  · split <;> rfl

/-- **The path of an entry leads to the entry.** -/
theorem walkTo_entry_eq_ok_iff (hbase : walkTo above here base = .ok (.directory entries))
    (h : Path.IsEntryName name) {tree : FileTree} :
    walkTo above here (Path.join base name) = .ok tree ↔
      name.utf8ByteSize ≤ 255 ∧ Entries.find? name entries = some tree := by
  rw [walkTo_join h, hbase]
  dsimp only [bind, Except.bind]
  rw [walk_entry h, ← Nat.not_lt]
  split
  · next hlong => exact iff_of_false (fun heq => by cases heq) fun hfits => hfits.1 hlong
  · next hfits =>
    rw [and_iff_right hfits]
    cases Entries.find? name entries <;> simp

/-- Nothing is below a file. -/
theorem walkTo_join_of_file {text : Except FileError String}
    (hbase : walkTo above here base = .ok (.file text)) (h : Path.IsEntryName name) :
    walkTo above here (Path.join base name) = .error .notADirectory := by
  rw [walkTo_join h, hbase]
  rfl

end FileTree
end LintRules
