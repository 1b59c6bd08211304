import Mathlib.Data.List.Forall2

/-!
# Two lists in one

`Interleaves l m all` says that `all` is made of the lists `l` and `m`, each in its order: every
entry of `all` is one of the two, and none is lost or repeated.

* `Interleaves.append`: interleavings one after another.
* `Interleaves.filterMap`: what a map makes of an interleaving.
* `exists_of_mem_right`, `exists_of_mem_left`: the partner of an entry, in lists that match entry by
  entry.
* `forall₂_append_left`: the parts of such lists.
* `exists_forall₂`: such a list, when every entry has a partner.
-/

namespace LintRules

/-- `all` holds the entries of two lists, each list in its order. -/
inductive Interleaves {α : Type} : List α → List α → List α → Prop
  | nil : Interleaves [] [] []
  /-- The first entry comes from the first list. -/
  | left (a : α) {l m all : List α} (h : Interleaves l m all) : Interleaves (a :: l) m (a :: all)
  /-- The first entry comes from the second list. -/
  | right (a : α) {l m all : List α} (h : Interleaves l m all) : Interleaves l (a :: m) (a :: all)

namespace Interleaves

variable {α β : Type} {l m all l' m' all' : List α}

theorem self_left (l : List α) : Interleaves l [] l := by
  induction l with
  | nil => exact .nil
  | cons a l ih => exact .left a ih

theorem append (h : Interleaves l m all) (h' : Interleaves l' m' all') :
    Interleaves (l ++ l') (m ++ m') (all ++ all') := by
  induction h with
  | nil => exact h'
  | left a _ ih => exact .left a ih
  | right a _ ih => exact .right a ih

theorem filterMap (f : α → Option β) (h : Interleaves l m all) :
    Interleaves (l.filterMap f) (m.filterMap f) (all.filterMap f) := by
  induction h with
  | nil => exact .nil
  | left a _ ih =>
    rcases hf : f a with _ | b
    · rwa [List.filterMap_cons_none hf, List.filterMap_cons_none hf]
    · rw [List.filterMap_cons_some hf, List.filterMap_cons_some hf]
      exact .left b ih
  | right a _ ih =>
    rcases hf : f a with _ | b
    · rwa [List.filterMap_cons_none hf, List.filterMap_cons_none hf]
    · rw [List.filterMap_cons_some hf, List.filterMap_cons_some hf]
      exact .right b ih

theorem map (f : α → β) (h : Interleaves l m all) :
    Interleaves (l.map f) (m.map f) (all.map f) := by
  have hmap := h.filterMap (some ∘ f)
  rwa [List.filterMap_eq_map] at hmap

theorem eq_of_nil (h : Interleaves l [] all) : all = l := by
  induction l generalizing all with
  | nil => cases h; rfl
  | cons a l ih =>
    cases h with
    | left _ h => rw [ih h]

theorem sublist_left (h : Interleaves l m all) : l.Sublist all := by
  induction h with
  | nil => exact .slnil
  | left a _ ih => exact ih.cons_cons a
  | right a _ ih => exact ih.cons a

theorem symm (h : Interleaves l m all) : Interleaves m l all := by
  induction h with
  | nil => exact .nil
  | left a _ ih => exact .right a ih
  | right a _ ih => exact .left a ih

theorem sublist_right (h : Interleaves l m all) : m.Sublist all := h.symm.sublist_left

theorem mem_iff (h : Interleaves l m all) {a : α} : a ∈ all ↔ a ∈ l ∨ a ∈ m := by
  induction h with
  | nil => simp
  | left b _ ih => rw [List.mem_cons, List.mem_cons, ih, or_assoc]
  | right b _ ih => rw [List.mem_cons, List.mem_cons, ih, or_left_comm]

end Interleaves

theorem exists_of_mem_right {α β : Type} {R : α → β → Prop} {l₁ : List α} {l₂ : List β}
    (h : List.Forall₂ R l₁ l₂) {b : β} (hb : b ∈ l₂) : ∃ a ∈ l₁, R a b := by
  induction h with
  | nil => exact absurd hb List.not_mem_nil
  | @cons a first l₁ l₂ hfirst _ ih =>
    rcases List.mem_cons.mp hb with rfl | hb
    · exact ⟨a, List.mem_cons_self .., hfirst⟩
    · obtain ⟨a', ha', hR⟩ := ih hb
      exact ⟨a', List.mem_cons_of_mem _ ha', hR⟩

theorem exists_of_mem_left {α β : Type} {R : α → β → Prop} {l₁ : List α} {l₂ : List β}
    (h : List.Forall₂ R l₁ l₂) {a : α} (ha : a ∈ l₁) : ∃ b ∈ l₂, R a b :=
  exists_of_mem_right h.flip ha

/-- A list related to two lists one after the other falls into two parts. -/
theorem forall₂_append_left {α β : Type} {R : α → β → Prop} {l₁ l₂ : List α} {l : List β}
    (h : List.Forall₂ R (l₁ ++ l₂) l) :
    ∃ m₁ m₂, l = m₁ ++ m₂ ∧ List.Forall₂ R l₁ m₁ ∧ List.Forall₂ R l₂ m₂ := by
  refine ⟨l.take l₁.length, l.drop l₁.length, (List.take_append_drop ..).symm, ?_, ?_⟩
  · have htake := List.forall₂_take l₁.length h
    rwa [List.take_left] at htake
  · have hdrop := List.forall₂_drop l₁.length h
    rwa [List.drop_left] at hdrop

theorem exists_forall₂ {α β : Type} {R : α → β → Prop} {l : List α} (h : ∀ a ∈ l, ∃ b, R a b) :
    ∃ l', List.Forall₂ R l l' := by
  induction l with
  | nil => exact ⟨[], .nil⟩
  | cons a rest ih =>
    obtain ⟨b, hb⟩ := h a (List.mem_cons_self ..)
    obtain ⟨l', hl'⟩ := ih fun a' ha' => h a' (List.mem_cons_of_mem _ ha')
    exact ⟨b :: l', .cons hb hl'⟩

end LintRules
