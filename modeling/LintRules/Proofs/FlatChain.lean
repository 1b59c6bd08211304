import LintRules.Proofs.ResolverTree

/-!
# Chains inside chains

A chain takes the answer of a part that does not find a package, keeps the names that this part has
searched for, and asks the next part.  How the parts are nested shows in none of its answers: a tree
of resolvers answers as the flat chain of its leaves, down to the list of what was searched.  Every
leaf searches for each package that a reference may mean, so that list holds them once per leaf.

* `Resolver.flat`: the chain of the leaves of a tree.
* `Resolver.resolve_flat`, `Resolver.require_flat`: it answers as the tree does.
* `Resolver.resolveInTurn_eq_error_iff`: when leaves that are asked in turn find nothing, and what
  they have searched for then.
* `Resolver.flat_answers`: the statements for a tree together.
-/

namespace LintRules
namespace Resolver

open LoadError

variable {files : Files} {naming : Naming} {kind : PackageKind} {name : String}
  {locator : Locator}

/-- The leaves of a tree in one chain, from left to right. -/
def flat (resolver : Resolver) : Resolver := .chain resolver.leaves

theorem resolve_flat (resolver : Resolver) :
    resolver.flat.resolve files naming kind name = resolver.resolve files naming kind name := by
  rw [resolve_eq_resolveInTurn_leaves resolver, flat, resolve]

theorem require_flat (resolver : Resolver) :
    resolver.flat.require files locator = resolver.require files locator := by
  rw [require_eq_requireInTurn_leaves resolver, flat, require]

/-- A leaf that does not find a package has searched for all that the reference may mean. -/
theorem resolve_leaf_error {leaf : Resolver} (hleaf : leaf.IsLeaf) {e : LoadError}
    (h : leaf.resolve files naming kind name = .error e) :
    e = .notFound kind name (naming.candidates kind name) := by
  cases leaf with
  | catalog packages =>
    rw [resolve, resolveInCatalog] at h
    split at h
    · cases h
    · exact (Except.error.inj h).symm
  | directory base =>
    rw [resolve, resolveInDirectory] at h
    split at h
    · cases h
    · exact (Except.error.inj h).symm
  | chain parts => exact hleaf.elim

/-- **Leaves that are asked in turn fail if each of them does**, and what they have searched for is
added to what was searched before. -/
theorem resolveInTurn_eq_error_iff {l : List Resolver} (hl : ∀ leaf ∈ l, leaf.IsLeaf)
    {searched : List String} {e : LoadError} :
    resolveInTurn files naming kind name searched l = .error e ↔
      (∀ leaf ∈ l, ∃ e', leaf.resolve files naming kind name = .error e') ∧
        e = .notFound kind name (searched ++ l.flatMap fun _ => naming.candidates kind name) := by
  induction l generalizing searched with
  | nil =>
    rw [resolveInTurn, Except.error.injEq, List.flatMap_nil, List.append_nil,
      and_iff_right fun _ h => absurd h List.not_mem_nil, eq_comm]
  | cons leaf rest ih =>
    have hrest : ∀ leaf ∈ rest, leaf.IsLeaf := fun r hr => hl r (List.mem_cons_of_mem _ hr)
    rw [resolveInTurn_cons, List.forall_mem_cons, List.flatMap_cons, ← List.append_assoc]
    cases hleaf : leaf.resolve files naming kind name with
    | ok found =>
      rw [elseSearch_ok]
      simp
    | error e' =>
      obtain rfl := resolve_leaf_error (hl leaf (List.mem_cons_self ..)) hleaf
      rw [elseSearch_notFound, ih hrest, and_assoc]
      exact (and_iff_right ⟨_, rfl⟩).symm

/-- **The nesting of chains does not show.**  Whatever is referred to, a tree of resolvers finds
what the flat chain of its leaves finds, loads from any locator what that chain loads, and fails
with the same error where it fails.  It fails to find a package exactly if all its leaves do; its
error then names the reference that was asked for, and lists the packages that this may mean once
for each leaf. -/
theorem flat_answers (files : Files) (naming : Naming) (kind : PackageKind) (name : String)
    (locator : Locator) (resolver : Resolver) :
    (∀ leaf ∈ resolver.leaves, leaf.IsLeaf) ∧
      resolver.resolve files naming kind name = resolver.flat.resolve files naming kind name ∧
      resolver.require files locator = resolver.flat.require files locator ∧
      ∀ e, resolver.resolve files naming kind name = .error e ↔
        (∀ leaf ∈ resolver.leaves, ∃ e', leaf.resolve files naming kind name = .error e') ∧
          e = .notFound kind name
            (resolver.leaves.flatMap fun _ => naming.candidates kind name) := by
  have hleaves : ∀ leaf ∈ resolver.leaves, leaf.IsLeaf := fun leaf hleaf =>
    isLeaf_of_mem_leaves resolver hleaf
  refine ⟨hleaves, resolver.resolve_flat.symm, resolver.require_flat.symm, fun e => ?_⟩
  rw [resolve_eq_resolveInTurn_leaves, resolveInTurn_eq_error_iff hleaves, List.nil_append]

/-- Neither of the catalogs has the rule `absent`, and the directory between them does not either;
the empty chain is no leaf. -/
theorem scattered_flat_answers :
    (∀ leaf ∈ scattered.leaves, ∃ e, leaf.resolve .none {} .rule "absent" = .error e) ∧
      scattered.resolve .none {} .rule "absent" = .error (.notFound .rule "absent"
        ["textlint-rule-absent", "absent", "textlint-rule-absent", "absent",
          "textlint-rule-absent", "absent"]) := by
  obtain ⟨-, -, -, hsearched⟩ := flat_answers .none {} .rule "absent"
    ⟨.rule, "absent", none⟩ scattered
  have hfails : ∀ leaf ∈ scattered.leaves,
      ∃ e, leaf.resolve .none {} .rule "absent" = .error e := by
    simp only [scattered, leaves, leavesOf, List.nil_append, List.append_nil, List.cons_append,
      List.forall_mem_cons]
    exact ⟨⟨_, rfl⟩, ⟨_, rfl⟩, ⟨_, rfl⟩, fun _ h => absurd h List.not_mem_nil⟩
  exact ⟨hfails, (hsearched _).mpr ⟨hfails, rfl⟩⟩

end Resolver
end LintRules
