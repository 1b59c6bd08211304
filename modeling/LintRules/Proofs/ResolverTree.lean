import LintRules.Resolver

/-!
# Trees of resolvers

A chain may hold other chains, so resolvers are trees.  Their leaves, the catalogs and directories,
are what answers; a chain only asks its parts from left to right and goes on when a package is not
found.

* `Resolver.leaves`: the leaves of a tree from left to right.
* `Resolver.resolve_eq_resolveInTurn_leaves`, `Resolver.require_eq_requireInTurn_leaves`: a tree
  answers as its leaves do when they are asked in turn.
* `Resolver.Provides`: the answer of a leaf about a package of its own.
* `Resolver.require_of_resolve`: the module at a locator that a tree has found is that of the leaf
  that has found it, although a chain does not remember which of its parts that was.
-/

namespace LintRules

/-! ## Answers that are passed on -/

namespace LoadError

variable {α : Type}

/-- Goes on when a package is not found, with the names that were searched for it. -/
def elseSearch (answer : Except LoadError α) (next : List String → Except LoadError α) :
    Except LoadError α :=
  match answer with
  | .error (.notFound _ _ searched) => next searched
  | answer => answer

@[simp] theorem elseSearch_notFound (kind : PackageKind) (name : String) (searched : List String)
    (next : List String → Except LoadError α) :
    elseSearch (.error (.notFound kind name searched)) next = next searched := rfl

@[simp] theorem elseSearch_ok (a : α) (next : List String → Except LoadError α) :
    elseSearch (.ok a) next = .ok a := rfl

theorem elseSearch_elseSearch (answer : Except LoadError α)
    (next later : List String → Except LoadError α) :
    elseSearch (elseSearch answer next) later =
      elseSearch answer fun searched => elseSearch (next searched) later := by
  cases answer with
  | ok a => rfl
  | error e => cases e <;> rfl

/-- The package that was asked for is there, although it may be broken. -/
def Found (answer : Except LoadError α) : Prop := ∀ e, answer = .error e → e.isNotFound = false

theorem found_ok (a : α) : Found (.ok a) := by
  intro e h
  cases h

theorem found_error {e : LoadError} (h : e.isNotFound = false) :
    Found (.error e : Except LoadError α) := by
  intro e' h'
  rw [← Except.error.inj h']
  exact h

theorem Found.bind {β : Type} {answer : Except LoadError α} {next : α → Except LoadError β}
    (h : Found answer) (hnext : ∀ a, Found (next a)) : Found (answer >>= next) := by
  cases answer with
  | ok a => exact hnext a
  | error e => exact found_error (h e rfl)

theorem Found.map {β : Type} {answer : Except LoadError α} (h : Found answer) (f : α → β) :
    Found (answer.map f) := by
  cases answer with
  | ok a => exact found_ok (f a)
  | error e => exact found_error (h e rfl)

/-- Nothing else is asked once the package is found. -/
theorem elseSearch_of_found {answer : Except LoadError α} (h : Found answer)
    (next : List String → Except LoadError α) : elseSearch answer next = answer := by
  cases answer with
  | ok a => rfl
  | error e =>
    cases e with
    | notFound kind name searched => exact absurd (h _ rfl) (by simp [isNotFound])
    | _ => rfl

end LoadError

namespace Resolver

open LoadError

variable {files : Files} {naming : Naming} {kind : PackageKind} {name : String}
  {locator : Locator}

/-! ## Leaves -/

mutual

/-- The catalogs and directories of a tree, from left to right. -/
def leaves : Resolver → List Resolver
  | .catalog packages => [.catalog packages]
  | .directory base => [.directory base]
  | .chain parts => leavesOf parts

/-- The leaves of trees one after another. -/
def leavesOf : List Resolver → List Resolver
  | [] => []
  | r :: rest => leaves r ++ leavesOf rest

end

/-- A resolver that answers itself. -/
def IsLeaf : Resolver → Prop
  | .catalog _ | .directory _ => True
  | .chain _ => False

mutual

theorem isLeaf_of_mem_leaves : ∀ (r : Resolver) {leaf : Resolver}, leaf ∈ r.leaves → leaf.IsLeaf
  | .catalog packages, leaf, h => by
    rw [leaves, List.mem_singleton] at h
    rw [h]
    trivial
  | .directory base, leaf, h => by
    rw [leaves, List.mem_singleton] at h
    rw [h]
    trivial
  | .chain parts, leaf, h => by
    rw [leaves] at h
    exact isLeaf_of_mem_leavesOf parts h

theorem isLeaf_of_mem_leavesOf :
    ∀ (parts : List Resolver) {leaf : Resolver}, leaf ∈ leavesOf parts → leaf.IsLeaf
  | [], leaf, h => by
    rw [leavesOf] at h
    exact absurd h List.not_mem_nil
  | r :: rest, leaf, h => by
    rw [leavesOf, List.mem_append] at h
    rcases h with h | h
    · exact isLeaf_of_mem_leaves r h
    · exact isLeaf_of_mem_leavesOf rest h

end

/-! ## Resolving in turn -/

theorem resolveInTurn_cons (searched : List String) (r : Resolver) (rest : List Resolver) :
    resolveInTurn files naming kind name searched (r :: rest) =
      elseSearch (r.resolve files naming kind name) fun more =>
        resolveInTurn files naming kind name (searched ++ more) rest := by
  rw [resolveInTurn]
  cases r.resolve files naming kind name with
  | ok locator => rfl
  | error e => cases e <;> rfl

/-- Asking one list of resolvers after another. -/
theorem resolveInTurn_append (searched : List String) (l₁ l₂ : List Resolver) :
    resolveInTurn files naming kind name searched (l₁ ++ l₂) =
      elseSearch (resolveInTurn files naming kind name searched l₁) fun more =>
        resolveInTurn files naming kind name more l₂ := by
  induction l₁ generalizing searched with
  | nil =>
    rw [List.nil_append, resolveInTurn.eq_def files naming kind name searched []]
    rfl
  | cons r rest ih =>
    rw [List.cons_append, resolveInTurn_cons, resolveInTurn_cons, elseSearch_elseSearch]
    simp only [ih]

/-- What was searched before only shows in the list of what was searched. -/
theorem resolveInTurn_searched (searched : List String) (l : List Resolver) :
    resolveInTurn files naming kind name searched l =
      elseSearch (resolveInTurn files naming kind name [] l) fun more =>
        .error (.notFound kind name (searched ++ more)) := by
  induction l generalizing searched with
  | nil =>
    rw [resolveInTurn, resolveInTurn, elseSearch_notFound, List.append_nil]
  | cons r rest ih =>
    rw [resolveInTurn_cons, resolveInTurn_cons, elseSearch_elseSearch]
    congr 1
    funext more
    rw [ih, ih ([] ++ more), elseSearch_elseSearch]
    simp only [elseSearch_notFound, List.nil_append, List.append_assoc]

mutual

/-- A resolver fails only in not finding a package. -/
theorem resolve_error : ∀ (r : Resolver) {e : LoadError},
    r.resolve files naming kind name = .error e → ∃ searched, e = .notFound kind name searched
  | .catalog packages, e, h => by
    rw [resolve, resolveInCatalog] at h
    split at h
    · cases h
    · exact ⟨_, (Except.error.inj h).symm⟩
  | .directory base, e, h => by
    rw [resolve, resolveInDirectory] at h
    split at h
    · cases h
    · exact ⟨_, (Except.error.inj h).symm⟩
  | .chain parts, e, h => by
    rw [resolve] at h
    exact resolveInTurn_error parts [] h

theorem resolveInTurn_error : ∀ (parts : List Resolver) (searched : List String) {e : LoadError},
    resolveInTurn files naming kind name searched parts = .error e →
      ∃ searched, e = .notFound kind name searched
  | [], searched, e, h => by
    rw [resolveInTurn] at h
    exact ⟨searched, (Except.error.inj h).symm⟩
  | r :: rest, searched, e, h => by
    rw [resolveInTurn_cons] at h
    cases hr : r.resolve files naming kind name with
    | ok locator =>
      rw [hr] at h
      cases h
    | error e' =>
      obtain ⟨more, rfl⟩ := resolve_error r hr
      rw [hr, elseSearch_notFound] at h
      exact resolveInTurn_error rest _ h

end

theorem resolve_eq_resolveInTurn_singleton (r : Resolver) :
    r.resolve files naming kind name = resolveInTurn files naming kind name [] [r] := by
  rw [resolveInTurn_cons]
  cases hr : r.resolve files naming kind name with
  | ok locator => rfl
  | error e =>
    obtain ⟨searched, rfl⟩ := resolve_error r hr
    rw [elseSearch_notFound, resolveInTurn, List.nil_append]

mutual

/-- **A tree resolves as its leaves do in turn**, also in what it lists as searched. -/
theorem resolve_eq_resolveInTurn_leaves : ∀ r : Resolver,
    r.resolve files naming kind name = resolveInTurn files naming kind name [] r.leaves
  | .catalog packages => by
    rw [leaves]
    exact resolve_eq_resolveInTurn_singleton (.catalog packages)
  | .directory base => by
    rw [leaves]
    exact resolve_eq_resolveInTurn_singleton (.directory base)
  | .chain parts => by
    rw [resolve, leaves]
    exact resolveInTurn_eq_resolveInTurn_leavesOf parts []

theorem resolveInTurn_eq_resolveInTurn_leavesOf : ∀ (parts : List Resolver)
    (searched : List String), resolveInTurn files naming kind name searched parts =
      resolveInTurn files naming kind name searched (leavesOf parts)
  | [], searched => by rw [leavesOf]
  | r :: rest, searched => by
    rw [leavesOf, resolveInTurn_append, resolveInTurn_searched searched r.leaves,
      ← resolve_eq_resolveInTurn_leaves r, elseSearch_elseSearch, resolveInTurn_cons]
    simp only [elseSearch_notFound, resolveInTurn_eq_resolveInTurn_leavesOf rest]

end

/-! ## Package files

A package file that is there may be broken, but its package is not missing. -/

theorem found_ofFile (path : Path) : Found (Manifest.ofFile files path) := by
  rw [Manifest.ofFile]
  split
  · exact found_error rfl
  · split
    · exact found_error rfl
    · exact found_ok _

theorem found_toHandler (package : String) (rule : TermRule) :
    Found (rule.toHandler package) := by
  rw [TermRule.toHandler]
  split
  · exact found_error rfl
  · split
    · exact found_error rfl
    · exact found_ok _

theorem found_handlers (package : String) (rules : List (String × TermRule)) :
    Found (Manifest.handlers package rules) := by
  induction rules with
  | nil => exact found_ok []
  | cons entry rest ih =>
    exact (found_toHandler _ entry.2).bind fun _ => ih.bind fun _ => found_ok _

theorem found_toModule (package : String) (manifest : Manifest) :
    Found (manifest.toModule package) := by
  have htable : ∀ rules, Found (Manifest.handlerTable package rules) := fun rules =>
    (found_handlers package rules.entries).map _
  rw [Manifest.toModule]
  cases manifest.kind with
  | rule =>
    dsimp only
    split
    · exact found_error rfl
    · exact (found_toHandler package _).map _
  | preset =>
    dsimp only
    split
    · exact found_error rfl
    · split
      · exact found_error rfl
      · exact (htable _).map _
  | plugin =>
    dsimp only
    split
    · exact found_ok _
    · exact (htable _).map _

theorem found_requireFile {path : Path} (h : locator.path = some path) :
    Found (requireFile files locator) := by
  rw [requireFile, h]
  exact (found_ofFile path).bind fun manifest => found_toModule _ _

/-! ## Requiring in turn -/

theorem requireInTurn_cons (r : Resolver) (rest : List Resolver) :
    requireInTurn files locator (r :: rest) =
      elseSearch (r.require files locator) fun _ => requireInTurn files locator rest := by
  rw [requireInTurn]
  cases r.require files locator with
  | ok module => rfl
  | error e => cases e <;> rfl

theorem requireInTurn_append (l₁ l₂ : List Resolver) :
    requireInTurn files locator (l₁ ++ l₂) =
      elseSearch (requireInTurn files locator l₁) fun _ => requireInTurn files locator l₂ := by
  induction l₁ with
  | nil =>
    rw [List.nil_append, requireInTurn.eq_def files locator []]
    rfl
  | cons r rest ih =>
    rw [List.cons_append, requireInTurn_cons, requireInTurn_cons, elseSearch_elseSearch]
    simp only [ih]

mutual

/-- A resolver that does not find the package of a locator says that this package is missing. -/
theorem require_missing_or_found : ∀ r : Resolver,
    r.require files locator = .error (missing locator) ∨ Found (r.require files locator)
  | .catalog packages => by
    rw [require]
    split
    · exact Or.inr (found_ok _)
    · exact Or.inl rfl
  | .directory base => by
    rw [require]
    cases hpath : locator.path with
    | none =>
      rw [requireFile, hpath]
      exact Or.inl rfl
    | some path => exact Or.inr (found_requireFile hpath)
  | .chain parts => by
    rw [require]
    exact requireInTurn_missing_or_found parts

theorem requireInTurn_missing_or_found : ∀ parts : List Resolver,
    requireInTurn files locator parts = .error (missing locator) ∨
      Found (requireInTurn files locator parts)
  | [] => by
    rw [requireInTurn]
    exact Or.inl rfl
  | r :: rest => by
    rw [requireInTurn_cons]
    rcases require_missing_or_found r with hr | hr
    · rw [hr, missing, elseSearch_notFound, ← missing]
      exact requireInTurn_missing_or_found rest
    · rw [elseSearch_of_found hr]
      exact Or.inr hr

end

theorem require_eq_requireInTurn_singleton (r : Resolver) :
    r.require files locator = requireInTurn files locator [r] := by
  rw [requireInTurn_cons]
  rcases require_missing_or_found r with hr | hr
  · rw [hr, missing, elseSearch_notFound, requireInTurn, missing]
  · rw [elseSearch_of_found hr]

mutual

/-- **A tree requires as its leaves do in turn.** -/
theorem require_eq_requireInTurn_leaves : ∀ r : Resolver,
    r.require files locator = requireInTurn files locator r.leaves
  | .catalog packages => by
    rw [leaves]
    exact require_eq_requireInTurn_singleton (.catalog packages)
  | .directory base => by
    rw [leaves]
    exact require_eq_requireInTurn_singleton (.directory base)
  | .chain parts => by
    rw [require, leaves]
    exact requireInTurn_eq_requireInTurn_leavesOf parts

theorem requireInTurn_eq_requireInTurn_leavesOf : ∀ parts : List Resolver,
    requireInTurn files locator parts = requireInTurn files locator (leavesOf parts)
  | [] => by rw [leavesOf]
  | r :: rest => by
    rw [leavesOf, requireInTurn_append, ← require_eq_requireInTurn_leaves r, requireInTurn_cons,
      requireInTurn_eq_requireInTurn_leavesOf rest]

end

/-! ## Requiring what was resolved -/

/-- The first of some resolvers that does not refuse a reference. -/
theorem exists_first_of_resolveInTurn {searched : List String} {l : List Resolver}
    (h : resolveInTurn files naming kind name searched l = .ok locator) :
    ∃ before first after, l = before ++ first :: after ∧
      (∀ r ∈ before, ∃ searched,
        r.resolve files naming kind name = .error (.notFound kind name searched)) ∧
      first.resolve files naming kind name = .ok locator := by
  induction l generalizing searched with
  | nil =>
    rw [resolveInTurn] at h
    cases h
  | cons r rest ih =>
    rw [resolveInTurn_cons] at h
    cases hr : r.resolve files naming kind name with
    | ok other =>
      rw [hr, elseSearch_ok] at h
      exact ⟨[], r, rest, rfl, fun _ h => absurd h List.not_mem_nil, hr.trans h⟩
    | error e =>
      obtain ⟨more, rfl⟩ := resolve_error r hr
      rw [hr, elseSearch_notFound] at h
      obtain ⟨before, first, after, rfl, hbefore, hfirst⟩ := ih h
      refine ⟨r :: before, first, after, rfl, fun r' hr' => ?_, hfirst⟩
      rcases List.mem_cons.mp hr' with rfl | hr'
      · exact ⟨more, hr⟩
      · exact hbefore r' hr'

/-- Resolvers that miss a package, or answer about it as `first` does, do not keep `first` from
answering. -/
theorem requireInTurn_of_agree {before : List Resolver} {first : Resolver}
    (hfirst : Found (first.require files locator))
    (hbefore : ∀ r ∈ before, r.require files locator = .error (missing locator) ∨
      r.require files locator = first.require files locator) (after : List Resolver) :
    requireInTurn files locator (before ++ first :: after) = first.require files locator := by
  induction before with
  | nil => rw [List.nil_append, requireInTurn_cons, elseSearch_of_found hfirst]
  | cons r rest ih =>
    rw [List.cons_append, requireInTurn_cons]
    rcases hbefore r (List.mem_cons_self ..) with hr | hr
    · rw [hr, missing, elseSearch_notFound]
      exact ih fun r' hr' => hbefore r' (List.mem_cons_of_mem _ hr')
    · rw [hr, elseSearch_of_found hfirst]

/-- The answer of a leaf about a package of its own: a module of the catalog under the name of the
package, or the manifest of the package below the directory. -/
inductive Provides (files : Files) (locator : Locator) :
    Resolver → Except LoadError Module → Prop
  | catalog {packages : Table Module} {module : Module} (hpath : locator.path = none)
      (hmodule : packages.get? locator.package = some module) :
      Provides files locator (.catalog packages) (.ok module)
  | directory {base path : Path} (hpath : locator.path = some path)
      (hmem : path ∈ manifestPaths base locator.package) (hfile : files.isFile path = true) :
      Provides files locator (.directory base) (do
        let manifest ← Manifest.ofFile files path
        (manifest.referredAs locator.kind).toModule locator.package)

theorem Provides.found {leaf : Resolver} {answer : Except LoadError Module}
    (h : leaf.Provides files locator answer) : Found answer := by
  cases h with
  | catalog hpath hmodule => exact found_ok _
  | @directory base path hpath hmem hfile =>
    exact (found_ofFile path).bind fun manifest => found_toModule _ _

theorem resolveInCatalog_eq_ok {packages : Table Module}
    (h : resolveInCatalog packages naming kind name = .ok locator) :
    locator.package ∈ naming.candidates kind name ∧ locator.path = none ∧
      packages.contains locator.package = true := by
  rw [resolveInCatalog] at h
  split at h
  · next package hfind =>
    rw [← Except.ok.inj h]
    exact ⟨List.mem_of_find?_eq_some hfind, rfl, List.find?_some hfind⟩
  · cases h

theorem resolveInDirectory_eq_ok {base : Path}
    (h : resolveInDirectory files base naming kind name = .ok locator) :
    locator.package ∈ naming.candidates kind name ∧ ∃ path, locator.path = some path ∧
      path ∈ manifestPaths base locator.package ∧ files.isFile path = true := by
  rw [resolveInDirectory] at h
  split at h
  · next package path hfound =>
    obtain ⟨candidate, hmem, hmap⟩ := List.exists_of_findSome?_eq_some hfound
    obtain ⟨path', hfind, hpair⟩ := Option.map_eq_some_iff.mp hmap
    rw [← Except.ok.inj h]
    rw [Prod.mk.injEq] at hpair
    obtain ⟨rfl, rfl⟩ := hpair
    exact ⟨hmem, path', rfl, List.mem_of_find?_eq_some hfind, List.find?_some hfind⟩
  · cases h

/-- A leaf that finds a package provides it. -/
theorem provides_of_resolve {leaf : Resolver} (hleaf : leaf.IsLeaf)
    (h : leaf.resolve files naming kind name = .ok locator) :
    leaf.Provides files locator (leaf.require files locator) := by
  cases leaf with
  | catalog packages =>
    rw [resolve] at h
    obtain ⟨-, hpath, hcontains⟩ := resolveInCatalog_eq_ok h
    obtain ⟨module, hmodule⟩ := Option.isSome_iff_exists.mp hcontains
    rw [require, hmodule]
    exact .catalog hpath hmodule
  | directory base =>
    rw [resolve] at h
    obtain ⟨-, path, hpath, hmem, hfile⟩ := resolveInDirectory_eq_ok h
    rw [require, requireFile, hpath]
    exact .directory hpath hmem hfile
  | chain parts => exact hleaf.elim

/-- Whatever leaf finds a package, it is one that the reference may mean. -/
theorem package_mem_candidates {leaf : Resolver} (hleaf : leaf.IsLeaf)
    (h : leaf.resolve files naming kind name = .ok locator) :
    locator.package ∈ naming.candidates kind name := by
  cases leaf with
  | catalog packages =>
    rw [resolve] at h
    exact (resolveInCatalog_eq_ok h).1
  | directory base =>
    rw [resolve] at h
    exact (resolveInDirectory_eq_ok h).1
  | chain parts => exact hleaf.elim

/-- A catalog that refuses a reference has none of the packages that the reference may mean. -/
theorem require_catalog_of_resolve_error {packages : Table Module} {e : LoadError}
    (h : (catalog packages).resolve files naming kind name = .error e)
    (hmem : locator.package ∈ naming.candidates kind name) :
    (catalog packages).require files locator = .error (missing locator) := by
  rw [resolve, resolveInCatalog] at h
  split at h
  · cases h
  · next hfind =>
    have hnone : packages.get? locator.package = none := by
      have := List.find?_eq_none.mp hfind _ hmem
      rwa [Table.contains, Bool.not_eq_true, Option.isSome_eq_false_iff,
        Option.isNone_iff_eq_none] at this
    rw [require, hnone]

/-- A leaf that refuses a reference misses the package that another leaf finds for it, or answers
about it as the other leaf does: a directory reads the file of a locator wherever it is. -/
theorem require_missing_or_agree {leaf other : Resolver} (hleaf : leaf.IsLeaf)
    (hother : other.IsLeaf) {e : LoadError}
    (hrefuse : other.resolve files naming kind name = .error e)
    (hresolve : leaf.resolve files naming kind name = .ok locator) :
    other.require files locator = .error (missing locator) ∨
      other.require files locator = leaf.require files locator := by
  cases other with
  | catalog packages =>
    exact Or.inl
      (require_catalog_of_resolve_error hrefuse (package_mem_candidates hleaf hresolve))
  | directory base =>
    cases leaf with
    | catalog packages =>
      rw [resolve] at hresolve
      obtain ⟨-, hpath, -⟩ := resolveInCatalog_eq_ok hresolve
      refine Or.inl ?_
      rw [require, requireFile, hpath]
    | directory base' =>
      rw [require, require]
      exact Or.inr rfl
    | chain parts => exact hleaf.elim
  | chain parts => exact hother.elim

/-- **The leaf that finds a package is the leaf that loads it.**  A locator that a tree of resolvers
finds is that of its first leaf that finds one, and the tree loads from it what this leaf loads: a
package of the leaf's own, which is there, although it may be broken. -/
theorem require_of_resolve (files : Files) (naming : Naming) (kind : PackageKind) (name : String)
    (resolver : Resolver) {locator : Locator}
    (h : resolver.resolve files naming kind name = .ok locator) :
    ∃ before leaf after, resolver.leaves = before ++ leaf :: after ∧
      (∀ earlier ∈ before, ∃ searched,
        earlier.resolve files naming kind name = .error (.notFound kind name searched)) ∧
      leaf.resolve files naming kind name = .ok locator ∧
      resolver.require files locator = leaf.require files locator ∧
      leaf.Provides files locator (resolver.require files locator) ∧
      ∀ e, resolver.require files locator = .error e → e.isNotFound = false := by
  rw [resolve_eq_resolveInTurn_leaves] at h
  obtain ⟨before, leaf, after, hleaves, hbefore, hresolve⟩ := exists_first_of_resolveInTurn h
  have hisLeaf : ∀ r ∈ before ++ leaf :: after, r.IsLeaf := by
    intro r hr
    rw [← hleaves] at hr
    exact isLeaf_of_mem_leaves resolver hr
  have hleaf : leaf.IsLeaf := hisLeaf leaf (by simp)
  have hprovides := provides_of_resolve hleaf hresolve
  have hagree : ∀ r ∈ before, r.require files locator = .error (missing locator) ∨
      r.require files locator = leaf.require files locator := by
    intro r hr
    obtain ⟨searched, hrefuse⟩ := hbefore r hr
    exact require_missing_or_agree hleaf (hisLeaf r (List.mem_append_left _ hr)) hrefuse hresolve
  have hrequire : resolver.require files locator = leaf.require files locator := by
    rw [require_eq_requireInTurn_leaves, hleaves]
    exact requireInTurn_of_agree hprovides.found hagree after
  refine ⟨before, leaf, after, hleaves, hbefore, hresolve, hrequire, ?_, ?_⟩
  · rw [hrequire]
    exact hprovides
  · rw [hrequire]
    exact hprovides.found

/-- A catalog that lacks the rule `shared`, a chain in a chain with nothing below its directory, and
a catalog that has the rule. -/
def scattered : Resolver :=
  .chain [.catalog (.ofList [("textlint-rule-other", .rule (.builtIn "other" .lint none))]),
    .chain [.chain [], .directory "packages"],
    .catalog (.ofList [("textlint-rule-shared", .rule (.builtIn "shared" .lint none))])]

/-- The rule is the one of the last catalog. -/
theorem scattered_require :
    ∃ locator module, scattered.resolve .none {} .rule "shared" = .ok locator ∧
      scattered.require .none locator = .ok module ∧
      ∃ before leaf after, scattered.leaves = before ++ leaf :: after ∧
        leaf.Provides .none locator (scattered.require .none locator) ∧
        scattered.require .none locator = leaf.require .none locator := by
  have hresolve : scattered.resolve .none {} .rule "shared" =
      .ok ⟨.rule, "textlint-rule-shared", none⟩ := rfl
  obtain ⟨before, leaf, after, hleaves, -, -, hrequire, hprovides, -⟩ :=
    require_of_resolve .none {} .rule "shared" scattered hresolve
  exact ⟨_, _, hresolve, rfl, before, leaf, after, hleaves, hprovides, hrequire⟩

end Resolver
end LintRules
