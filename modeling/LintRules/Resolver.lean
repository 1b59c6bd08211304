import LintRules.Manifest.Reading

/-!
# Resolving references

A resolver turns a reference into a locator, and a locator into a module.  There are catalogs of
modules, directories of package files, and chains of resolvers that are asked in turn; a chain goes
on only when a package is not found.

* `Resolver.resolve`: where the package of a reference is.
* `Resolver.require`: the module at a locator.
* `PackageSource`: the two answers as functions, which is all that the loader sees of a resolver.
-/

namespace LintRules

/-- The answers of a resolver. -/
structure PackageSource where
  resolve : Naming → PackageKind → String → Except LoadError Locator
  require : Locator → Except LoadError Module

/-- Where packages come from. -/
inductive Resolver where
  /-- Modules under the names of their packages. -/
  | catalog (packages : Table Module)
  /-- The packages in a directory. -/
  | directory (base : Path)
  /-- Resolvers that are asked in turn. -/
  | chain (parts : List Resolver)
  deriving Inhabited

/-! ## Package files -/

/-- The extensions of manifests, in the order in which they are tried. -/
def manifestExtensions : List String := ["yml", "yaml", "json"]

/-- The files that may hold the manifest of a package: a file of its name first, then a file in a
directory of its name. -/
def manifestPaths (base : Path) (package : String) : List Path :=
  manifestExtensions.map (fun ext => Path.join base (package ++ "." ++ ext)) ++
    manifestExtensions.map fun ext => Path.join (Path.join base package) ("textlint." ++ ext)

/-- The first of the files of a package that exists. -/
def Files.findManifest? (files : Files) (base : Path) (package : String) : Option Path :=
  (manifestPaths base package).find? files.isFile

/-- The manifest of a package that was referred to as some kind: one that claims to be a rule and
has no terms is what it was referred to as. -/
def Manifest.referredAs (kind : PackageKind) (manifest : Manifest) : Manifest :=
  if manifest.kind = .rule && manifest.terms.isEmpty then { manifest with kind } else manifest

namespace Resolver

/-! ## Resolving -/

/-- The package of a catalog that a name means. -/
def resolveInCatalog (packages : Table Module) (naming : Naming) (kind : PackageKind)
    (name : String) : Except LoadError Locator :=
  let candidates := naming.candidates kind name
  match candidates.find? packages.contains with
  | some package => .ok ⟨kind, package, none⟩
  | none => .error (.notFound kind name candidates)

/-- The package of a directory that a name means. -/
def resolveInDirectory (files : Files) (base : Path) (naming : Naming) (kind : PackageKind)
    (name : String) : Except LoadError Locator :=
  let candidates := naming.candidates kind name
  let found := candidates.findSome? fun package =>
    (files.findManifest? base package).map fun path => (package, path)
  match found with
  | some (package, path) => .ok ⟨kind, package, some path⟩
  | none => .error (.notFound kind name candidates)

mutual

/-- Where the package of a reference is. -/
def resolve (files : Files) (naming : Naming) (kind : PackageKind) (name : String) :
    Resolver → Except LoadError Locator
  | .catalog packages => resolveInCatalog packages naming kind name
  | .directory base => resolveInDirectory files base naming kind name
  | .chain parts => resolveInTurn files naming kind name [] parts

/-- Asks resolvers in turn.  `searched` are the packages that those before have looked for. -/
def resolveInTurn (files : Files) (naming : Naming) (kind : PackageKind) (name : String)
    (searched : List String) : List Resolver → Except LoadError Locator
  | [] => .error (.notFound kind name searched)
  | r :: rest =>
    match resolve files naming kind name r with
    | .error (.notFound _ _ more) =>
      resolveInTurn files naming kind name (searched ++ more) rest
    | answer => answer

end

/-! ## Requiring -/

/-- The error for a locator that a resolver knows nothing of. -/
def missing (locator : Locator) : LoadError :=
  .notFound locator.kind locator.package [locator.package]

/-- The module in the file of a locator. -/
def requireFile (files : Files) (locator : Locator) : Except LoadError Module :=
  match locator.path with
  | none => .error (missing locator)
  | some path => do
    let manifest ← Manifest.ofFile files path
    (manifest.referredAs locator.kind).toModule locator.package

mutual

/-- The module at a locator. -/
def require (files : Files) (locator : Locator) : Resolver → Except LoadError Module
  | .catalog packages =>
    match packages.get? locator.package with
    | some module => .ok module
    | none => .error (missing locator)
  | .directory _ => requireFile files locator
  | .chain parts => requireInTurn files locator parts

/-- Asks resolvers in turn. -/
def requireInTurn (files : Files) (locator : Locator) :
    List Resolver → Except LoadError Module
  | [] => .error (missing locator)
  | r :: rest =>
    match require files locator r with
    | .error (.notFound ..) => requireInTurn files locator rest
    | answer => answer

end

/-- The answers of a resolver over a file system. -/
def source (files : Files) (resolver : Resolver) : PackageSource where
  resolve naming kind name := resolver.resolve files naming kind name
  require locator := resolver.require files locator

end Resolver
end LintRules
