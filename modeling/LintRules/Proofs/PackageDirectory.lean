import LintRules.Proofs.Confinement
import LintRules.Proofs.FileTree
import LintRules.Proofs.PackageAnswers
import LintRules.Proofs.Table

/-!
# Packages in a directory and in a catalog

A set of packages can be given to a load in two ways: the manifests as the files of a directory, or
the modules that they declare as a catalog.  A catalog looks a name up; a directory tries the files
that a package may be in, reads the one that is there, and makes a module of it as the kind that it
was referred to as.  For references that are names of entries both answer the same.

* `PackageSet`: packages with distinct names whose manifests declare modules.
* `PackageSet.IsHeldIn`: the directory holds the packages, and no other file.  By
  `PackageSet.isHeldIn_files` there is such a directory in a file tree.
* `PackageSet.findManifest?_eq`: the file that is found for a name.
* `PackageSet.exported_ofResolver`: a reference that is answered by the directory and the catalog.
* `PackageSet.loadConfig_inDirectory`: the loads of a config by the two.
-/

namespace LintRules

/-! ## Packages -/

/-- A package whose manifest is written down and declares a module. -/
structure WrittenPackage where
  name : String
  text : String
  manifest : Manifest
  module : Module
  noSlash : '/' ∉ name.toList
  reads : Manifest.ofText text = .ok manifest
  declares : manifest.toModule name = .ok module

/-- The file of a package. -/
def WrittenPackage.fileName (package : WrittenPackage) : String := package.name ++ ".yml"

/-- The file of a package can be written in the directory: neither its name nor its path is refused
by the system. -/
structure WrittenPackage.Fits (package : WrittenPackage) (base : Path) : Prop where
  name : package.fileName.utf8ByteSize ≤ 255
  path : FileTree.IsAccepted (Path.join base package.fileName)

instance (package : WrittenPackage) (base : Path) : Decidable (package.Fits base) :=
  decidable_of_iff (package.fileName.utf8ByteSize ≤ 255 ∧
      FileTree.IsAccepted (Path.join base package.fileName))
    ⟨fun ⟨hname, hpath⟩ => ⟨hname, hpath⟩, fun h => ⟨h.name, h.path⟩⟩

/-- Packages under distinct names. -/
structure PackageSet where
  packages : List WrittenPackage
  nodup : (packages.map (·.name)).Nodup

/-- A manifest that declares a module declares it whatever it is referred to as: one that claims to
be a rule has terms. -/
theorem Manifest.referredAs_of_toModule {manifest : Manifest} {package : String} {module : Module}
    (h : manifest.toModule package = .ok module) (kind : PackageKind) :
    manifest.referredAs kind = manifest := by
  rw [referredAs]
  refine if_neg ?_
  intro hclaim
  rw [Bool.and_eq_true, decide_eq_true_eq] at hclaim
  obtain ⟨hkind, hterms⟩ := hclaim
  rw [toModule, hkind] at h
  dsimp only at h
  split at h
  · cases h
  · rw [TermRule.toHandler, if_pos hterms] at h
    cases h

/-- A name without slashes with the extension of a manifest is the name of an entry. -/
theorem isEntryName_manifestFile {package ext : String} (hslash : '/' ∉ package.toList)
    (hext : ext ∈ manifestExtensions) : Path.IsEntryName (package ++ "." ++ ext) := by
  obtain ⟨hlength, hextSlash, -, -⟩ := manifestExtensions_spec ext hext
  have hlong : 2 < (package ++ "." ++ ext).toList.length := by
    have hdot : ".".toList.length = 1 := rfl
    rw [String.toList_append, String.toList_append, List.length_append, List.length_append]
    omega
  have hne : ∀ {short : String}, short.toList.length ≤ 2 → package ++ "." ++ ext ≠ short := by
    rintro short hshort rfl
    omega
  refine ⟨hne (by decide), ?_, hne (by decide), hne (by decide)⟩
  rw [String.append_assoc, String.toList_append, List.mem_append, not_or]
  exact ⟨hslash, hextSlash⟩

theorem manifestFile_yml (package : String) : package ++ "." ++ "yml" = package ++ ".yml" :=
  String.append_assoc ..

theorem WrittenPackage.isEntryName_fileName (package : WrittenPackage) :
    Path.IsEntryName package.fileName := by
  rw [fileName, ← manifestFile_yml]
  exact isEntryName_manifestFile package.noSlash (by decide)

/-- A file with an extension of manifests is the file of no package but the one of its name. -/
theorem eq_of_manifestFile_eq {package name ext : String} (hext : ext ∈ manifestExtensions)
    (h : package ++ "." ++ ext = name ++ ".yml") : package = name := by
  have hreverse := congrArg (fun file => file.toList.reverse) h
  simp only [manifestExtensions, List.mem_cons, List.not_mem_nil, or_false] at hext
  rcases hext with rfl | rfl | rfl
  · rw [String.append_assoc] at h
    exact (String.append_left_inj _).mp h
  · -- the extensions differ in the character before `ml`
    simp at hreverse
  · simp at hreverse

/-! ## Plain references -/

/-- All packages that the reference may mean have names that an entry of a directory may have. -/
def Naming.IsPlain (naming : Naming) (kind : PackageKind) (name : String) : Prop :=
  ∀ package ∈ naming.candidates kind name, Path.IsEntryName package

instance (naming : Naming) (kind : PackageKind) (name : String) :
    Decidable (naming.IsPlain kind name) :=
  inferInstanceAs (Decidable (∀ package ∈ naming.candidates kind name, Path.IsEntryName package))

/-- The item is a rule directory or a plain reference. -/
def LoadItem.IsPlain (naming : Naming) : LoadItem → Prop
  | .directory _ => True
  | .rule name => naming.IsPlain .rule name
  | .preset name => naming.IsPlain .preset name
  | .plugin name => naming.IsPlain .plugin name

instance (naming : Naming) : ∀ item : LoadItem, Decidable (item.IsPlain naming)
  | .directory _ => inferInstanceAs (Decidable True)
  | .rule name => inferInstanceAs (Decidable (naming.IsPlain .rule name))
  | .preset name => inferInstanceAs (Decidable (naming.IsPlain .preset name))
  | .plugin name => inferInstanceAs (Decidable (naming.IsPlain .plugin name))

/-- All references of the config are plain. -/
def Config.IsPlain (config : Config) : Prop := ∀ item ∈ config.items, item.IsPlain config.naming

instance (config : Config) : Decidable config.IsPlain :=
  inferInstanceAs (Decidable (∀ item ∈ config.items, item.IsPlain config.naming))

/-- The references that a load asks for are plain. -/
theorem Config.IsPlain.of_question? {loader : Loader} (hplain : loader.config.IsPlain)
    {item : LoadItem} {kind : PackageKind} {name : String} (hitem : item ∈ loader.config.items)
    (hquestion : loader.question? item = some (.resolve kind name)) :
    loader.config.naming.IsPlain kind name := by
  obtain ⟨rfl, -⟩ := Loader.eq_reference_of_question? hquestion
  have hreference := hplain _ hitem
  cases kind <;> exact hreference

namespace PackageSet

/-! ## The two ways to give packages -/

/-- The modules of the packages under their names. -/
def catalog (set : PackageSet) : Table Module :=
  .ofList (set.packages.map fun package => (package.name, package.module))

/-- The files of the packages as the entries of a directory. -/
def entries (set : PackageSet) : List (String × FileTree) :=
  set.packages.map fun package => (package.fileName, .file (.ok package.text))

/-- The packages are in a directory that holds no other files, neither in itself nor in an entry. -/
structure IsHeldIn (set : PackageSet) (files : Files) (base : Path) : Prop where
  isFile_iff : ∀ name, Path.IsEntryName name → (files.isFile (Path.join base name) = true ↔
    ∃ package ∈ set.packages, name = package.fileName)
  flat : ∀ directory name, Path.IsEntryName directory → Path.IsEntryName name →
    files.isFile (Path.join (Path.join base directory) name) = false
  text : ∀ package ∈ set.packages,
    files.text (Path.join base package.fileName) = .ok package.text

variable {set : PackageSet} {files : Files} {base : Path} {naming : Naming} {kind : PackageKind}
  {name : String}

theorem nodup_catalog (set : PackageSet) :
    ((set.packages.map fun package => (package.name, package.module)).map Prod.fst).Nodup := by
  rw [List.map_map]
  exact set.nodup

/-- What a catalog has under a name. -/
theorem get?_catalog {module : Module} : set.catalog.get? name = some module ↔
    ∃ package ∈ set.packages, package.name = name ∧ package.module = module := by
  rw [catalog, Table.get?_ofList, Entries.last?_eq_some_iff set.nodup_catalog, List.mem_map]
  simp only [Prod.mk.injEq]

theorem contains_catalog : set.catalog.contains name = true ↔
    ∃ package ∈ set.packages, package.name = name := by
  rw [Table.contains, Option.isSome_iff_exists]
  simp only [get?_catalog]
  constructor
  · rintro ⟨module, package, hmem, hname, -⟩
    exact ⟨package, hmem, hname⟩
  · rintro ⟨package, hmem, hname⟩
    exact ⟨_, package, hmem, hname, rfl⟩

/-! ## What the directory answers -/

/-- The files of a name are not there without a package of that name. -/
theorem contains_of_isFile (hheld : set.IsHeldIn files base) (hname : Path.IsEntryName name)
    {path : Path} (hpath : path ∈ manifestPaths base name) (hfile : files.isFile path = true) :
    set.catalog.contains name = true := by
  rcases List.mem_append.mp hpath with hpath | hpath
  · obtain ⟨ext, hext, rfl⟩ := List.mem_map.mp hpath
    obtain ⟨package, hmem, heq⟩ :=
      (hheld.isFile_iff _ (isEntryName_manifestFile hname.noSlash hext)).mp hfile
    exact contains_catalog.mpr ⟨package, hmem, (eq_of_manifestFile_eq hext heq).symm⟩
  · obtain ⟨ext, hext, rfl⟩ := List.mem_map.mp hpath
    have hentry : Path.IsEntryName ("textlint." ++ ext) :=
      isEntryName_manifestFile (by decide : '/' ∉ "textlint".toList) hext
    rw [hheld.flat name _ hname hentry] at hfile
    cases hfile

/-- **The file of a name** is that of the package of this name. -/
theorem findManifest?_eq (hheld : set.IsHeldIn files base) (hname : Path.IsEntryName name) :
    files.findManifest? base name =
      if set.catalog.contains name then some (Path.join base (name ++ ".yml")) else none := by
  rw [Files.findManifest?]
  split
  · next hcontains =>
    obtain ⟨package, hmem, rfl⟩ := contains_catalog.mp hcontains
    have hfile := (hheld.isFile_iff _ package.isEntryName_fileName).mpr ⟨package, hmem, rfl⟩
    rw [WrittenPackage.fileName, ← manifestFile_yml] at hfile
    rw [← manifestFile_yml]
    exact List.find?_cons_of_pos hfile
  · next hcontains =>
    rw [List.find?_eq_none]
    intro path hpath hfile
    exact hcontains (contains_of_isFile hheld hname hpath hfile)

/-- The locator of a package in the directory. -/
def located (base : Path) (locator : Locator) : Locator :=
  { locator with path := some (Path.join base (locator.package ++ ".yml")) }

/-- **The directory finds what the catalog finds**, in the file of the package. -/
theorem resolve_directory (hheld : set.IsHeldIn files base) (hplain : naming.IsPlain kind name) :
    (Resolver.directory base).resolve files naming kind name =
      ((Resolver.catalog set.catalog).resolve files naming kind name).map (located base) := by
  have hfound : ((naming.candidates kind name).findSome? fun package =>
        (files.findManifest? base package).map fun path => (package, path)) =
      ((naming.candidates kind name).find? set.catalog.contains).map fun package =>
        (package, Path.join base (package ++ ".yml")) := by
    rw [List.find?_eq_findSome?_guard, List.map_findSome?, ← List.head?_filterMap,
      ← List.head?_filterMap]
    refine congrArg List.head? (List.filterMap_congr ?_)
    intro package hmem
    rw [findManifest?_eq hheld (hplain package hmem), Function.comp_apply, Option.guard]
    cases set.catalog.contains package <;> rfl
  rw [Resolver.resolve, Resolver.resolve, Resolver.resolveInDirectory, Resolver.resolveInCatalog,
    hfound]
  cases (naming.candidates kind name).find? set.catalog.contains <;> rfl

/-- **The directory has the modules of the catalog.** -/
theorem require_directory (hheld : set.IsHeldIn files base) {locator : Locator}
    (hcontains : set.catalog.contains locator.package = true) :
    (Resolver.directory base).require files (located base locator) =
      (Resolver.catalog set.catalog).require files locator := by
  obtain ⟨package, hmem, hname⟩ := contains_catalog.mp hcontains
  have hmodule : set.catalog.get? locator.package = some package.module :=
    get?_catalog.mpr ⟨package, hmem, hname, rfl⟩
  have hfile : Manifest.ofFile files (Path.join base package.fileName) = .ok package.manifest := by
    rw [Manifest.ofFile, hheld.text package hmem]
    dsimp only
    rw [package.reads]
  rw [Resolver.require, Resolver.require, hmodule, Resolver.requireFile, located, ← hname]
  dsimp only
  rw [show package.name ++ ".yml" = package.fileName from rfl, hfile]
  dsimp only [bind, Except.bind]
  rw [Manifest.referredAs_of_toModule package.declares, package.declares]

/-- **A plain reference is answered by both in the same way.** -/
theorem exported_ofResolver {config : Config} {scanner : Scanner} (hheld : set.IsHeldIn files base)
    (hplain : config.naming.IsPlain kind name) :
    (Loader.ofResolver config (.directory base) files scanner).exported kind name =
      (Loader.ofResolver config (.catalog set.catalog) files scanner).exported kind name := by
  rw [Loader.exported, Loader.exported]
  simp only [Loader.ofResolver, Resolver.source]
  rw [resolve_directory hheld hplain]
  cases hresolve : (Resolver.catalog set.catalog).resolve files config.naming kind name with
  | error e => rfl
  | ok locator =>
    have hcontains : set.catalog.contains locator.package = true := by
      rw [Resolver.resolve] at hresolve
      exact (Resolver.resolveInCatalog_eq_ok hresolve).2.2
    exact congrArg (Except.map fun module => (locator.package, module))
      (require_directory hheld hcontains)

/-! ## Loads -/

/-- **The loads from the directory and from the catalog are the same**, in their events, their log
and their end. -/
theorem loadConfig_inDirectory (hheld : set.IsHeldIn files base) {config : Config}
    (hplain : config.IsPlain) (scanner : Scanner) :
    (Loader.ofResolver config (.directory base) files scanner).loadConfig =
      (Loader.ofResolver config (.catalog set.catalog) files scanner).loadConfig := by
  refine Loader.loadConfig_congr_exported rfl rfl ?_
  intro item hitem kind name hquestion
  have hreference : config.naming.IsPlain kind name := hplain.of_question? hitem hquestion
  exact exported_ofResolver hheld hreference

/-! ## Directories in a file tree -/

variable {above : List FileTree} {here : FileTree}

theorem nodup_entries (set : PackageSet) : (set.entries.map Prod.fst).Nodup := by
  have hnames : set.entries.map Prod.fst = (set.packages.map (·.name)).map (· ++ ".yml") := by
    rw [entries, List.map_map, List.map_map]
    rfl
  rw [hnames]
  exact set.nodup.map fun _ _ h => (String.append_left_inj _).mp h

/-- What the directory has under a name. -/
theorem find?_entries {tree : FileTree} : Entries.find? name set.entries = some tree ↔
    ∃ package ∈ set.packages, package.fileName = name ∧ FileTree.file (.ok package.text) = tree := by
  rw [Entries.find?_eq_some_iff set.nodup_entries, entries, List.mem_map]
  simp only [Prod.mk.injEq]

/-- **The files of the packages in a file tree**, as all entries of a directory. -/
theorem isHeldIn_files (hbase : FileTree.walkTo above here base = .ok (.directory set.entries))
    (hfits : ∀ package ∈ set.packages, package.Fits base) :
    set.IsHeldIn (FileTree.files above here) base := by
  have hlookup : ∀ package ∈ set.packages,
      FileTree.lookup above here (Path.join base package.fileName) =
        .ok (.file (.ok package.text)) := by
    intro package hmem
    rw [FileTree.lookup_eq_walkTo (hfits package hmem).path,
      FileTree.walkTo_entry_eq_ok_iff hbase package.isEntryName_fileName]
    exact ⟨(hfits package hmem).name, find?_entries.mpr ⟨package, hmem, rfl, rfl⟩⟩
  constructor
  · intro name hname
    rw [FileTree.isFile_files]
    constructor
    · rintro ⟨text, htext⟩
      obtain ⟨-, hfind⟩ := (FileTree.walkTo_entry_eq_ok_iff hbase hname).mp
        (FileTree.walkTo_of_lookup_eq_ok htext)
      obtain ⟨package, hmem, hfile, -⟩ := find?_entries.mp hfind
      exact ⟨package, hmem, hfile.symm⟩
    · rintro ⟨package, hmem, rfl⟩
      exact ⟨_, hlookup package hmem⟩
  · intro directory name hdirectory hname
    rw [Bool.eq_false_iff, ne_eq, FileTree.isFile_files]
    rintro ⟨text, htext⟩
    have hwalk := FileTree.walkTo_of_lookup_eq_ok htext
    cases hentry : FileTree.walkTo above here (Path.join base directory) with
    | error e =>
      rw [FileTree.walkTo_join hname, hentry] at hwalk
      cases hwalk
    | ok tree =>
      -- an entry of the directory is a file, and nothing is below it
      obtain ⟨-, hfind⟩ := (FileTree.walkTo_entry_eq_ok_iff hbase hdirectory).mp hentry
      obtain ⟨package, hmem, -, rfl⟩ := find?_entries.mp hfind
      rw [FileTree.walkTo_join_of_file hentry hname] at hwalk
      cases hwalk
  · intro package hmem
    rw [FileTree.files]
    dsimp only
    rw [hlookup package hmem]

/-- **Packages in a directory and in a catalog.**  If a set of packages is held in a directory, and
all references of a config are plain, then the load from the directory is the load from the catalog
of their modules.  A directory of a file tree whose entries are the files of the packages holds
them. -/
theorem directory_agrees_with_catalog (set : PackageSet) (base : Path) :
    (∀ files, set.IsHeldIn files base → ∀ config : Config, config.IsPlain → ∀ scanner,
      (Loader.ofResolver config (.directory base) files scanner).loadConfig =
        (Loader.ofResolver config (.catalog set.catalog) files scanner).loadConfig) ∧
    ∀ above here, FileTree.walkTo above here base = .ok (.directory set.entries) →
      (∀ package ∈ set.packages, package.Fits base) →
        set.IsHeldIn (FileTree.files above here) base := by
  constructor
  · intro files hheld config hplain scanner
    exact loadConfig_inDirectory hheld hplain scanner
  · intro above here hbase hfits
    exact isHeldIn_files hbase hfits

/-- A rule, a preset and a plugin. -/
def assorted : PackageSet where
  packages := [
    { name := "textlint-rule-todo"
      text := "terms:\n- pattern: TODO\n"
      manifest := { terms := [⟨"TODO", none, none⟩] }
      module := .rule (.ofTerms { terms := [⟨"TODO", none, none⟩] })
      noSlash := by decide
      reads := by decide +kernel
      declares := rfl },
    { name := "textlint-rule-preset-style"
      text := "kind: preset\nrules:\n  tabs:\n    terms:\n    - pattern: tab\n"
      manifest :=
        { kind := .preset, rules := some (.ofList [("tabs", { terms := [⟨"tab", none, none⟩] })]) }
      module := .preset (.ofList [("tabs", .ofTerms { terms := [⟨"tab", none, none⟩] })])
      noSlash := by decide
      reads := by decide +kernel
      declares := rfl },
    { name := "html"
      text := "kind: plugin\nprocessor:\n  extensions: [.html]\n"
      manifest := { kind := .plugin, extensions := some [".html"] }
      module := .bundle none (some (.ofExtensions [".html"]))
      noSlash := by decide
      reads := by decide +kernel
      declares := rfl }]
  nodup := by decide

/-- A tree in which the packages are the files of a directory. -/
def assortedFiles : Files :=
  FileTree.files [] (.directory [("packages", .directory assorted.entries)])

/-- Asks for the packages, and for one of them as another kind. -/
def assortedConfig : Config :=
  { rules := ["todo"], presets := ["style"], plugins := ["html", "textlint-rule-todo"] }

/-- The load of the packages. -/
def assortedLoad (resolver : Resolver) : Script :=
  (Loader.ofResolver assortedConfig resolver assortedFiles fun _ => ([], .ok {})).loadConfig

/-- Both loads announce the rule, the rule of the preset and the processor, and then find that the
last plugin is a rule. -/
theorem assorted_agrees :
    assorted.IsHeldIn assortedFiles "packages" ∧ assortedConfig.IsPlain ∧
      assortedLoad (.directory "packages") = assortedLoad (.catalog assorted.catalog) ∧
      (assortedLoad (.directory "packages")).events = [
        .rule (.flat "todo") (.ofTerms { terms := [⟨"TODO", none, none⟩] }),
        .rule (.preset "style" "tabs") (.ofTerms { terms := [⟨"tab", none, none⟩] }),
        .processor "html" (.ofExtensions [".html"])] ∧
      (assortedLoad (.directory "packages")).result =
        .error (.unexpectedExport "textlint-rule-todo" .plugin) := by
  obtain ⟨hload, hheld⟩ := directory_agrees_with_catalog assorted "packages"
  have hassorted : assorted.IsHeldIn assortedFiles "packages" := hheld _ _ rfl (by decide)
  have hplain : assortedConfig.IsPlain := by decide
  have hagree : assortedLoad (.directory "packages") = assortedLoad (.catalog assorted.catalog) :=
    hload assortedFiles hassorted assortedConfig hplain _
  refine ⟨hassorted, hplain, hagree, ?_⟩
  rw [hagree]
  exact ⟨rfl, rfl⟩

end PackageSet
end LintRules
