import LintRules.Files.Tree
import LintRules.Proofs.PathBelow
import LintRules.Proofs.ResolverTree
import LintRules.Proofs.SkippedReferences

/-!
# Which files a directory of packages gives away

A resolver of a directory looks for packages below it.  A reference is a text of any kind, though,
and it is joined to the directory as it is: nothing keeps it from starting at the root or from going
to a parent.  What lies below the directory is found for exactly those references whose packages
stay below.

* `packageFiles`: the files of a package, seen from the directory.
* `Naming.StaysBelow`: the references whose packages stay below.
* `Resolver.forall_isBelow_iff`: for other references there is a file elsewhere that is found.
* `Loader.loadConfig_of_agreeBelow`: if all references of a config stay below, its load depends on
  nothing but the files below the directory.
-/

namespace LintRules

/-! ## The files of a package -/

/-- The files that may hold the manifest of a package, seen from the directory of the package. -/
def packageFiles (package : String) : List Path :=
  manifestExtensions.map (fun ext => package ++ "." ++ ext) ++
    manifestExtensions.map fun ext => Path.join package ("textlint." ++ ext)

theorem manifestPaths_eq (base : Path) (package : String) :
    manifestPaths base package = (packageFiles package).map (Path.join base) := by
  simp only [manifestPaths, packageFiles, List.map_append, List.map_map, Function.comp_def,
    Path.join_join]

/-- The parts that are added to the name of a package. -/
theorem manifestExtensions_spec : ∀ ext ∈ manifestExtensions,
    2 ≤ ext.toList.length ∧ '/' ∉ ("." ++ ext).toList ∧ Path.isAbsolute ("." ++ ext) = false ∧
      Path.StaysBelow ("textlint." ++ ext) := by
  decide

theorem isAbsolute_of_mem_packageFiles {package : String} {file : Path}
    (h : file ∈ packageFiles package) : Path.isAbsolute file = Path.isAbsolute package := by
  rcases List.mem_append.mp h with h | h
  · obtain ⟨ext, hext, rfl⟩ := List.mem_map.mp h
    obtain ⟨-, -, hrelative, -⟩ := manifestExtensions_spec ext hext
    by_cases hempty : package = ""
    · rw [hempty, String.empty_append, hrelative]
      rfl
    · rw [String.append_assoc, Path.isAbsolute_append hempty]
  · obtain ⟨ext, hext, rfl⟩ := List.mem_map.mp h
    obtain ⟨-, -, -, hbelow⟩ := manifestExtensions_spec ext hext
    exact Path.isAbsolute_join hbelow.relative package

/-- **The files of a package stay below exactly if its name does.** -/
theorem forall_packageFiles_staysBelow_iff {package : String} :
    (∀ file ∈ packageFiles package, Path.StaysBelow file) ↔ Path.StaysBelow package := by
  constructor
  · intro h
    have hnested : Path.join package "textlint.yml" ∈ packageFiles package :=
      List.mem_append_right _ (List.mem_map.mpr ⟨"yml", by decide, rfl⟩)
    exact ((Path.staysBelow_join_iff (by decide)).mp (h _ hnested)).1
  · intro h file hfile
    refine ⟨(isAbsolute_of_mem_packageFiles hfile).trans h.relative, ?_⟩
    rcases List.mem_append.mp hfile with hfile | hfile
    · obtain ⟨ext, hext, rfl⟩ := List.mem_map.mp hfile
      obtain ⟨hlength, hslash, -, -⟩ := manifestExtensions_spec ext hext
      obtain ⟨before, last, hpackage, hboth⟩ :=
        Path.exists_segments_append hslash package.toList
      rw [String.append_assoc, String.toList_append, hboth, List.mem_append, List.mem_singleton]
      rintro (hmem | hlast)
      · exact h.noParent (hpackage ▸ List.mem_append_left _ hmem)
      · -- the last segment has an extension of more than one character
        have hlen := congrArg List.length hlast
        rw [List.length_append, String.toList_append, List.length_append] at hlen
        simp at hlen hlength
        omega
    · obtain ⟨ext, hext, rfl⟩ := List.mem_map.mp hfile
      obtain ⟨-, -, -, hbelow⟩ := manifestExtensions_spec ext hext
      exact ((Path.staysBelow_join_iff hbelow.relative).mpr ⟨h, hbelow⟩).noParent

/-! ## What is found -/

/-- All packages that the reference may mean stay below. -/
def Naming.StaysBelow (naming : Naming) (kind : PackageKind) (name : String) : Prop :=
  ∀ package ∈ naming.candidates kind name, Path.StaysBelow package

instance (naming : Naming) (kind : PackageKind) (name : String) :
    Decidable (naming.StaysBelow kind name) :=
  inferInstanceAs (Decidable (∀ package ∈ naming.candidates kind name, Path.StaysBelow package))

/-- The leads are texts without slashes that are longer than the step to a parent, as the default
ones are. -/
structure Naming.HasPlainLeads (naming : Naming) : Prop where
  rule : '/' ∉ naming.rulePrefix.toList
  ruleLength : 2 < naming.rulePrefix.toList.length
  plugin : '/' ∉ naming.pluginPrefix.toList
  pluginLength : 2 < naming.pluginPrefix.toList.length

theorem Naming.hasPlainLeads_default : ({} : Naming).HasPlainLeads where
  rule := by decide
  ruleLength := by decide
  plugin := by decide
  pluginLength := by decide

theorem exists_eq_append_stripLead (lead name : String) :
    (name = lead ++ Text.stripLead lead name) ∨ name = "" ++ Text.stripLead lead name := by
  cases hbegins : Text.beginsWith lead name with
  | true =>
    obtain ⟨rest, rfl⟩ := Text.beginsWith_iff.mp hbegins
    rw [Text.stripLead_append]
    exact .inl rfl
  | false =>
    rw [Text.stripLead_of_not_beginsWith hbegins, String.empty_append]
    exact .inr rfl

/-- **With plain leads a reference stays below exactly if its own text does.** -/
theorem Naming.staysBelow_iff {naming : Naming} (hplain : naming.HasPlainLeads)
    {kind : PackageKind} {name : String} :
    naming.StaysBelow kind name ↔ Path.StaysBelow name := by
  have hfull : Path.StaysBelow name → Path.StaysBelow (naming.fullName kind name) := by
    intro hname
    -- the full name is another lead before the same rest
    have hlead : ∀ {lead lead' : String}, '/' ∉ lead.toList → '/' ∉ lead'.toList →
        2 < lead'.toList.length → Path.StaysBelow (lead' ++ Text.stripLead lead name) := by
      intro lead lead' hslash hslash' hlength
      rcases exists_eq_append_stripLead lead name with h | h <;> rw [h] at hname
      · exact hname.lead_append hslash hslash' hlength
      · exact hname.lead_append (by decide) hslash' hlength
    have hpreset : '/' ∉ (naming.rulePrefix ++ presetLead).toList ∧
        2 < (naming.rulePrefix ++ presetLead).toList.length := by
      rw [String.toList_append, List.mem_append, not_or, List.length_append]
      exact ⟨⟨hplain.rule, by decide⟩, Nat.lt_add_right _ hplain.ruleLength⟩
    cases kind with
    | rule => exact hlead hplain.rule hplain.rule hplain.ruleLength
    | preset =>
      rw [Naming.fullName]
      split
      · exact hlead hplain.rule hplain.rule hplain.ruleLength
      · exact hlead hplain.rule hpreset.1 hpreset.2
    | plugin => exact hlead hplain.plugin hplain.plugin hplain.pluginLength
  constructor
  · intro h
    refine h name ?_
    rw [Naming.candidates]
    split
    · next heq => rw [heq]; exact List.mem_singleton_self name
    · exact List.mem_cons_of_mem _ (List.mem_singleton_self name)
  · intro h package hpackage
    rw [Naming.candidates] at hpackage
    split at hpackage
    · rw [List.mem_singleton.mp hpackage]
      exact hfull h
    · rcases List.mem_cons.mp hpackage with rfl | hpackage
      · exact hfull h
      · rw [List.mem_singleton.mp hpackage]
        exact h

namespace Resolver

variable {files files' : Files} {naming : Naming} {kind : PackageKind} {name : String}
  {base : Path} {locator : Locator}

/-- The file of a package that is found lies below if the reference stays below. -/
theorem isBelow_of_resolve (hbelow : naming.StaysBelow kind name)
    (h : (directory base).resolve files naming kind name = .ok locator) :
    ∃ path, locator.path = some path ∧ Path.IsBelow base path := by
  rw [resolve] at h
  obtain ⟨hpackage, path, hpath, hmem, -⟩ := resolveInDirectory_eq_ok h
  rw [manifestPaths_eq] at hmem
  obtain ⟨file, hfile, rfl⟩ := List.mem_map.mp hmem
  exact ⟨_, hpath, file, forall_packageFiles_staysBelow_iff.mpr (hbelow _ hpackage) file hfile, rfl⟩

/-- The file system with a single file. -/
def single (path : Path) : Files where
  kind other := if other = path then .ok .file else .error .notFound
  text other := if other = path then .ok "" else .error .notFound
  names _ := .error .notFound

theorem isFile_single {path other : Path} : (single path).isFile other = true ↔ other = path := by
  rw [Files.isFile, single]
  dsimp only
  split <;> simp_all

/-- A file that may hold the manifest of a reference is found if there is no other file. -/
theorem exists_resolve_single {package : String} {path : Path}
    (hpackage : package ∈ naming.candidates kind name) (hpath : path ∈ manifestPaths base package) :
    ∃ locator, (directory base).resolve (single path) naming kind name = .ok locator ∧
      locator.path = some path := by
  have hmanifest : ((single path).findManifest? base package).isSome := by
    rw [Files.findManifest?, List.find?_isSome]
    exact ⟨path, hpath, isFile_single.mpr rfl⟩
  have hsome : ((naming.candidates kind name).findSome? fun package =>
      ((single path).findManifest? base package).map fun path => (package, path)).isSome := by
    rw [List.findSome?_isSome_iff]
    exact ⟨package, hpackage, by rwa [Option.isSome_map]⟩
  obtain ⟨⟨package', path'⟩, hfound⟩ := Option.isSome_iff_exists.mp hsome
  have hresolve : resolveInDirectory (single path) base naming kind name =
      .ok ⟨kind, package', some path'⟩ := by
    rw [resolveInDirectory, hfound]
  obtain ⟨-, found, hpath', -, hfile⟩ := resolveInDirectory_eq_ok hresolve
  rw [isFile_single.mp hfile] at hpath'
  exact ⟨_, by rw [resolve, hresolve], hpath'⟩

/-- **Whatever there is, a reference is found below the directory only, exactly if it stays
below.** -/
theorem forall_isBelow_iff (naming : Naming) (kind : PackageKind) (name : String) :
    (∀ base files locator, (directory base).resolve files naming kind name = .ok locator →
      ∃ path, locator.path = some path ∧ Path.IsBelow base path) ↔ naming.StaysBelow kind name := by
  constructor
  · intro h package hpackage
    refine forall_packageFiles_staysBelow_iff.mp fun file hfile => ?_
    have hmem : Path.join "base" file ∈ manifestPaths "base" package := by
      rw [manifestPaths_eq]
      exact List.mem_map_of_mem hfile
    obtain ⟨locator, hresolve, hpath⟩ := exists_resolve_single hpackage hmem
    obtain ⟨path, hpath', hbelow⟩ := h _ _ _ hresolve
    rw [hpath, Option.some.injEq] at hpath'
    subst hpath'
    cases habsolute : Path.isAbsolute file with
    | true =>
      -- a file at the root does not lie below a directory that is not
      rw [Path.join_of_isAbsolute habsolute] at hbelow
      exact absurd (habsolute.symm.trans hbelow.isAbsolute_eq) (by decide)
    | false => exact (Path.isBelow_join_iff habsolute).mp hbelow
  · intro hbelow base files locator h
    exact isBelow_of_resolve hbelow h

/-! ## What is read -/

/-- The file systems do not differ below the directory. -/
def AgreeBelow (base : Path) (files files' : Files) : Prop :=
  ∀ path, Path.IsBelow base path →
    files.kind path = files'.kind path ∧ files.text path = files'.text path

theorem findManifest?_eq (hagree : AgreeBelow base files files') {package : String}
    (hpackage : Path.StaysBelow package) :
    files.findManifest? base package = files'.findManifest? base package := by
  have hfile : ∀ path ∈ manifestPaths base package, files.isFile path = files'.isFile path := by
    intro path hpath
    rw [manifestPaths_eq] at hpath
    obtain ⟨file, hfile, rfl⟩ := List.mem_map.mp hpath
    have hbelow := forall_packageFiles_staysBelow_iff.mpr hpackage file hfile
    rw [Files.isFile, Files.isFile, (hagree _ ⟨file, hbelow, rfl⟩).1]
  rw [Files.findManifest?, Files.findManifest?, ← List.head?_filter, ← List.head?_filter,
    List.filter_congr hfile]

theorem resolve_eq (hagree : AgreeBelow base files files') (hbelow : naming.StaysBelow kind name) :
    (directory base).resolve files naming kind name =
      (directory base).resolve files' naming kind name := by
  have hfound : ∀ package ∈ naming.candidates kind name,
      ((files.findManifest? base package).map fun path => (package, path)) =
        (files'.findManifest? base package).map fun path => (package, path) :=
    fun package hpackage => by rw [findManifest?_eq hagree (hbelow package hpackage)]
  rw [resolve, resolve, resolveInDirectory, resolveInDirectory, ← List.head?_filterMap,
    ← List.head?_filterMap, List.filterMap_congr hfound]

theorem require_eq (hagree : AgreeBelow base files files') (hbelow : naming.StaysBelow kind name)
    (h : (directory base).resolve files naming kind name = .ok locator) :
    (directory base).require files locator = (directory base).require files' locator := by
  obtain ⟨path, hpath, hpathBelow⟩ := isBelow_of_resolve hbelow h
  rw [require, require, requireFile, requireFile, hpath]
  dsimp only
  rw [Manifest.ofFile, Manifest.ofFile, (hagree path hpathBelow).2]

end Resolver

/-! ## Loads -/

/-- The item is a rule directory, or a reference that is skipped or stays below. -/
def LoadItem.StaysBelow (naming : Naming) : LoadItem → Prop
  | .directory _ => True
  | .rule name => naming.MeansPluginRule name ∨ naming.StaysBelow .rule name
  | .preset name => naming.MeansPluginRule name ∨ naming.StaysBelow .preset name
  | .plugin name => naming.StaysBelow .plugin name

/-- All references of the config stay below, except for those that are skipped. -/
def Config.StaysBelow (config : Config) : Prop :=
  ∀ item ∈ config.items, item.StaysBelow config.naming

namespace Loader

/-- The loader of a config whose packages are in a directory. -/
def inDirectory (config : Config) (files : Files) (base : Path) (scanner : Scanner) : Loader where
  config
  source := (Resolver.directory base).source files
  scanner

variable {config : Config} {base : Path} {files files' : Files} {scanner : Scanner}

theorem exported_inDirectory {kind : PackageKind} {name : String}
    (hagree : Resolver.AgreeBelow base files files') (hbelow : config.naming.StaysBelow kind name) :
    (inDirectory config files base scanner).exported kind name =
      (inDirectory config files' base scanner).exported kind name := by
  rw [exported, exported]
  simp only [inDirectory, Resolver.source]
  rw [← Resolver.resolve_eq hagree hbelow]
  cases hresolve : (Resolver.directory base).resolve files config.naming kind name with
  | error e => rfl
  | ok locator =>
    exact congrArg (Except.map fun module => (locator.package, module))
      (Resolver.require_eq hagree hbelow hresolve)

/-- The references that a load asks for stay below. -/
theorem staysBelow_of_question? {loader : Loader} (hbelow : loader.config.StaysBelow)
    {item : LoadItem} {kind : PackageKind} {name : String} (hitem : item ∈ loader.config.items)
    (hquestion : loader.question? item = some (.resolve kind name)) :
    loader.config.naming.StaysBelow kind name := by
  obtain ⟨rfl, -⟩ := eq_reference_of_question? hquestion
  have hreference := hbelow _ hitem
  have hasked : kind ≠ .plugin → ¬ loader.config.naming.MeansPluginRule name := by
    intro hkind hname
    exact question?_ne_resolve hkind hname _ hquestion
  cases kind with
  | rule => exact hreference.resolve_left (hasked (by decide))
  | preset => exact hreference.resolve_left (hasked (by decide))
  | plugin => exact hreference

/-- **The load depends on nothing but the files below the directory**, if the references stay
below. -/
theorem loadConfig_of_agreeBelow (hbelow : config.StaysBelow)
    (hagree : Resolver.AgreeBelow base files files') :
    (inDirectory config files base scanner).loadConfig =
      (inDirectory config files' base scanner).loadConfig := by
  refine loadConfig_congr_exported rfl rfl ?_
  intro item hitem kind name hquestion
  have hreference : config.naming.StaysBelow kind name :=
    staysBelow_of_question? hbelow hitem hquestion
  exact exported_inDirectory hagree hreference

/-- **What a directory of packages gives away.**  A reference is found below the directory only, in
every directory and every file system, exactly if it stays below; with plain leads this is so if its
text neither starts at the root nor has a segment that leads to the parent.  The load of a config of
such references depends on nothing but the files below the directory. -/
theorem inDirectory_confined (naming : Naming) (kind : PackageKind) (name : String)
    (config : Config) (base : Path) (files files' : Files) (scanner : Scanner) :
    ((∀ base files locator, (Resolver.directory base).resolve files naming kind name = .ok locator →
        ∃ path, locator.path = some path ∧ Path.IsBelow base path) ↔
          naming.StaysBelow kind name) ∧
      (naming.HasPlainLeads → (naming.StaysBelow kind name ↔ Path.StaysBelow name)) ∧
      (config.StaysBelow → Resolver.AgreeBelow base files files' →
        (inDirectory config files base scanner).loadConfig =
          (inDirectory config files' base scanner).loadConfig) :=
  ⟨Resolver.forall_isBelow_iff naming kind name, fun hplain => Naming.staysBelow_iff hplain,
    loadConfig_of_agreeBelow⟩

/-- A package file beside a directory of packages. -/
def beside : Files := FileTree.files [] (.directory [
  ("x.yml", .file (.ok "kind: plugin\n")), ("base", .directory [
    ("html.yml", .file (.ok "kind: plugin\n"))])])

/-- The same files with another text in the one beside. -/
def besideChanged : Files :=
  { beside with text := fun path => if path = "x.yml" then .ok "" else beside.text path }

/-- The load of a plugin that stays below does not see the change. -/
theorem beside_confined :
    ({ plugins := ["html"] } : Config).StaysBelow ∧
      Resolver.AgreeBelow "base" beside besideChanged ∧
      (inDirectory { plugins := ["html"] } beside "base" fun _ => ([], .ok {})).loadConfig =
        (inDirectory { plugins := ["html"] } besideChanged "base" fun _ => ([], .ok {})).loadConfig
          := by
  obtain ⟨-, hname, hload⟩ := inDirectory_confined {} .plugin "html" { plugins := ["html"] } "base"
    beside besideChanged fun _ => ([], .ok {})
  have hbelow : ({ plugins := ["html"] } : Config).StaysBelow := by
    intro item hitem
    rw [List.mem_singleton.mp hitem]
    exact (hname Naming.hasPlainLeads_default).mpr (by decide)
  have hagree : Resolver.AgreeBelow "base" beside besideChanged := by
    rintro path ⟨rest, hrest, rfl⟩
    have hne : Path.join "base" rest ≠ "x.yml" := by
      intro heq
      rw [Path.join, hrest.relative] at heq
      have hhead := congrArg (fun path => path.toList.head?) heq
      simp at hhead
    exact ⟨rfl, (if_neg hne).symm⟩
  exact ⟨hbelow, hagree, hload hbelow hagree⟩

/-- A reference that goes to the parent is found beside the directory. -/
theorem beside_found :
    (Resolver.directory "base").resolve beside {} .plugin "../x" =
        .ok ⟨.plugin, "../x", some "base/../x.yml"⟩ ∧
      ¬ Path.IsBelow "base" "base/../x.yml" := by
  refine ⟨by decide +kernel, fun h => ?_⟩
  have hrest : Path.StaysBelow "../x.yml" :=
    (Path.isBelow_join_iff (by decide)).mp (show Path.IsBelow "base"
      (Path.join "base" "../x.yml") from h)
  exact absurd hrest (by decide)

end Loader

end LintRules
