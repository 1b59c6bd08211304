import LintRules.Files.Record
import LintRules.Proofs.DeclaredModule
import LintRules.Proofs.ManifestGrammar
import LintRules.Resolver

/-!
# The kind that a manifest states

A manifest may state its kind, and is one of a rule if it does not.  A manifest of a rule without
terms is taken for a preset or a plugin if it was referred to as one.  When this is decided it is no
longer known whether the kind was stated, so that a manifest that states to be a rule is taken for
something else as well.

* `Node.NamesKind`: a node is the name of a kind, or has it as a tag.  By
  `readVariant_kinds_eq_ok_iff` it is read as this kind.
* `Manifest.StatesKind`: the manifest in a file states its kind.
* `Manifest.toModule_ne_of_terms_nil`: a manifest without terms is not made into the same module, or
  refused for the same reason, as a rule and as something else.
* `Manifest.moduleFor_exact`: which references make what of the manifest in a file.
* `Manifest.moduleFor_overrides_statedKind`: a manifest that states to be a rule, as a preset.
-/

namespace LintRules

open Yaml

namespace Yaml

/-! ## Names of kinds -/

/-- The node names a kind, with its text or with a tag where the text is left out. -/
inductive Node.NamesKind (node : Node) (kind : PackageKind) : Prop
  | text {plain : Bool} {tag : Option Tag} (htag : localTag? tag = none)
      (h : node.direct? = some (.scalar kind.text plain tag)) : NamesKind node kind
  | tag {text : String} {tag : Option Tag} (htag : localTag? tag = some kind.text)
      (hblank : text = "" ∨ Atom.isNull text = true)
      (h : node.direct? = some (.scalar text true tag)) : NamesKind node kind

/-- A tagged variant is a scalar without content. -/
theorem readTaggedVariant_kinds_eq_ok_iff {place : Location} {name : String} {node : Node}
    {kind : PackageKind} :
    readTaggedVariant Manifest.kinds place name node = .ok kind ↔
      kind.text = name ∧ ∃ text tag, node = .scalar text true tag ∧
        (text = "" ∨ Atom.isNull text = true) := by
  rw [readTaggedVariant, bind_eq_ok_iff]
  constructor
  · rintro ⟨found, hfound, h⟩
    rw [Manifest.pickVariant_kinds_eq_ok_iff] at hfound
    cases node with
    | scalar text plain tag =>
      dsimp only at h
      split at h
      · next hblank =>
        rw [Bool.and_eq_true, Bool.or_eq_true, decide_eq_true_iff] at hblank
        obtain ⟨rfl, hblank⟩ := hblank
        rw [← Except.ok.inj h]
        exact ⟨hfound, text, tag, rfl, hblank⟩
      · cases h
    | _ => cases h
  · rintro ⟨hname, text, tag, rfl, hblank⟩
    refine ⟨kind, Manifest.pickVariant_kinds_eq_ok_iff.mpr hname, ?_⟩
    dsimp only
    rw [if_pos (by simpa using hblank)]

/-- **A node is read as the kind that it names.** -/
theorem readVariant_kinds_eq_ok_iff {place : Location} {node : Node} {kind : PackageKind} :
    readVariant Manifest.kinds place node = .ok kind ↔ node.NamesKind kind := by
  rw [readVariant, withDirect_eq_ok_iff]
  constructor
  · rintro ⟨direct, hdirect, h⟩
    cases direct with
    | scalar text plain tag =>
      dsimp only at h
      cases htag : localTag? tag with
      | none =>
        rw [htag] at h
        rw [← Manifest.pickVariant_kinds_eq_ok_iff.mp h] at hdirect
        exact .text htag hdirect
      | some name =>
        rw [htag] at h
        obtain ⟨hname, text', tag', heq, hblank⟩ := readTaggedVariant_kinds_eq_ok_iff.mp h
        obtain ⟨rfl, rfl, rfl⟩ : text = text' ∧ plain = true ∧ tag = tag' := by
          simpa using heq
        exact .tag (hname ▸ htag) hblank hdirect
    | seq tag content | map tag content =>
      -- a tag may be right, but there is something under it
      dsimp only at h
      cases htag : localTag? tag with
      | none =>
        rw [htag] at h
        cases h
      | some name =>
        rw [htag] at h
        obtain ⟨-, text, tag', heq, -⟩ := readTaggedVariant_kinds_eq_ok_iff.mp h
        cases heq
    | «alias» target => cases h
  · rintro (⟨htag, h⟩ | ⟨htag, hblank, h⟩)
    · refine ⟨_, h, ?_⟩
      dsimp only
      rw [htag]
      exact Manifest.pickVariant_kinds_eq_ok_iff.mpr rfl
    · refine ⟨_, h, ?_⟩
      dsimp only
      rw [htag]
      exact readTaggedVariant_kinds_eq_ok_iff.mpr ⟨rfl, _, _, rfl, hblank⟩

theorem Node.NamesKind.unique {node : Node} {kind kind' : PackageKind} (h : node.NamesKind kind)
    (h' : node.NamesKind kind') : kind = kind' := by
  have hread : readVariant Manifest.kinds [] node = .ok kind := readVariant_kinds_eq_ok_iff.mpr h
  rw [readVariant_kinds_eq_ok_iff.mpr h', Except.ok.injEq] at hread
  exact hread.symm

/-! ## Keys of a document -/

namespace Document

/-- The text of a key that is written as a scalar. -/
def keyText? : Node × Node → Option String
  | (.scalar text .., _) => some text
  | _ => none

/-- The keys of a root mapping that are written as scalars. -/
def keyTexts : Document → List String
  | .root (.map _ entries) => entries.filterMap keyText?
  | _ => []

/-- The keys that are scalars are names of fields. -/
theorem HasFields.mem_of_mem_keyTexts {document : Document} {fields : List (String × Node)}
    (h : document.HasFields fields) {name : String} (hname : name ∈ document.keyTexts) :
    name ∈ fields.map Prod.fst := by
  cases document with
  | empty => cases hname
  | root node =>
    cases node with
    | map tag entries =>
      obtain ⟨⟨key, value⟩, hentry, htext⟩ := List.mem_filterMap.mp hname
      obtain ⟨written, hwritten, hfields⟩ := h
      obtain rfl : written = entries := hwritten.unique (.map rfl)
      obtain ⟨field, hfield, hkey, -⟩ := exists_of_mem_left hfields hentry
      cases key with
      | scalar text plain tag' =>
        have hscalar : (Node.scalar text plain tag').HasText text := ⟨plain, tag', rfl⟩
        rw [← Option.some.inj htext, hscalar.unique hkey]
        exact List.mem_map_of_mem hfield
      | _ => cases htext
    | _ => cases hname

end Document

end Yaml

namespace Manifest

/-! ## The kind in a file -/

/-- The field of the kind has its part of the manifest to itself, whatever tags there are. -/
theorem says_statedKind : shape.Says (fun _ => True) "kind" kind Node.NamesKind :=
  RecordShape.says_of_set id rfl says_kind.only (fun _ _ => rfl)
    (fun _ _ _ _ => readVariant_kinds_eq_ok_iff) (fun _ b _ => ⟨b, rfl⟩)

/-- The file holds a text of which the root mapping has these fields. -/
def FileHasFields (files : Files) (path : Path) (fields : List (String × Node)) : Prop :=
  ∃ text document, files.text path = .ok text ∧
    Document.ofText? shape.isRead text = some document ∧ document.HasFields fields

/-- The file states the kind of its manifest. -/
def StatesKind (files : Files) (path : Path) (kind : PackageKind) : Prop :=
  ∃ fields node, FileHasFields files path fields ∧ Entries.find? "kind" fields = some node ∧
    node.NamesKind kind

variable {files : Files} {path : Path} {manifest : Manifest} {kind : PackageKind}

theorem FileHasFields.unique {fields fields' : List (String × Node)}
    (h : FileHasFields files path fields) (h' : FileHasFields files path fields') :
    fields = fields' := by
  obtain ⟨text, document, htext, hdocument, hfields⟩ := h
  obtain ⟨text', document', htext', hdocument', hfields'⟩ := h'
  rw [htext, Except.ok.injEq] at htext'
  subst htext'
  rw [hdocument, Option.some.injEq] at hdocument'
  subst hdocument'
  exact hfields.unique hfields'

/-- The kind of a manifest in a file is what the field of this name says, or that of a rule. -/
theorem exists_fields_of_ofFile (h : ofFile files path = .ok manifest) :
    ∃ fields, FileHasFields files path fields ∧
      FieldIs fields "kind" Node.NamesKind .rule manifest.kind := by
  cases htext : files.text path with
  | error why =>
    rw [ofFile, htext] at h
    cases h
  | ok text =>
    rw [ofFile_eq_ok_iff htext] at h
    cases hdocument : Document.ofText? shape.isRead text with
    | none =>
      rw [ofText, readDocument, hdocument] at h
      cases h
    | some document =>
      rw [ofText_eq_ok_iff hdocument] at h
      obtain ⟨fields, record, hfields, -, hagrees, hrecord⟩ :=
        RecordShape.exists_fields_of_readDocument (P := fun _ => True) (fun _ _ _ _ => trivial) h
      rw [← Except.ok.inj hrecord]
      exact ⟨fields, ⟨text, document, htext, hdocument, hfields⟩, hagrees _ _ _ _ says_statedKind⟩

/-- A manifest is of the kind that its file states. -/
theorem kind_eq_of_statesKind (h : ofFile files path = .ok manifest)
    (hkind : StatesKind files path kind) : manifest.kind = kind := by
  obtain ⟨fields, hfields, his⟩ := exists_fields_of_ofFile h
  obtain ⟨fields', node, hfields', hnode, hnames⟩ := hkind
  obtain rfl := hfields.unique hfields'
  rw [FieldIs, hnode] at his
  exact his.unique hnames

/-- A manifest is one of a rule if its file states no kind. -/
theorem kind_eq_rule_of_not_statesKind (h : ofFile files path = .ok manifest)
    (hkind : ∀ kind, ¬ StatesKind files path kind) : manifest.kind = .rule := by
  obtain ⟨fields, hfields, his⟩ := exists_fields_of_ofFile h
  rw [FieldIs] at his
  split at his
  · next node hnode => exact absurd ⟨fields, node, hfields, hnode, his⟩ (hkind _)
  · exact his

/-- A file states a kind exactly if there is a field for it. -/
theorem statesKind_iff_mem (h : ofFile files path = .ok manifest) {fields : List (String × Node)}
    (hfields : FileHasFields files path fields) :
    StatesKind files path manifest.kind ↔ "kind" ∈ fields.map Prod.fst := by
  rw [← Entries.find?_isSome_iff, Option.isSome_iff_exists]
  constructor
  · rintro ⟨fields', node, hfields', hnode, -⟩
    rw [hfields.unique hfields']
    exact ⟨node, hnode⟩
  · rintro ⟨node, hnode⟩
    obtain ⟨fields', hfields', his⟩ := exists_fields_of_ofFile h
    obtain rfl := hfields.unique hfields'
    rw [FieldIs, hnode] at his
    exact ⟨fields, node, hfields, hnode, his⟩

/-! ## References of another kind -/

/-- What a directory makes of a file that a reference of some kind has found. -/
def moduleFor (files : Files) (base path : Path) (package : String) (reference : PackageKind) :
    Except LoadError Module :=
  (Resolver.directory base).require files ⟨reference, package, some path⟩

theorem moduleFor_of_ofFile {base : Path} {package : String} {reference : PackageKind}
    (h : ofFile files path = .ok manifest) :
    moduleFor files base path package reference =
      (manifest.referredAs reference).toModule package := by
  rw [moduleFor, Resolver.require, Resolver.requireFile]
  dsimp only
  rw [h]
  rfl

theorem referredAs_eq (reference : PackageKind) (manifest : Manifest) :
    manifest.referredAs reference =
      if manifest.kind = .rule ∧ manifest.terms = [] then { manifest with kind := reference }
      else manifest := by
  rw [referredAs]
  by_cases h : manifest.kind = .rule ∧ manifest.terms = []
  · rw [if_pos h, if_pos (by simpa using h)]
  · rw [if_neg h, if_neg (by simpa using h)]

/-- A rule without terms is refused, and not because of a processor alone. -/
theorem exists_toModule_error_of_rule (package : String) (hkind : manifest.kind = .rule)
    (hterms : manifest.terms = []) :
    ∃ fault, fault ≠ .presetWithProcessor ∧
      manifest.toModule package = .error (.invalidModule package fault) := by
  by_cases hsections : manifest.rules ≠ none ∨ manifest.extensions ≠ none
  · refine ⟨.ruleWithSections, nofun, ?_⟩
    exact toModule_of_failsWith (.forbidden (.sections hkind hsections))
  · push Not at hsections
    obtain ⟨hrules, hprocessor⟩ := hsections
    refine ⟨.noTerms, nofun, toModule_of_failsWith (.rule hkind ?_ (.noTerms hterms))⟩
    exact not_hasForbidden_of_rule hkind hrules hprocessor

/-- If a preset or a plugin is to blame itself, and not a rule in it, then for its processor. -/
theorem eq_presetWithProcessor_of_failsWith {package : String} {fault : ModuleFault}
    (hkind : manifest.kind ≠ .rule)
    (h : manifest.FailsWith package (.invalidModule package fault)) :
    fault = .presetWithProcessor := by
  generalize he : LoadError.invalidModule package fault = e at h
  cases h with
  | forbidden h =>
    cases h with
    | sections hrule => exact absurd hrule hkind
    | processor => exact (LoadError.invalidModule.inj he).2
  | rule hrule => exact absurd hrule hkind
  | noRules => cases he
  | @inline _ name =>
    -- the name of a rule is longer than that of its package
    have hlength := congrArg String.length (LoadError.invalidModule.inj he).1
    rw [String.length_append, String.length_append] at hlength
    have hslash : "/".length = 1 := rfl
    omega

/-- **Without terms a manifest is not the same as a rule and as something else.** -/
theorem toModule_ne_of_terms_nil (package : String) (hterms : manifest.terms = [])
    {reference : PackageKind} (hreference : reference ≠ .rule) :
    ({ manifest with kind := reference } : Manifest).toModule package ≠
      ({ manifest with kind := .rule } : Manifest).toModule package := by
  have hkind : ({ manifest with kind := .rule } : Manifest).kind = .rule := rfl
  obtain ⟨fault, hfault, hrule⟩ := exists_toModule_error_of_rule package hkind hterms
  rw [hrule]
  intro hother
  exact hfault (eq_presetWithProcessor_of_failsWith hreference (toModule_eq_error_iff.mp hother))

/-- A manifest of a rule without terms becomes what it was referred to as. -/
theorem moduleFor_eq (h : ofFile files path = .ok manifest) (base : Path) (package : String)
    (reference : PackageKind) :
    moduleFor files base path package reference =
      (if manifest.kind = .rule ∧ manifest.terms = [] then { manifest with kind := reference }
        else manifest).toModule package := by
  rw [moduleFor_of_ofFile h, referredAs_eq]

/-- A manifest is made into the module that it declares, unless it is one of a rule without terms
that was referred to as something else. -/
theorem moduleFor_eq_toModule_iff (h : ofFile files path = .ok manifest) (base : Path)
    (package : String) (reference : PackageKind) :
    moduleFor files base path package reference = manifest.toModule package ↔
      ¬ (manifest.kind = .rule ∧ manifest.terms = [] ∧ reference ≠ .rule) := by
  rw [moduleFor_eq h]
  by_cases hbare : manifest.kind = .rule ∧ manifest.terms = []
  · rw [if_pos hbare]
    obtain ⟨hkind, hterms⟩ := hbare
    have hsame : ({ manifest with kind := .rule } : Manifest) = manifest := by
      rw [← hkind]
    by_cases hreference : reference = .rule
    · rw [hreference, hsame]
      exact iff_of_true rfl fun hother => hother.2.2 rfl
    · have hne := toModule_ne_of_terms_nil package hterms hreference
      rw [hsame] at hne
      exact iff_of_false hne fun hnot => hnot ⟨hkind, hterms, hreference⟩
  · rw [if_neg hbare]
    exact iff_of_true rfl fun hother => hbare ⟨hother.1, hother.2.1⟩

/-- All references give the same, unless the manifest is one of a rule without terms. -/
theorem forall_moduleFor_eq_iff (h : ofFile files path = .ok manifest) (base : Path)
    (package : String) :
    (∀ reference reference', moduleFor files base path package reference =
        moduleFor files base path package reference') ↔
      ¬ (manifest.kind = .rule ∧ manifest.terms = []) := by
  constructor
  · rintro hsame ⟨hkind, hterms⟩
    have hrule : moduleFor files base path package .rule = manifest.toModule package :=
      (moduleFor_eq_toModule_iff h base package .rule).mpr fun hother => hother.2.2 rfl
    rw [hsame .rule .preset, moduleFor_eq_toModule_iff h] at hrule
    exact hrule ⟨hkind, hterms, nofun⟩
  · intro hbare reference reference'
    rw [moduleFor_eq h, moduleFor_eq h, if_neg hbare, if_neg hbare]

/-- **What a reference makes of a manifest that states its kind, and of one that does not.**  A
stated kind is that of the manifest, and the module is the one that the manifest declares, except
for a manifest that states to be a rule, has no terms and was referred to as something else: it is
taken for what it was referred to as.  A manifest that states no kind is what it was referred to
as if it has no terms, and a rule if it has some. -/
theorem moduleFor_exact (h : ofFile files path = .ok manifest) (base : Path) (package : String) :
    (∀ kind, StatesKind files path kind →
      manifest.kind = kind ∧
        (∀ reference, moduleFor files base path package reference = manifest.toModule package ↔
          ¬ (kind = .rule ∧ manifest.terms = [] ∧ reference ≠ .rule)) ∧
        ((∀ reference reference', moduleFor files base path package reference =
            moduleFor files base path package reference') ↔
          ¬ (kind = .rule ∧ manifest.terms = [])) ∧
        (kind = .rule → manifest.terms = [] → ∀ reference,
          moduleFor files base path package reference =
            ({ manifest with kind := reference } : Manifest).toModule package)) ∧
      ((∀ kind, ¬ StatesKind files path kind) → ∀ reference,
        moduleFor files base path package reference =
          ({ manifest with kind := if manifest.terms = [] then reference else .rule } :
            Manifest).toModule package) := by
  constructor
  · intro kind hstates
    obtain rfl := kind_eq_of_statesKind h hstates
    refine ⟨rfl, moduleFor_eq_toModule_iff h base package, forall_moduleFor_eq_iff h base package,
      fun hkind hterms reference => ?_⟩
    rw [moduleFor_eq h, if_pos ⟨hkind, hterms⟩]
  · intro hnone reference
    have hkind := kind_eq_rule_of_not_statesKind h hnone
    rw [moduleFor_eq h]
    by_cases hterms : manifest.terms = []
    · rw [if_pos ⟨hkind, hterms⟩, if_pos hterms]
    · rw [if_neg fun hbare => hterms hbare.2, if_neg hterms, ← hkind]

/-- A file with a text, and nothing else. -/
def oneFile (path : Path) (text : String) : Files :=
  FileRecord.files [(path, ⟨.ok .file, .ok text, .error .notADirectory⟩)]

/-- A manifest that states to be a rule and is written like a preset. -/
def misstatedText : String := "kind: rule\nrules: {a: {terms: [{pattern: x}]}}\n"

/-- The manifest, read as some kind. -/
def misstated (kind : PackageKind) : Manifest :=
  { kind, rules := some (.ofList [("a", { terms := [{ pattern := "x" }] })]) }

/-- The directory that the manifest is in. -/
def misstatedFiles : Files := oneFile "base/p.yml" misstatedText

theorem ofFile_misstated : ofFile misstatedFiles "base/p.yml" = .ok (misstated .rule) := by
  decide +kernel

theorem statesKind_misstated : StatesKind misstatedFiles "base/p.yml" .rule := by
  have hkeys : (Document.ofText? shape.isRead misstatedText).map (·.keyTexts) =
      some ["kind", "rules"] := by
    decide +kernel
  obtain ⟨fields, hfields, -⟩ := exists_fields_of_ofFile ofFile_misstated
  refine (statesKind_iff_mem ofFile_misstated hfields).mpr ?_
  obtain ⟨text, document, htext, hdocument, hhas⟩ := hfields
  obtain rfl : misstatedText = text := Except.ok.inj htext
  rw [hdocument, Option.map_some, Option.some.injEq] at hkeys
  refine hhas.mem_of_mem_keyTexts ?_
  rw [hkeys]
  exact List.mem_cons_self ..

/-- As a rule the manifest is refused, and as a preset it is one. -/
theorem misstated_moduleFor_exact :
    ofFile misstatedFiles "base/p.yml" = .ok (misstated .rule) ∧
      StatesKind misstatedFiles "base/p.yml" .rule ∧
      moduleFor misstatedFiles "base" "base/p.yml" "p" .rule =
        .error (.invalidModule "p" .ruleWithSections) ∧
      moduleFor misstatedFiles "base" "base/p.yml" "p" .preset =
        .ok (.preset (.ofList [("a", .ofTerms { terms := [{ pattern := "x" }] })])) := by
  obtain ⟨hstated, -⟩ := moduleFor_exact ofFile_misstated "base" "p"
  obtain ⟨-, -, -, htaken⟩ := hstated .rule statesKind_misstated
  have hreference := htaken rfl rfl
  exact ⟨ofFile_misstated, statesKind_misstated, (hreference .rule).trans rfl,
    (hreference .preset).trans rfl⟩

/-- The manifest states to be a rule, and a reference to a preset makes another module of it. -/
theorem moduleFor_overrides_statedKind :
    StatesKind misstatedFiles "base/p.yml" .rule ∧
      ofFile misstatedFiles "base/p.yml" = .ok (misstated .rule) ∧
      moduleFor misstatedFiles "base" "base/p.yml" "p" .preset ≠
        (misstated .rule).toModule "p" := by
  refine ⟨statesKind_misstated, ofFile_misstated, fun hsame => ?_⟩
  rw [moduleFor_eq_toModule_iff ofFile_misstated] at hsame
  exact hsame ⟨rfl, rfl, nofun⟩

end Manifest
end LintRules
