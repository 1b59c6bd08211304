import LintRules.Manifest.Reading
import LintRules.Proofs.FieldOrder

/-!
# Which documents are manifests

A manifest is a record whose fields hold terms, rules and a processor, which are records in turn.
Each of the four has a grammar: the names that its fields may have, no name twice, and what stands
for what in each field.  Other fields are refused at every depth.  A repeated field is an error, but
a repeated rule is not: it keeps its first place and what is written last.

* `Term.IsWritten`, `TermRule.IsWritten`, `Manifest.IsProcessor`, `Manifest.IsWritten`: the
  grammars; `Manifest.IsHeldBy` is that of a document.
* `Term.says_pattern` and its like: each field has its part of the record to itself.  The grammars
  are proved from these (`Term.isGrammar` and its like), and the readers follow the grammars
  (`Term.read_eq_ok_iff`, `TermRule.read_eq_ok_iff`, `Manifest.read_eq_ok_iff`).
* `Manifest.SameDocument`: fields have changed places, at the root, in a term or in a rule.
* `Manifest.read_exact`: a document without tags is accepted exactly if it holds a manifest.
-/

namespace LintRules

open Yaml

namespace Yaml

theorem rightUnique_hasText : Relator.RightUnique Node.HasText :=
  fun _ _ _ h h' => h.unique h'

/-- A text that may be left out. -/
def Node.IsOptionalText : Node → Option String → Prop := Node.IsOptional Node.HasText

theorem rightUnique_isOptionalText : Relator.RightUnique Node.IsOptionalText :=
  rightUnique_isOptional rightUnique_hasText

theorem readOptionalText_eq_ok_iff {expected : String} {place : Location} {node : Node}
    (huntagged : node.isUntagged = true) {text : Option String} :
    readOptional (readText expected place) node = .ok text ↔ node.IsOptionalText text := by
  refine readOptional_eq_ok_iff huntagged fun text => ?_
  rw [← readText_eq_ok_iff]
  exact iff_of_eq (congrArg (· = Except.ok text) (withDirect_withDirect node _))

end Yaml

/-! ## Terms -/

namespace Term

/-- The fields are those of a term. -/
@[mk_iff] structure IsWritten (fields : List (String × Node)) (term : Term) : Prop where
  known : ∀ field ∈ fields, field.1 ∈ ["pattern", "replacement", "message"]
  distinct : (fields.map Prod.fst).Nodup
  pattern : RequiredFieldIs fields "pattern" Node.HasText term.pattern
  replacement : FieldIs fields "replacement" Node.IsOptionalText none term.replacement
  message : FieldIs fields "message" Node.IsOptionalText none term.message

theorem says_pattern :
    shape.Says (·.isUntagged) "pattern" Prod.fst (Node.IsPresent Node.HasText) := by
  refine RecordShape.says_of_set some rfl ?_ (fun _ _ => rfl)
    (fun _ _ _ _ => readText_eq_ok_iff) ?_
  · simp only [RecordShape.OnlySaidBy, shape, List.forall_mem_cons]
    exact ⟨fun h => absurd rfl h, fun _ => Field.spares_of_set fun _ _ => rfl,
      fun _ => Field.spares_of_set fun _ _ => rfl, nofun⟩
  · intro value pattern h
    cases pattern with
    | none => exact h.elim
    | some text => exact ⟨text, rfl⟩

theorem says_replacement :
    shape.Says (·.isUntagged) "replacement" (·.2.replacement) Node.IsOptionalText := by
  refine RecordShape.says_of_set id rfl ?_ (fun _ _ => rfl)
    (fun _ h _ _ => readOptionalText_eq_ok_iff h) (fun _ b _ => ⟨b, rfl⟩)
  simp only [RecordShape.OnlySaidBy, shape, List.forall_mem_cons]
  exact ⟨fun _ => Field.spares_of_set fun _ _ => rfl, fun h => absurd rfl h,
    fun _ => Field.spares_of_set fun _ _ => rfl, nofun⟩

theorem says_message : shape.Says (·.isUntagged) "message" (·.2.message) Node.IsOptionalText := by
  refine RecordShape.says_of_set id rfl ?_ (fun _ _ => rfl)
    (fun _ h _ _ => readOptionalText_eq_ok_iff h) (fun _ b _ => ⟨b, rfl⟩)
  simp only [RecordShape.OnlySaidBy, shape, List.forall_mem_cons]
  exact ⟨fun _ => Field.spares_of_set fun _ _ => rfl,
    fun _ => Field.spares_of_set fun _ _ => rfl, fun h => absurd rfl h, nofun⟩

theorem isGrammar : shape.IsGrammar (·.isUntagged) (none, { pattern := "" }) finish IsWritten where
  sound fields record result hadmits hagrees hfinish := by
    obtain ⟨hknown, hdistinct⟩ := (RecordShape.admits_iff_of_strict rfl).mp hadmits
    obtain ⟨pattern, term⟩ := record
    cases pattern with
    | none => cases hfinish
    | some pattern =>
      rw [← Except.ok.inj hfinish]
      exact ⟨hknown, hdistinct, requiredFieldIs_iff.mpr (hagrees _ _ _ _ says_pattern),
        hagrees _ _ _ _ says_replacement, hagrees _ _ _ _ says_message⟩
  admits fields term h := (RecordShape.admits_iff_of_strict rfl).mpr ⟨h.known, h.distinct⟩
  said fields term h :=
    List.forall_mem_cons.mpr ⟨⟨_, _, _, _, _, says_pattern, requiredFieldIs_iff.mp h.pattern⟩,
      List.forall_mem_cons.mpr ⟨⟨_, _, _, _, _, says_replacement, h.replacement⟩,
        List.forall_mem_cons.mpr ⟨⟨_, _, _, _, _, says_message, h.message⟩, nofun⟩⟩⟩
  finishes fields record term h hagrees := by
    have hpattern : record.1 = some term.pattern := (hagrees _ _ _ _ says_pattern).unique
      (rightUnique_isPresent rightUnique_hasText) (requiredFieldIs_iff.mp h.pattern)
    obtain ⟨pattern, term'⟩ := record
    rw [show pattern = some term.pattern from hpattern]
    exact ⟨_, rfl⟩
  unique fields term term' h h' := by
    have hpattern : some term.pattern = some term'.pattern :=
      (requiredFieldIs_iff.mp h.pattern).unique (rightUnique_isPresent rightUnique_hasText)
        (requiredFieldIs_iff.mp h'.pattern)
    have hreplacement := h.replacement.unique rightUnique_isOptionalText h'.replacement
    have hmessage := h.message.unique rightUnique_isOptionalText h'.message
    cases term
    cases term'
    simp_all

/-- A term is read from a mapping with the fields of a term. -/
theorem read_eq_ok_iff {place : Location} {node : Node} (huntagged : node.isUntagged = true)
    {term : Term} : read place node = .ok term ↔ node.IsRecordOf IsWritten term :=
  isGrammar.readRecord_eq_ok_iff fun _ hfields _ hfield => hfields.isUntagged huntagged hfield

/-- A list of terms. -/
theorem readList_eq_ok_iff {place : Location} {node : Node} (huntagged : node.isUntagged = true)
    {terms : List Term} :
    readList read place node = .ok terms ↔ node.IsListOf (Node.IsRecordOf IsWritten) terms :=
  Yaml.readList_eq_ok_iff fun _ hitems _ hitem _ _ =>
    read_eq_ok_iff (hitems.isUntagged huntagged hitem)

end Term

/-! ## Rules -/

namespace TermRule

/-- The fields are those of a rule. -/
@[mk_iff] structure IsWritten (fields : List (String × Node)) (rule : TermRule) : Prop where
  known : ∀ field ∈ fields, field.1 ∈ ["description", "terms"]
  distinct : (fields.map Prod.fst).Nodup
  description : FieldIs fields "description" Node.IsOptionalText none rule.description
  terms : FieldIs fields "terms" (Node.IsListOf (Node.IsRecordOf Term.IsWritten)) [] rule.terms

theorem says_description :
    shape.Says (·.isUntagged) "description" TermRule.description Node.IsOptionalText := by
  refine RecordShape.says_of_set id rfl ?_ (fun _ _ => rfl)
    (fun _ h _ _ => readOptionalText_eq_ok_iff h) (fun _ b _ => ⟨b, rfl⟩)
  simp only [RecordShape.OnlySaidBy, shape, List.forall_mem_cons]
  exact ⟨fun h => absurd rfl h, fun _ => Field.spares_of_set fun _ _ => rfl, nofun⟩

theorem says_terms : shape.Says (·.isUntagged) "terms" TermRule.terms
    (Node.IsListOf (Node.IsRecordOf Term.IsWritten)) := by
  refine RecordShape.says_of_set id rfl ?_ (fun _ _ => rfl)
    (fun _ h _ _ => Term.readList_eq_ok_iff h) (fun _ b _ => ⟨b, rfl⟩)
  simp only [RecordShape.OnlySaidBy, shape, List.forall_mem_cons]
  exact ⟨fun _ => Field.spares_of_set fun _ _ => rfl, fun h => absurd rfl h, nofun⟩

theorem isGrammar : shape.IsGrammar (·.isUntagged) {} .ok IsWritten where
  sound fields record rule hadmits hagrees hfinish := by
    obtain ⟨hknown, hdistinct⟩ := (RecordShape.admits_iff_of_strict rfl).mp hadmits
    rw [← Except.ok.inj hfinish]
    exact ⟨hknown, hdistinct, hagrees _ _ _ _ says_description, hagrees _ _ _ _ says_terms⟩
  admits fields rule h := (RecordShape.admits_iff_of_strict rfl).mpr ⟨h.known, h.distinct⟩
  said fields rule h :=
    List.forall_mem_cons.mpr ⟨⟨_, _, _, _, _, says_description, h.description⟩,
      List.forall_mem_cons.mpr ⟨⟨_, _, _, _, _, says_terms, h.terms⟩, nofun⟩⟩
  finishes fields record rule h hagrees := ⟨record, rfl⟩
  unique fields rule rule' h h' := by
    have hdescription := h.description.unique rightUnique_isOptionalText h'.description
    have hterms := h.terms.unique
      (rightUnique_isListOf (rightUnique_isRecordOf Term.isGrammar.unique)) h'.terms
    cases rule
    cases rule'
    simp_all

/-- A rule is read from a mapping with the fields of a rule. -/
theorem read_eq_ok_iff {place : Location} {node : Node} (huntagged : node.isUntagged = true)
    {rule : TermRule} : read place node = .ok rule ↔ node.IsRecordOf IsWritten rule :=
  isGrammar.readRecord_eq_ok_iff fun _ hfields _ hfield => hfields.isUntagged huntagged hfield

/-- A table of rules. -/
theorem readTable_eq_ok_iff {place : Location} {node : Node} (huntagged : node.isUntagged = true)
    {rules : Table TermRule} :
    readTable read place node = .ok rules ↔ node.IsTableOf (Node.IsRecordOf IsWritten) rules :=
  Yaml.readTable_eq_ok_iff fun _ hentries _ hentry _ _ =>
    read_eq_ok_iff (hentries.isUntagged huntagged hentry)

end TermRule

/-! ## Manifests -/

namespace Manifest

/-- The fields are those of a processor. -/
structure IsProcessor (fields : List (String × Node)) (extensions : List String) : Prop where
  known : ∀ field ∈ fields, field.1 ∈ ["extensions"]
  distinct : (fields.map Prod.fst).Nodup
  extensions : RequiredFieldIs fields "extensions" (Node.IsListOf Node.HasText) extensions

/-- The fields are those of a manifest. -/
@[mk_iff] structure IsWritten (fields : List (String × Node)) (manifest : Manifest) : Prop where
  known : ∀ field ∈ fields, field.1 ∈ ["kind", "description", "terms", "rules", "processor"]
  distinct : (fields.map Prod.fst).Nodup
  kind : FieldIs fields "kind" (fun node kind => node.HasText kind.text) .rule manifest.kind
  description : FieldIs fields "description" Node.IsOptionalText none manifest.description
  terms : FieldIs fields "terms" (Node.IsListOf (Node.IsRecordOf Term.IsWritten)) [] manifest.terms
  rules : FieldIs fields "rules"
    (Node.IsOptional (Node.IsTableOf (Node.IsRecordOf TermRule.IsWritten))) none manifest.rules
  extensions : FieldIs fields "processor" (Node.IsOptional (Node.IsRecordOf IsProcessor)) none
    manifest.extensions

/-- The document is a mapping with the fields of a manifest, or an empty one. -/
def IsHeldBy (document : Document) (manifest : Manifest) : Prop :=
  ∃ fields, document.HasFields fields ∧ IsWritten fields manifest

theorem says_extensions :
    processorShape.Says (·.isUntagged) "extensions" id
      (Node.IsPresent (Node.IsListOf Node.HasText)) := by
  refine RecordShape.says_of_set some rfl ?_ (fun _ _ => rfl)
    (fun _ _ _ _ => readList_eq_ok_iff fun _ _ _ _ _ _ => readText_eq_ok_iff) ?_
  · simp only [RecordShape.OnlySaidBy, processorShape, List.forall_mem_cons]
    exact ⟨fun h => absurd rfl h, nofun⟩
  · intro value extensions h
    cases extensions with
    | none => exact h.elim
    | some extensions => exact ⟨extensions, rfl⟩

theorem isGrammar_processor :
    processorShape.IsGrammar (·.isUntagged) none finishProcessor IsProcessor where
  sound fields record extensions hadmits hagrees hfinish := by
    obtain ⟨hknown, hdistinct⟩ := (RecordShape.admits_iff_of_strict rfl).mp hadmits
    cases record with
    | none => cases hfinish
    | some record =>
      rw [← Except.ok.inj hfinish]
      exact ⟨hknown, hdistinct, requiredFieldIs_iff.mpr (hagrees _ _ _ _ says_extensions)⟩
  admits fields extensions h := (RecordShape.admits_iff_of_strict rfl).mpr ⟨h.known, h.distinct⟩
  said fields extensions h :=
    List.forall_mem_cons.mpr
      ⟨⟨_, _, _, _, _, says_extensions, requiredFieldIs_iff.mp h.extensions⟩, nofun⟩
  finishes fields record extensions h hagrees := by
    have hrecord : record = some extensions := (hagrees _ _ _ _ says_extensions).unique
      (rightUnique_isPresent (rightUnique_isListOf rightUnique_hasText))
      (requiredFieldIs_iff.mp h.extensions)
    rw [hrecord]
    exact ⟨_, rfl⟩
  unique fields extensions extensions' h h' := by
    have hsome := (requiredFieldIs_iff.mp h.extensions).unique
      (rightUnique_isPresent (rightUnique_isListOf rightUnique_hasText))
      (requiredFieldIs_iff.mp h'.extensions)
    exact Option.some.inj hsome

theorem pickVariant_kinds_eq_ok_iff {place : Option Location} {name : String}
    {kind : PackageKind} : pickVariant kinds place name = .ok kind ↔ kind.text = name := by
  constructor
  · intro h
    rw [pickVariant] at h
    split at h
    · next variant hfind =>
      have htext : ∀ variant ∈ kinds, variant.2.text = variant.1 := by decide
      have hname : variant.1 = name := by simpa using List.find?_some hfind
      rw [← Except.ok.inj h, htext variant (List.mem_of_find?_eq_some hfind), hname]
    · cases h
  · rintro rfl
    cases kind <;> rfl

theorem readKind_eq_ok_iff {place : Location} {node : Node} (huntagged : node.isUntagged = true)
    {kind : PackageKind} : readVariant kinds place node = .ok kind ↔ node.HasText kind.text := by
  rw [readVariant, withDirect_eq_ok_iff]
  constructor
  · rintro ⟨direct, hdirect, h⟩
    have hdirect' := Node.isUntagged_direct huntagged hdirect
    cases direct with
    | scalar text plain tag =>
      rw [Node.isUntagged, Option.isNone_iff_eq_none] at hdirect'
      subst hdirect'
      rw [pickVariant_kinds_eq_ok_iff.mp h]
      exact ⟨plain, none, hdirect⟩
    | seq tag items =>
      rw [Node.isUntagged, Bool.and_eq_true, Option.isNone_iff_eq_none] at hdirect'
      obtain ⟨rfl, -⟩ := hdirect'
      cases h
    | map tag entries =>
      rw [Node.isUntagged, Bool.and_eq_true, Option.isNone_iff_eq_none] at hdirect'
      obtain ⟨rfl, -⟩ := hdirect'
      cases h
    | «alias» target => cases h
  · rintro ⟨plain, tag, hdirect⟩
    have hdirect' := Node.isUntagged_direct huntagged hdirect
    rw [Node.isUntagged, Option.isNone_iff_eq_none] at hdirect'
    subst hdirect'
    exact ⟨_, hdirect, pickVariant_kinds_eq_ok_iff.mpr rfl⟩

theorem says_kind :
    shape.Says (·.isUntagged) "kind" kind (fun node kind => node.HasText kind.text) := by
  refine RecordShape.says_of_set id rfl ?_ (fun _ _ => rfl)
    (fun _ h _ _ => readKind_eq_ok_iff h) (fun _ b _ => ⟨b, rfl⟩)
  simp only [RecordShape.OnlySaidBy, shape, List.forall_mem_cons]
  exact ⟨fun h => absurd rfl h, fun _ => Field.spares_of_set fun _ _ => rfl,
    fun _ => Field.spares_of_set fun _ _ => rfl, fun _ => Field.spares_of_set fun _ _ => rfl,
    fun _ => Field.spares_of_set fun _ _ => rfl, nofun⟩

theorem says_description :
    shape.Says (·.isUntagged) "description" description Node.IsOptionalText := by
  refine RecordShape.says_of_set id rfl ?_ (fun _ _ => rfl)
    (fun _ h _ _ => readOptionalText_eq_ok_iff h) (fun _ b _ => ⟨b, rfl⟩)
  simp only [RecordShape.OnlySaidBy, shape, List.forall_mem_cons]
  exact ⟨fun _ => Field.spares_of_set fun _ _ => rfl, fun h => absurd rfl h,
    fun _ => Field.spares_of_set fun _ _ => rfl, fun _ => Field.spares_of_set fun _ _ => rfl,
    fun _ => Field.spares_of_set fun _ _ => rfl, nofun⟩

theorem says_terms : shape.Says (·.isUntagged) "terms" terms
    (Node.IsListOf (Node.IsRecordOf Term.IsWritten)) := by
  refine RecordShape.says_of_set id rfl ?_ (fun _ _ => rfl)
    (fun _ h _ _ => Term.readList_eq_ok_iff h) (fun _ b _ => ⟨b, rfl⟩)
  simp only [RecordShape.OnlySaidBy, shape, List.forall_mem_cons]
  exact ⟨fun _ => Field.spares_of_set fun _ _ => rfl, fun _ => Field.spares_of_set fun _ _ => rfl,
    fun h => absurd rfl h, fun _ => Field.spares_of_set fun _ _ => rfl,
    fun _ => Field.spares_of_set fun _ _ => rfl, nofun⟩

theorem says_rules : shape.Says (·.isUntagged) "rules" rules
    (Node.IsOptional (Node.IsTableOf (Node.IsRecordOf TermRule.IsWritten))) := by
  refine RecordShape.says_of_set id rfl ?_ (fun _ _ => rfl)
    (fun value h place rules => ?_) (fun _ b _ => ⟨b, rfl⟩)
  · simp only [RecordShape.OnlySaidBy, shape, List.forall_mem_cons]
    exact ⟨fun _ => Field.spares_of_set fun _ _ => rfl, fun _ => Field.spares_of_set fun _ _ => rfl,
      fun _ => Field.spares_of_set fun _ _ => rfl, fun h => absurd rfl h,
      fun _ => Field.spares_of_set fun _ _ => rfl, nofun⟩
  · refine readOptional_eq_ok_iff h fun table => ?_
    rw [← TermRule.readTable_eq_ok_iff h]
    exact iff_of_eq (congrArg (· = Except.ok table) (withDirect_withDirect value _))

theorem says_processor : shape.Says (·.isUntagged) "processor" extensions
    (Node.IsOptional (Node.IsRecordOf IsProcessor)) := by
  refine RecordShape.says_of_set id rfl ?_ (fun _ _ => rfl)
    (fun value h place extensions => ?_) (fun _ b _ => ⟨b, rfl⟩)
  · simp only [RecordShape.OnlySaidBy, shape, List.forall_mem_cons]
    exact ⟨fun _ => Field.spares_of_set fun _ _ => rfl, fun _ => Field.spares_of_set fun _ _ => rfl,
      fun _ => Field.spares_of_set fun _ _ => rfl, fun _ => Field.spares_of_set fun _ _ => rfl,
      fun h => absurd rfl h, nofun⟩
  · refine readOptional_eq_ok_iff h fun extensions => ?_
    rw [← isGrammar_processor.readRecord_eq_ok_iff fun _ hfields _ hfield =>
      hfields.isUntagged h hfield]
    exact iff_of_eq (congrArg (· = Except.ok extensions) (withDirect_withDirect value _))

theorem isGrammar : shape.IsGrammar (·.isUntagged) {} .ok IsWritten where
  sound fields record manifest hadmits hagrees hfinish := by
    obtain ⟨hknown, hdistinct⟩ := (RecordShape.admits_iff_of_strict rfl).mp hadmits
    rw [← Except.ok.inj hfinish]
    exact ⟨hknown, hdistinct, hagrees _ _ _ _ says_kind, hagrees _ _ _ _ says_description,
      hagrees _ _ _ _ says_terms, hagrees _ _ _ _ says_rules, hagrees _ _ _ _ says_processor⟩
  admits fields manifest h := (RecordShape.admits_iff_of_strict rfl).mpr ⟨h.known, h.distinct⟩
  said fields manifest h :=
    List.forall_mem_cons.mpr ⟨⟨_, _, _, _, _, says_kind, h.kind⟩,
      List.forall_mem_cons.mpr ⟨⟨_, _, _, _, _, says_description, h.description⟩,
        List.forall_mem_cons.mpr ⟨⟨_, _, _, _, _, says_terms, h.terms⟩,
          List.forall_mem_cons.mpr ⟨⟨_, _, _, _, _, says_rules, h.rules⟩,
            List.forall_mem_cons.mpr ⟨⟨_, _, _, _, _, says_processor, h.extensions⟩, nofun⟩⟩⟩⟩⟩
  finishes fields record manifest h hagrees := ⟨record, rfl⟩
  unique fields manifest manifest' h h' := by
    have hkind : manifest.kind = manifest'.kind := by
      refine h.kind.unique (fun node kind kind' htext htext' => ?_) h'.kind
      have := htext.unique htext'
      revert this
      cases kind <;> cases kind' <;> decide
    have hdescription := h.description.unique rightUnique_isOptionalText h'.description
    have hterms := h.terms.unique
      (rightUnique_isListOf (rightUnique_isRecordOf Term.isGrammar.unique)) h'.terms
    have hrules := h.rules.unique (rightUnique_isOptional
      (rightUnique_isTableOf (rightUnique_isRecordOf TermRule.isGrammar.unique))) h'.rules
    have hextensions := h.extensions.unique (rightUnique_isOptional
      (rightUnique_isRecordOf isGrammar_processor.unique)) h'.extensions
    cases manifest
    cases manifest'
    simp_all

/-- A document is read as a manifest exactly if it holds one. -/
theorem read_eq_ok_iff {document : Document} (huntagged : document.isUntagged = true)
    {manifest : Manifest} : read document = .ok manifest ↔ IsHeldBy document manifest :=
  isGrammar.readDocument_eq_ok_iff fun _ hfields _ hfield => hfields.isUntagged huntagged hfield

end Manifest

/-! ## The order of fields -/

namespace Term

/-- The fields of a term may change places. -/
def Same : Node → Node → Prop := Node.SameRecord fun _ => Eq

theorem isWritten_iff_of_sameFields {fields fields' : List (String × Node)}
    (h : SameFields (fun _ => Eq) fields fields') (term : Term) :
    IsWritten fields term ↔ IsWritten fields' term := by
  rw [isWritten_iff, isWritten_iff, ← h.nodup_iff, requiredFieldIs_iff, requiredFieldIs_iff]
  refine and_congr h.known_iff (and_congr_right fun hdistinct => ?_)
  exact and_congr (h.fieldIs_iff hdistinct (respects_eq _))
    (and_congr (h.fieldIs_iff hdistinct (respects_eq _)) (h.fieldIs_iff hdistinct (respects_eq _)))

theorem respects_isListOf :
    Respects (Node.SameList Same) (Node.IsListOf (Node.IsRecordOf IsWritten)) :=
  Yaml.respects_isListOf (respects_isRecordOf fun _ _ => isWritten_iff_of_sameFields)

end Term

namespace TermRule

/-- Which values of a rule are alike: in its terms fields may change places. -/
def alike (name : String) : Node → Node → Prop :=
  if name = "terms" then Node.SameList Term.Same else Eq

/-- The fields of a rule and of its terms may change places. -/
def Same : Node → Node → Prop := Node.SameRecord alike

theorem isWritten_iff_of_sameFields {fields fields' : List (String × Node)}
    (h : SameFields alike fields fields') (rule : TermRule) :
    IsWritten fields rule ↔ IsWritten fields' rule := by
  have hdescription : Respects (alike "description") Node.IsOptionalText := by
    rw [alike, if_neg (by decide)]
    exact respects_eq _
  have hterms : Respects (alike "terms") (Node.IsListOf (Node.IsRecordOf Term.IsWritten)) := by
    rw [alike, if_pos rfl]
    exact Term.respects_isListOf
  rw [isWritten_iff, isWritten_iff, ← h.nodup_iff]
  refine and_congr h.known_iff (and_congr_right fun hdistinct => ?_)
  exact and_congr (h.fieldIs_iff hdistinct hdescription) (h.fieldIs_iff hdistinct hterms)

theorem respects_isTableOf :
    Respects (Node.SameTable Same) (Node.IsOptional (Node.IsTableOf (Node.IsRecordOf IsWritten))) :=
  respects_isOptional
    (Yaml.respects_isTableOf (respects_isRecordOf fun _ _ => isWritten_iff_of_sameFields))
    fun _ _ h => h.isNull_iff

end TermRule

namespace Manifest

/-- Which values of a manifest are alike: in its terms and in its rules fields may change places,
but no term and no rule. -/
def alike (name : String) : Node → Node → Prop :=
  if name = "terms" then Node.SameList Term.Same
  else if name = "rules" then Node.SameTable TermRule.Same
  else Eq

theorem isWritten_iff_of_sameFields {fields fields' : List (String × Node)}
    (h : SameFields alike fields fields') (manifest : Manifest) :
    IsWritten fields manifest ↔ IsWritten fields' manifest := by
  have hother : ∀ (β : Type) (name : String) (R : Node → β → Prop), name ≠ "terms" →
      name ≠ "rules" → Respects (alike name) R := by
    intro β name R hterms hrules
    rw [alike, if_neg hterms, if_neg hrules]
    exact respects_eq R
  have hterms : Respects (alike "terms") (Node.IsListOf (Node.IsRecordOf Term.IsWritten)) := by
    rw [alike, if_pos rfl]
    exact Term.respects_isListOf
  have hrules : Respects (alike "rules")
      (Node.IsOptional (Node.IsTableOf (Node.IsRecordOf TermRule.IsWritten))) := by
    rw [alike, if_neg (by decide), if_pos rfl]
    exact TermRule.respects_isTableOf
  rw [isWritten_iff, isWritten_iff, ← h.nodup_iff]
  refine and_congr h.known_iff (and_congr_right fun hdistinct => ?_)
  refine and_congr (h.fieldIs_iff hdistinct (hother _ _ _ (by decide) (by decide))) ?_
  refine and_congr (h.fieldIs_iff hdistinct (hother _ _ _ (by decide) (by decide))) ?_
  refine and_congr (h.fieldIs_iff hdistinct hterms) ?_
  refine and_congr (h.fieldIs_iff hdistinct hrules) ?_
  exact h.fieldIs_iff hdistinct (hother _ _ _ (by decide) (by decide))

/-- The documents have the same fields, which may have changed places at the root, in a term and in
a rule. -/
def SameDocument (document document' : Document) : Prop :=
  ∃ fields fields', document.HasFields fields ∧ document'.HasFields fields' ∧
    SameFields alike fields fields'

theorem isHeldBy_iff_of_sameDocument {document document' : Document}
    (h : SameDocument document document') (manifest : Manifest) :
    IsHeldBy document manifest ↔ IsHeldBy document' manifest := by
  obtain ⟨fields, fields', hfields, hfields', hsame⟩ := h
  have hwritten := isWritten_iff_of_sameFields hsame manifest
  constructor
  · rintro ⟨written, hread, hmanifest⟩
    rw [hread.unique hfields] at hmanifest
    exact ⟨fields', hfields', hwritten.mp hmanifest⟩
  · rintro ⟨written, hread, hmanifest⟩
    rw [hread.unique hfields'] at hmanifest
    exact ⟨fields, hfields, hwritten.mpr hmanifest⟩

/-! ## Texts -/

theorem ofText_eq_ok_iff {text : String} {document : Document}
    (htext : Document.ofText? shape.isRead text = some document) {manifest : Manifest} :
    ofText text = .ok manifest ↔ read document = .ok manifest := by
  rw [ofText, readDocument, htext]
  dsimp only
  cases read document with
  | ok found => exact Iff.rfl.trans (by rw [Except.ok.injEq, Except.ok.injEq])
  | error e => exact iff_of_false (fun h => nomatch h) (fun h => nomatch h)

theorem ofFile_eq_ok_iff {files : Files} {path : Path} {text : String}
    (htext : files.text path = .ok text) {manifest : Manifest} :
    ofFile files path = .ok manifest ↔ ofText text = .ok manifest := by
  rw [ofFile, htext]
  dsimp only
  cases ofText text with
  | ok found => rw [Except.ok.injEq, Except.ok.injEq]
  | error e => exact iff_of_false (fun h => nomatch h) (fun h => nomatch h)

/-- **A document without tags is accepted exactly if it holds a manifest, and as this manifest.**
The same goes for a text of the document and for a file with this text, wherever the file is; and
fields that change places change neither whether nor as what the document is accepted. -/
theorem read_exact {document : Document} (huntagged : document.isUntagged = true)
    (manifest : Manifest) :
    (read document = .ok manifest ↔ IsHeldBy document manifest) ∧
      (∀ text, Document.ofText? shape.isRead text = some document →
        (ofText text = .ok manifest ↔ IsHeldBy document manifest) ∧
          ∀ files path, Files.text files path = .ok text →
            (ofFile files path = .ok manifest ↔ IsHeldBy document manifest)) ∧
      ∀ document', document'.isUntagged = true → SameDocument document document' →
        (read document' = .ok manifest ↔ IsHeldBy document manifest) := by
  have hread : read document = .ok manifest ↔ IsHeldBy document manifest := read_eq_ok_iff huntagged
  refine ⟨hread, fun text htext => ⟨?_, fun files path hfile => ?_⟩, ?_⟩
  · rw [ofText_eq_ok_iff htext, hread]
  · rw [ofFile_eq_ok_iff hfile, ofText_eq_ok_iff htext, hread]
  · intro document' huntagged' hsame
    rw [read_eq_ok_iff huntagged', isHeldBy_iff_of_sameDocument hsame]

/-- A plain scalar. -/
def word (text : String) : Node := .scalar text true none

/-- A mapping with plain scalars as keys. -/
def record (fields : List (String × Node)) : Node :=
  .map none (fields.map fun field => (word field.1, field.2))

theorem hasFields_record (fields : List (String × Node)) : (record fields).HasFields fields := by
  refine ⟨_, .map rfl, ?_⟩
  rw [AreFields, List.forall₂_map_left_iff, List.forall₂_same]
  exact fun field _ => ⟨⟨true, none, rfl⟩, rfl⟩

/-- A preset with a rule that is written twice, around another one. -/
def repeating : Document := .root (record [
  ("kind", word "preset"),
  ("rules", record [
    ("b", record []),
    ("a", record [
      ("description", word "~"),
      ("terms", .seq none [record [("pattern", word "x"), ("replacement", word "y")]])]),
    ("b", record [("description", word "d")])])])

/-- The same preset with other places for the fields. -/
def rearranged : Document := .root (record [
  ("rules", record [
    ("b", record []),
    ("a", record [
      ("terms", .seq none [record [("replacement", word "y"), ("pattern", word "x")]]),
      ("description", word "~")]),
    ("b", record [("description", word "d")])]),
  ("kind", word "preset")])

theorem sameDocument_rearranged : SameDocument repeating rearranged := by
  have hterm : Term.Same (record [("pattern", word "x"), ("replacement", word "y")])
      (record [("replacement", word "y"), ("pattern", word "x")]) :=
    .inr ⟨_, _, hasFields_record _, hasFields_record _, nofun, _, .swap .., List.forall₂_same.mpr
      fun _ _ => ⟨rfl, rfl⟩⟩
  have hterms : TermRule.alike "terms"
      (.seq none [record [("pattern", word "x"), ("replacement", word "y")]])
      (.seq none [record [("replacement", word "y"), ("pattern", word "x")]]) := by
    rw [TermRule.alike, if_pos rfl]
    exact .inr ⟨_, _, .seq rfl, .seq rfl, .cons hterm .nil⟩
  have hdescription : TermRule.alike "description" (word "~") (word "~") := by
    rw [TermRule.alike, if_neg (by decide)]
  refine ⟨_, _, hasFields_record _, hasFields_record _, _, .swap .., .cons ⟨rfl, ?_⟩
    (.cons ⟨rfl, ?_⟩ .nil)⟩
  · rw [alike, if_neg (by decide), if_pos rfl]
    refine .inr ⟨_, _, hasFields_record _, hasFields_record _, nofun, .cons ⟨rfl, .inl rfl⟩
      (.cons ⟨rfl, .inr ?_⟩ (.cons ⟨rfl, .inl rfl⟩ .nil))⟩
    exact ⟨_, _, hasFields_record _, hasFields_record _, nofun, _, .swap ..,
      .cons ⟨rfl, hterms⟩ (.cons ⟨rfl, hdescription⟩ .nil)⟩
  · rw [alike, if_neg (by decide), if_neg (by decide)]

/-- Both are accepted as the preset whose repeated rule comes first and is as it is written last. -/
theorem repeating_read_exact :
    ∃ manifest : Manifest, manifest.kind = .preset ∧
      manifest.rules.map (·.entries) = some [
        ("b", { description := some "d" }),
        ("a", { terms := [{ pattern := "x", replacement := some "y" }] })] ∧
      IsHeldBy repeating manifest ∧ read rearranged = .ok manifest := by
  obtain ⟨hread, -, hsame⟩ := @read_exact repeating rfl
    { kind := .preset
      rules := some (.ofList [
        ("b", { description := some "d" }),
        ("a", { terms := [{ pattern := "x", replacement := some "y" }] })]) }
  have hheld := hread.mp rfl
  exact ⟨_, rfl, rfl, hheld, (hsame rearranged rfl sameDocument_rearranged).mpr hheld⟩

end Manifest

end LintRules
