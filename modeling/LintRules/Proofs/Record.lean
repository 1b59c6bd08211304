import LintRules.Proofs.Reading

/-!
# What the reader of records accepts

A record is a mapping whose fields are known and distinct, or a lenient one, whose other fields are
left unread.  It is read field by field in the order in which the fields are written, and each field
has its own part of the record, so that the order does not count in the end.

* `RecordShape.Fills`: the reading of a record field by field.  By `readRecord_eq_ok_iff` a record
  is accepted if it can be read so.
* `RecordShape.Admits`: which fields a record may have.
* `RecordShape.Says`: the part of a record that a field has to itself.
* `RecordShape.IsGrammar`: which fields a record may have and what they say.  By
  `IsGrammar.readRecord_eq_ok_iff` a node is accepted if it has such fields; nothing else has to be
  known of the reader.
-/

namespace LintRules
namespace Yaml

variable {β ρ : Type}

/-! ## Records -/

/-- What a record says about a field: what its value stands for, or else what stood there at
first. -/
def FieldIs (fields : List (String × Node)) (name : String) (R : Node → β → Prop) (start b : β) :
    Prop :=
  match Entries.find? name fields with
  | some value => R value b
  | none => b = start

theorem FieldIs.unique {fields : List (String × Node)} {name : String} {R : Node → β → Prop}
    {start b b' : β} (hR : Relator.RightUnique R) (h : FieldIs fields name R start b)
    (h' : FieldIs fields name R start b') : b = b' := by
  rw [FieldIs] at h h'
  cases hfind : Entries.find? name fields with
  | none =>
    rw [hfind] at h h'
    exact h.trans h'.symm
  | some value =>
    rw [hfind] at h h'
    exact hR h h'

/-- The field has no say in a part of the record. -/
def Field.Spares (field : Field ρ) (part : ρ → β) : Prop :=
  ∀ place value record record',
    field.read place value record = .ok record' → part record' = part record

/-- A value that is read on its own and then put in its place. -/
theorem Field.spares_of_set {γ : Type} {name : String} {part : ρ → β}
    {read : Location → Node → Except ShapeError γ} {set : γ → ρ → ρ}
    (hset : ∀ c record, part (set c record) = part record) :
    Field.Spares ⟨name, fun place value record => do
      return set (← read place value) record⟩ part := by
  intro place value record record' h
  obtain ⟨c, -, rfl⟩ := bind_pure_eq_ok_iff.mp h
  exact hset c record

/-- What a record says about a field that it must have. -/
def RequiredFieldIs (fields : List (String × Node)) (name : String) (R : Node → β → Prop) (b : β) :
    Prop :=
  ∃ value, Entries.find? name fields = some value ∧ R value b

/-- A value that is there. -/
def Node.IsPresent (R : Node → β → Prop) (node : Node) : Option β → Prop
  | none => False
  | some b => R node b

theorem rightUnique_isPresent {R : Node → β → Prop} (hR : Relator.RightUnique R) :
    Relator.RightUnique (Node.IsPresent R) := by
  intro node b b' h h'
  cases b with
  | none => exact h.elim
  | some b =>
    cases b' with
    | none => exact h'.elim
    | some b' => rw [hR h h']

theorem requiredFieldIs_iff {fields : List (String × Node)} {name : String} {R : Node → β → Prop}
    {b : β} :
    RequiredFieldIs fields name R b ↔ FieldIs fields name (Node.IsPresent R) none (some b) := by
  rw [RequiredFieldIs, FieldIs]
  cases Entries.find? name fields with
  | none => exact iff_of_false (fun ⟨_, h, _⟩ => nomatch h) (fun h => nomatch h)
  | some value =>
    constructor
    · rintro ⟨value', hvalue, h⟩
      rw [Option.some.inj hvalue]
      exact h
    · intro h
      exact ⟨value, rfl, h⟩

/-- The node is a mapping with fields as `IsWritten` tells. -/
def Node.IsRecordOf {σ : Type} (IsWritten : List (String × Node) → σ → Prop)
    (node : Node) (result : σ) : Prop :=
  ∃ fields, node.HasFields fields ∧ IsWritten fields result

theorem rightUnique_isRecordOf {σ : Type} {IsWritten : List (String × Node) → σ → Prop}
    (h : Relator.RightUnique IsWritten) : Relator.RightUnique (Node.IsRecordOf IsWritten) := by
  rintro node result result' ⟨fields, hfields, hwritten⟩ ⟨fields', hfields', hwritten'⟩
  rw [hfields'.unique hfields] at hwritten'
  exact h hwritten hwritten'

namespace RecordShape

/-- The names of the fields that a record may have. -/
def names (shape : RecordShape ρ) : List String := shape.fields.map (·.name)

/-- The field of a name. -/
def field? (shape : RecordShape ρ) (name : String) : Option (Field ρ) :=
  shape.fields.find? (·.name == name)

/-- The entries of a mapping fill the record, one after another, until it is `result`.  The names in
`seen` are filled already. -/
inductive Fills (shape : RecordShape ρ) (place : Location) :
    List String → ρ → List (Node × Node) → ρ → Prop
  | nil {seen : List String} {record : ρ} : Fills shape place seen record [] record
  /-- A field that is not read. -/
  | unread {seen : List String} {record result : ρ} {key value : Node} {name : String}
      {rest : List (Node × Node)} (hkey : key.HasText name) (hfield : shape.field? name = none)
      (hlenient : shape.lenient = true) (hrest : Fills shape place seen record rest result) :
      Fills shape place seen record ((key, value) :: rest) result
  | field {seen : List String} {record record' result : ρ} {key value : Node} {name : String}
      {rest : List (Node × Node)} {field : Field ρ} (hkey : key.HasText name)
      (hfield : shape.field? name = some field) (hnew : name ∉ seen)
      (hread : field.read (.ofKey key :: place) value record = .ok record')
      (hrest : Fills shape place (name :: seen) record' rest result) :
      Fills shape place seen record ((key, value) :: rest) result

variable {shape : RecordShape ρ} {place : Location} {seen : List String} {record result : ρ}
  {entries : List (Node × Node)}

theorem field?_isSome_iff {name : String} : (shape.field? name).isSome ↔ name ∈ shape.names := by
  rw [field?, List.find?_isSome, names, List.mem_map]
  simp only [beq_iff_eq]

theorem readFields_eq_ok_iff :
    readFields shape place seen record entries = .ok result ↔
      shape.Fills place seen record entries result := by
  induction entries generalizing seen record with
  | nil =>
    rw [readFields, Except.ok.injEq]
    constructor
    · rintro rfl
      exact .nil
    · intro h
      cases h
      rfl
  | cons entry rest ih =>
    obtain ⟨key, value⟩ := entry
    rw [readFields]
    constructor
    · intro h
      obtain ⟨name, hname, h⟩ := bind_eq_ok_iff.mp h
      have hkey : key.HasText name := readText_eq_ok_iff.mp hname
      split at h
      · next hfield =>
        split at h
        · next hlenient => exact .unread hkey hfield hlenient (ih.mp h)
        · cases h
      · next field hfield =>
        split at h
        · cases h
        · next hseen =>
          obtain ⟨record', hread, h⟩ := bind_eq_ok_iff.mp h
          refine .field hkey hfield ?_ hread (ih.mp h)
          simpa using hseen
    · intro h
      cases h with
      | @unread _ _ _ _ _ name _ hkey hfield hlenient hrest =>
        refine bind_eq_ok_iff.mpr ⟨name, readText_eq_ok_iff.mpr hkey, ?_⟩
        rw [field?] at hfield
        rw [hfield]
        dsimp only
        rw [if_pos hlenient]
        exact ih.mpr hrest
      | @field _ _ record' _ _ _ name _ _ hkey hfield hnew hread hrest =>
        refine bind_eq_ok_iff.mpr ⟨name, readText_eq_ok_iff.mpr hkey, ?_⟩
        rw [field?] at hfield
        rw [hfield]
        dsimp only
        rw [if_neg (by simpa using hnew)]
        exact bind_eq_ok_iff.mpr ⟨record', hread, ih.mpr hrest⟩

/-- Which fields a record may have: unless it leaves others unread they are all known, and those
that are known are distinct and not among the names in `seen`. -/
structure Admits (shape : RecordShape ρ) (seen : List String) (fields : List (String × Node)) :
    Prop where
  known : shape.lenient = false → ∀ field ∈ fields, field.1 ∈ shape.names
  distinct : ((fields.map Prod.fst).filter (· ∈ shape.names)).Nodup
  new : ∀ name ∈ fields.map Prod.fst, name ∈ shape.names → name ∉ seen

theorem Admits.nil (seen : List String) : shape.Admits seen [] where
  known _ _ hfield := absurd hfield List.not_mem_nil
  distinct := List.nodup_nil
  new _ hname := absurd hname List.not_mem_nil

/-- A field of another name is admitted if the record is lenient. -/
theorem admits_cons_of_unread {name : String} {value : Node} {fields : List (String × Node)}
    (hname : name ∉ shape.names) :
    shape.Admits seen ((name, value) :: fields) ↔
      shape.lenient = true ∧ shape.Admits seen fields := by
  have hfilter : (((name, value) :: fields).map Prod.fst).filter (· ∈ shape.names) =
      (fields.map Prod.fst).filter (· ∈ shape.names) := by
    rw [List.map_cons, List.filter_cons_of_neg (by simpa using hname)]
  constructor
  · intro h
    have hlenient : shape.lenient = true := by
      cases hlenient : shape.lenient with
      | true => rfl
      | false => exact absurd (h.known hlenient _ (List.mem_cons_self ..)) hname
    refine ⟨hlenient, fun hstrict field hfield => ?_, hfilter ▸ h.distinct, fun other hother => ?_⟩
    · exact h.known hstrict field (List.mem_cons_of_mem _ hfield)
    · exact h.new other (List.mem_cons_of_mem _ hother)
  · rintro ⟨hlenient, h⟩
    refine ⟨fun hstrict => ?_, hfilter ▸ h.distinct, fun other hother hknown => ?_⟩
    · exact absurd (hlenient.symm.trans hstrict) (by decide)
    · rcases List.mem_cons.mp hother with rfl | hother
      · exact absurd hknown hname
      · exact h.new other hother hknown

/-- A field of the record is admitted once. -/
theorem admits_cons_of_read {name : String} {value : Node} {fields : List (String × Node)}
    (hname : name ∈ shape.names) :
    shape.Admits seen ((name, value) :: fields) ↔
      name ∉ seen ∧ shape.Admits (name :: seen) fields := by
  have hfilter : (((name, value) :: fields).map Prod.fst).filter (· ∈ shape.names) =
      name :: (fields.map Prod.fst).filter (· ∈ shape.names) := by
    rw [List.map_cons, List.filter_cons_of_pos (by simpa using hname)]
  have hmem : name ∈ (fields.map Prod.fst).filter (· ∈ shape.names) ↔
      name ∈ fields.map Prod.fst := by
    rw [List.mem_filter, decide_eq_true_iff, and_iff_left hname]
  constructor
  · intro h
    have hdistinct := h.distinct
    rw [hfilter, List.nodup_cons, hmem] at hdistinct
    refine ⟨h.new name (List.mem_cons_self ..) hname, fun hstrict field hfield => ?_,
      hdistinct.2, fun other hother hknown => ?_⟩
    · exact h.known hstrict field (List.mem_cons_of_mem _ hfield)
    · rw [List.mem_cons, not_or]
      refine ⟨fun heq => hdistinct.1 (heq ▸ hother), ?_⟩
      exact h.new other (List.mem_cons_of_mem _ hother) hknown
  · rintro ⟨hnew, h⟩
    have hother : name ∉ fields.map Prod.fst := fun hmem =>
      h.new name hmem hname (List.mem_cons_self ..)
    refine ⟨fun hstrict field hfield => ?_, ?_, fun other hmem hknown => ?_⟩
    · rcases List.mem_cons.mp hfield with rfl | hfield
      · exact hname
      · exact h.known hstrict field hfield
    · rw [hfilter, List.nodup_cons, hmem]
      exact ⟨hother, h.distinct⟩
    · rcases List.mem_cons.mp hmem with rfl | hmem
      · exact hnew
      · exact fun hseen => h.new other hmem hknown (List.mem_cons_of_mem _ hseen)

/-- A field that is admitted is the only one of its name. -/
theorem Admits.find?_eq_some {fields : List (String × Node)} (h : shape.Admits seen fields)
    {field : String × Node} (hfield : field ∈ fields) (hname : field.1 ∈ shape.names) :
    Entries.find? field.1 fields = some field.2 := by
  induction fields generalizing seen with
  | nil => exact absurd hfield List.not_mem_nil
  | cons first rest ih =>
    obtain ⟨name, value⟩ := first
    rw [Entries.find?]
    by_cases hfirst : name ∈ shape.names
    · obtain ⟨-, hrest⟩ := (admits_cons_of_read hfirst).mp h
      rcases List.mem_cons.mp hfield with rfl | hmem
      · rw [if_pos rfl]
      · have hne : name ≠ field.1 := fun heq =>
          hrest.new _ (List.mem_map_of_mem hmem) hname (heq ▸ List.mem_cons_self ..)
        rw [if_neg hne]
        exact ih hrest hmem
    · obtain ⟨-, hrest⟩ := (admits_cons_of_unread hfirst).mp h
      rcases List.mem_cons.mp hfield with rfl | hmem
      · exact absurd hname hfirst
      · have hne : name ≠ field.1 := fun heq => hfirst (heq ▸ hname)
        rw [if_neg hne]
        exact ih hrest hmem

/-- The entries that fill a record are fields that the record may have. -/
theorem Fills.exists_fields (h : shape.Fills place seen record entries result) :
    ∃ fields, AreFields entries fields ∧ shape.Admits seen fields := by
  induction h with
  | nil => exact ⟨[], .nil, .nil _⟩
  | @unread _ _ _ _ value name _ hkey hfield hlenient _ ih =>
    obtain ⟨fields, hfields, hadmits⟩ := ih
    have hname : name ∉ shape.names := by
      rw [← field?_isSome_iff, hfield]
      exact Bool.false_ne_true
    exact ⟨(name, value) :: fields, .cons ⟨hkey, rfl⟩ hfields,
      (admits_cons_of_unread hname).mpr ⟨hlenient, hadmits⟩⟩
  | @field _ _ _ _ _ value name _ _ hkey hfield hnew _ _ ih =>
    obtain ⟨fields, hfields, hadmits⟩ := ih
    have hname : name ∈ shape.names := field?_isSome_iff.mp (Option.isSome_of_eq_some hfield)
    exact ⟨(name, value) :: fields, .cons ⟨hkey, rfl⟩ hfields,
      (admits_cons_of_read hname).mpr ⟨hnew, hadmits⟩⟩

/-- Fields that a record may have fill it, if the value of each of them can be read. -/
theorem exists_fills {fields : List (String × Node)} (hfields : AreFields entries fields)
    (hadmits : shape.Admits seen fields)
    (hread : ∀ f ∈ fields, ∀ field, shape.field? f.1 = some field →
      ∀ place record, ∃ record', field.read place f.2 record = .ok record') :
    ∃ result, shape.Fills place seen record entries result := by
  induction hfields generalizing seen record with
  | nil => exact ⟨record, .nil⟩
  | @cons entry f rest fields hentry hrest ih =>
    obtain ⟨key, value⟩ := entry
    obtain ⟨name, node⟩ := f
    obtain ⟨hkey, rfl⟩ := hentry
    have hread' := fun f hf => hread f (List.mem_cons_of_mem _ hf)
    cases hfield : shape.field? name with
    | none =>
      have hname : name ∉ shape.names := by
        rw [← field?_isSome_iff, hfield]
        exact Bool.false_ne_true
      obtain ⟨hlenient, hadmits⟩ := (admits_cons_of_unread hname).mp hadmits
      obtain ⟨result, hfills⟩ := ih hadmits hread'
      exact ⟨result, .unread hkey hfield hlenient hfills⟩
    | some field =>
      have hname : name ∈ shape.names := field?_isSome_iff.mp (Option.isSome_of_eq_some hfield)
      obtain ⟨hnew, hadmits⟩ := (admits_cons_of_read hname).mp hadmits
      obtain ⟨record', hrecord'⟩ :=
        hread (name, value) (List.mem_cons_self ..) field hfield (.ofKey key :: place) record
      obtain ⟨result, hfills⟩ := ih hadmits hread'
      exact ⟨result, .field hkey hfield hnew hrecord' hfills⟩

/-! ## One field of a record -/

/-- No field but the one of the given name has a say in `part`. -/
def OnlySaidBy (shape : RecordShape ρ) (part : ρ → β) (name : String) : Prop :=
  ∀ field ∈ shape.fields, field.name ≠ name → field.Spares part

variable {part : ρ → β} {name : String}

theorem field?_eq_some {field : Field ρ} (h : shape.field? name = some field) :
    field ∈ shape.fields ∧ field.name = name :=
  ⟨List.mem_of_find?_eq_some h, by simpa using List.find?_some h⟩

/-- What has been said is not said again. -/
theorem Fills.part_eq_of_seen (honly : shape.OnlySaidBy part name)
    (h : shape.Fills place seen record entries result) (hseen : name ∈ seen) :
    part result = part record := by
  induction h with
  | nil => rfl
  | unread _ _ _ _ ih => exact ih hseen
  | @field _ _ _ _ _ _ other _ field _ hfield hnew hread _ ih =>
    obtain ⟨hmem, hother⟩ := field?_eq_some hfield
    have hne : field.name ≠ name := by
      rw [hother]
      rintro rfl
      exact hnew hseen
    rw [ih (List.mem_cons_of_mem _ hseen), honly field hmem hne _ _ _ _ hread]

/-- **A part of a record is what the field of its name says**, and stays as it was if there is no
such field. -/
theorem Fills.fieldIs {R : Node → β → Prop} {fields : List (String × Node)}
    (honly : shape.OnlySaidBy part name) (hname : name ∈ shape.names)
    (htells : ∀ entry ∈ entries, ∀ field, shape.field? name = some field →
      ∀ place record record', field.read place entry.2 record = .ok record' →
        R entry.2 (part record'))
    (h : shape.Fills place seen record entries result) (hfields : AreFields entries fields)
    (hnew : name ∉ seen) : FieldIs fields name R (part record) (part result) := by
  induction h generalizing fields with
  | nil =>
    cases hfields
    rfl
  | @unread _ _ _ key value other rest hkey hfield _ _ ih =>
    cases hfields with
    | @cons _ f _ fields hf hfields =>
      obtain ⟨other', node⟩ := f
      obtain ⟨hkey', rfl⟩ := hf
      obtain rfl := hkey.unique hkey'
      have hne : other ≠ name := by
        rintro rfl
        rw [← field?_isSome_iff, hfield] at hname
        exact Bool.false_ne_true hname
      have hrest :=
        ih (fun entry hentry => htells entry (List.mem_cons_of_mem _ hentry)) hfields hnew
      rw [FieldIs, Entries.find?, if_neg hne]
      exact hrest
  | @field _ _ record' _ key value other rest field hkey hfield hother hread hrest ih =>
    cases hfields with
    | @cons _ f _ fields hf hfields =>
      obtain ⟨other', node⟩ := f
      obtain ⟨hkey', rfl⟩ := hf
      obtain rfl := hkey.unique hkey'
      by_cases hne : other = name
      · subst hne
        have hpart := hrest.part_eq_of_seen honly (List.mem_cons_self ..)
        rw [FieldIs, Entries.find?, if_pos rfl, hpart]
        exact htells (key, value) (List.mem_cons_self ..) field hfield _ _ _ hread
      · have hrest := ih (fun entry hentry => htells entry (List.mem_cons_of_mem _ hentry)) hfields
          (fun hmem => (List.mem_cons.mp hmem).elim (Ne.symm hne) hnew)
        obtain ⟨hmem, hfname⟩ := field?_eq_some hfield
        rw [honly field hmem (hfname ▸ hne) _ _ _ _ hread] at hrest
        rw [FieldIs, Entries.find?, if_neg hne]
        exact hrest

/-- The field of the given name has a part of the record to itself: its value is read if it stands
in `R` to something, and this is what the part is afterwards.  `P` holds for the values of which
this is said. -/
structure Says (shape : RecordShape ρ) (P : Node → Prop) (name : String) (part : ρ → β)
    (R : Node → β → Prop) : Prop where
  named : name ∈ shape.names
  only : shape.OnlySaidBy part name
  of_read : ∀ value, P value → ∀ field, shape.field? name = some field →
    ∀ place record record', field.read place value record = .ok record' → R value (part record')
  exists_read : ∀ value, P value → ∀ b, R value b → ∀ field, shape.field? name = some field →
    ∀ place record, ∃ record', field.read place value record = .ok record'

/-- A field whose value is read on its own and then put in its place. -/
theorem says_of_set {γ : Type} {P : Node → Prop} {R : Node → β → Prop}
    {read : Location → Node → Except ShapeError γ} {set : γ → ρ → ρ} (wrap : γ → β)
    (hfield : shape.field? name = some ⟨name, fun place value record => do
      return set (← read place value) record⟩)
    (honly : shape.OnlySaidBy part name) (hset : ∀ c record, part (set c record) = wrap c)
    (hread : ∀ value, P value → ∀ place c, read place value = .ok c ↔ R value (wrap c))
    (hwrap : ∀ value b, R value b → ∃ c, wrap c = b) : shape.Says P name part R where
  named := field?_isSome_iff.mp (Option.isSome_of_eq_some hfield)
  only := honly
  of_read value hvalue field hfield' place record record' h := by
    rw [hfield, Option.some.injEq] at hfield'
    subst hfield'
    obtain ⟨c, hc, rfl⟩ := bind_pure_eq_ok_iff.mp h
    rw [hset]
    exact (hread value hvalue place c).mp hc
  exists_read value hvalue b hb field hfield' place record := by
    rw [hfield, Option.some.injEq] at hfield'
    subst hfield'
    obtain ⟨c, rfl⟩ := hwrap value b hb
    exact ⟨_, bind_pure_eq_ok_iff.mpr ⟨c, (hread value hvalue place c).mpr hb, rfl⟩⟩

/-! ## Whole records -/

/-- Fields that a record may have, if it leaves no field unread. -/
theorem admits_iff_of_strict (hstrict : shape.lenient = false) {fields : List (String × Node)} :
    shape.Admits [] fields ↔
      (∀ field ∈ fields, field.1 ∈ shape.names) ∧ (fields.map Prod.fst).Nodup := by
  have hfilter : (∀ field ∈ fields, field.1 ∈ shape.names) →
      (fields.map Prod.fst).filter (· ∈ shape.names) = fields.map Prod.fst := by
    intro hknown
    refine List.filter_eq_self.mpr fun name hname => ?_
    obtain ⟨field, hfield, rfl⟩ := List.mem_map.mp hname
    exact decide_eq_true (hknown field hfield)
  constructor
  · intro h
    exact ⟨h.known hstrict, hfilter (h.known hstrict) ▸ h.distinct⟩
  · rintro ⟨hknown, hdistinct⟩
    refine ⟨fun _ => hknown, (hfilter hknown).symm ▸ hdistinct, fun _ _ _ => ?_⟩
    exact List.not_mem_nil

/-- Fields that a record may have, if it leaves others unread. -/
theorem admits_iff_of_lenient (hlenient : shape.lenient = true) {fields : List (String × Node)} :
    shape.Admits [] fields ↔ ((fields.map Prod.fst).filter (· ∈ shape.names)).Nodup :=
  ⟨Admits.distinct, fun hdistinct =>
    ⟨fun hstrict => absurd (hlenient.symm.trans hstrict) (by decide), hdistinct,
      fun _ _ _ => List.not_mem_nil⟩⟩

/-- **A record is accepted if its fields fill it and nothing is missing in the end.** -/
theorem readRecord_eq_ok_iff {σ : Type} {start : ρ} {finish : ρ → Except ShapeError σ}
    {node : Node} {result : σ} :
    readRecord shape start finish place node = .ok result ↔
      ∃ entries record, node.HasEntries entries ∧ shape.Fills place [] start entries record ∧
        finish record = .ok result := by
  rw [readRecord, withDirect_eq_ok_iff]
  constructor
  · rintro ⟨direct, hdirect, h⟩
    split at h
    · next tag entries =>
      obtain ⟨record, hrecord, hfinish⟩ := bind_eq_ok_iff.mp (placing_eq_ok_iff.mp h)
      exact ⟨entries, record, .map hdirect, readFields_eq_ok_iff.mp hrecord, hfinish⟩
    · split at h
      · next hblank =>
        exact ⟨[], start, .blank ((isBlankNode_iff hdirect).mp hblank), .nil,
          placing_eq_ok_iff.mp h⟩
      · cases h
  · rintro ⟨entries, record, hentries, hfills, hfinish⟩
    cases hentries with
    | @map tag _ hdirect =>
      refine ⟨_, hdirect, placing_eq_ok_iff.mpr (bind_eq_ok_iff.mpr ⟨record, ?_, hfinish⟩)⟩
      exact readFields_eq_ok_iff.mpr hfills
    | blank hblank =>
      cases hfills
      obtain ⟨tag, hdirect⟩ := hblank
      exact ⟨_, hdirect, placing_eq_ok_iff.mpr hfinish⟩

/-- The record is, part by part, what the fields say. -/
def Agrees (shape : RecordShape ρ) (P : Node → Prop) (start : ρ) (fields : List (String × Node))
    (record : ρ) : Prop :=
  ∀ (β : Type) (name : String) (part : ρ → β) (R : Node → β → Prop),
    shape.Says P name part R → FieldIs fields name R (part start) (part record)

/-- The fields say something about the part of the given name. -/
def IsSaid (shape : RecordShape ρ) (P : Node → Prop) (fields : List (String × Node))
    (name : String) : Prop :=
  ∃ (β : Type) (part : ρ → β) (R : Node → β → Prop) (start b : β),
    shape.Says P name part R ∧ FieldIs fields name R start b

theorem Fills.agrees {P : Node → Prop} {fields : List (String × Node)}
    (h : shape.Fills place [] record entries result) (hfields : AreFields entries fields)
    (hP : ∀ field ∈ fields, P field.2) : shape.Agrees P record fields result := by
  intro β name part R htells
  refine h.fieldIs htells.only htells.named (fun entry hentry => ?_) hfields List.not_mem_nil
  obtain ⟨field, hfield, -, hvalue⟩ := exists_of_mem_left hfields hentry
  exact htells.of_read entry.2 (hvalue ▸ hP field hfield)

/-- What is read from a record: its fields are some that it may have, and they say what it is. -/
theorem exists_fields_of_readRecord {σ : Type} {P : Node → Prop} {start : ρ}
    {finish : ρ → Except ShapeError σ} {node : Node} {result : σ}
    (hP : ∀ fields, node.HasFields fields → ∀ field ∈ fields, P field.2)
    (h : readRecord shape start finish place node = .ok result) :
    ∃ fields record, node.HasFields fields ∧ shape.Admits [] fields ∧
      shape.Agrees P start fields record ∧ finish record = .ok result := by
  obtain ⟨entries, record, hentries, hfills, hfinish⟩ := readRecord_eq_ok_iff.mp h
  obtain ⟨fields, hfields, hadmits⟩ := hfills.exists_fields
  have hhas : node.HasFields fields := ⟨entries, hentries, hfields⟩
  exact ⟨fields, record, hhas, hadmits, hfills.agrees hfields (hP fields hhas), hfinish⟩

/-- A record can be read if its fields are some that it may have and say something about each
part. -/
theorem exists_readRecord {σ : Type} {P : Node → Prop} {node : Node}
    {fields : List (String × Node)} (hP : ∀ field ∈ fields, P field.2)
    (hfields : node.HasFields fields) (hadmits : shape.Admits [] fields)
    (hsaid : ∀ name ∈ shape.names, shape.IsSaid P fields name)
    (start : ρ) (finish : ρ → Except ShapeError σ) (place : Location) :
    ∃ record, shape.Agrees P start fields record ∧
      ∀ result, finish record = .ok result →
        readRecord shape start finish place node = .ok result := by
  obtain ⟨entries, hentries, hare⟩ := hfields
  have hread : ∀ f ∈ fields, ∀ field, shape.field? f.1 = some field →
      ∀ place record, ∃ record', field.read place f.2 record = .ok record' := by
    intro f hf field hfield
    have hname : f.1 ∈ shape.names := field?_isSome_iff.mp (Option.isSome_of_eq_some hfield)
    obtain ⟨β, part, R, b₀, b, htells, hb⟩ := hsaid f.1 hname
    rw [FieldIs, hadmits.find?_eq_some hf hname] at hb
    exact htells.exists_read f.2 (hP f hf) b hb field hfield
  obtain ⟨record, hfills⟩ : ∃ record, shape.Fills place [] start entries record :=
    exists_fills hare hadmits hread
  refine ⟨record, hfills.agrees hare hP, fun result hfinish => ?_⟩
  exact readRecord_eq_ok_iff.mpr ⟨entries, record, hentries, hfills, hfinish⟩

/-- `IsWritten` tells which fields a record may have and, part by part, what it is then. -/
structure IsGrammar {σ : Type} (shape : RecordShape ρ) (P : Node → Prop) (start : ρ)
    (finish : ρ → Except ShapeError σ) (IsWritten : List (String × Node) → σ → Prop) : Prop where
  sound : ∀ fields record result, shape.Admits [] fields → shape.Agrees P start fields record →
    finish record = .ok result → IsWritten fields result
  admits : ∀ fields result, IsWritten fields result → shape.Admits [] fields
  said : ∀ fields result, IsWritten fields result →
    ∀ name ∈ shape.names, shape.IsSaid P fields name
  finishes : ∀ fields record result, IsWritten fields result →
    shape.Agrees P start fields record → ∃ result, finish record = .ok result
  unique : Relator.RightUnique IsWritten

/-- **A record is read from a mapping with the fields that its grammar tells**, and from no other
node. -/
theorem IsGrammar.readRecord_eq_ok_iff {σ : Type} {P : Node → Prop} {start : ρ}
    {finish : ρ → Except ShapeError σ} {IsWritten : List (String × Node) → σ → Prop}
    (h : shape.IsGrammar P start finish IsWritten) {node : Node} {result : σ}
    (hP : ∀ fields, node.HasFields fields → ∀ field ∈ fields, P field.2) :
    readRecord shape start finish place node = .ok result ↔ node.IsRecordOf IsWritten result := by
  constructor
  · intro hread
    obtain ⟨fields, record, hfields, hadmits, hagrees, hfinish⟩ :=
      exists_fields_of_readRecord hP hread
    exact ⟨fields, hfields, h.sound fields record result hadmits hagrees hfinish⟩
  · rintro ⟨fields, hfields, hwritten⟩
    have hadmits := h.admits fields result hwritten
    obtain ⟨record, hagrees, hread⟩ := exists_readRecord (hP fields hfields) hfields hadmits
      (h.said fields result hwritten) start finish place
    obtain ⟨result', hfinish⟩ := h.finishes fields record result hwritten hagrees
    rw [h.unique hwritten (h.sound fields record result' hadmits hagrees hfinish)]
    exact hread result' hfinish

end RecordShape

/-! ## Documents -/

namespace Document

/-- The document is a mapping with the given fields; an empty document has none. -/
def HasFields : Document → List (String × Node) → Prop
  | .empty, fields => fields = []
  | .root node, fields => node.HasFields fields

/-- Whether there are no tags in the document. -/
def isUntagged : Document → Bool
  | .empty => true
  | .root node => node.isUntagged

variable {document : Document} {fields fields' : List (String × Node)}

theorem HasFields.unique (h : document.HasFields fields) (h' : document.HasFields fields') :
    fields = fields' := by
  cases document with
  | empty =>
    rw [HasFields] at h h'
    rw [h, h']
  | root node => exact Node.HasFields.unique h h'

theorem HasFields.isUntagged (h : document.HasFields fields)
    (huntagged : document.isUntagged = true) {field : String × Node} (hfield : field ∈ fields) :
    field.2.isUntagged = true := by
  cases document with
  | empty =>
    rw [HasFields] at h
    subst h
    exact absurd hfield List.not_mem_nil
  | root node => exact Node.HasFields.isUntagged h huntagged hfield

end Document

/-- What is read from a document: its fields are some that the record may have, and they say what
it is.  An empty document is read as the record that no field has filled. -/
theorem RecordShape.exists_fields_of_readDocument {σ : Type} {shape : RecordShape ρ}
    {P : Node → Prop} {start : ρ} {finish : ρ → Except ShapeError σ} {document : Document}
    {result : σ} (hP : ∀ fields, document.HasFields fields → ∀ field ∈ fields, P field.2)
    (h : document.readRecord shape start finish = .ok result) :
    ∃ fields record, document.HasFields fields ∧ shape.Admits [] fields ∧
      shape.Agrees P start fields record ∧ finish record = .ok result := by
  cases document with
  | empty =>
    rw [Document.readRecord, placing_eq_ok_iff] at h
    exact ⟨[], start, rfl, Admits.nil [], fun _ _ _ _ _ => rfl, h⟩
  | root node => exact exists_fields_of_readRecord hP h

/-- **A document holds a record if it has the fields that its grammar tells.** -/
theorem RecordShape.IsGrammar.readDocument_eq_ok_iff {σ : Type} {shape : RecordShape ρ}
    {P : Node → Prop} {start : ρ} {finish : ρ → Except ShapeError σ}
    {IsWritten : List (String × Node) → σ → Prop} (h : shape.IsGrammar P start finish IsWritten)
    {document : Document} (hP : ∀ fields, document.HasFields fields → ∀ field ∈ fields, P field.2)
    {result : σ} :
    document.readRecord shape start finish = .ok result ↔
      ∃ fields, document.HasFields fields ∧ IsWritten fields result := by
  constructor
  · intro hread
    obtain ⟨fields, record, hfields, hadmits, hagrees, hfinish⟩ :=
      exists_fields_of_readDocument hP hread
    exact ⟨fields, hfields, h.sound fields record result hadmits hagrees hfinish⟩
  · rintro ⟨fields, hfields, hwritten⟩
    cases document with
    | empty =>
      rw [Document.HasFields] at hfields
      subst hfields
      -- no field has filled the record, so that it agrees with any fields that are not there
      have hagrees : shape.Agrees P start [] start := fun _ _ _ _ _ => rfl
      obtain ⟨result', hfinish⟩ := h.finishes [] start result hwritten hagrees
      rw [Document.readRecord, placing_eq_ok_iff]
      rwa [h.unique hwritten (h.sound [] start result' (Admits.nil []) hagrees hfinish)]
    | root node => exact (h.readRecord_eq_ok_iff hP).mpr ⟨fields, hfields, hwritten⟩

end Yaml
end LintRules
