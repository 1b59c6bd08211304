import LintRules.Proofs.Record
import Mathlib.Data.List.Perm.Basic

/-!
# The order of fields

The fields of a record may be written in any order.  To say so at every depth of a node, what is
read from a node is compared along a relation that says which nodes are alike: fields may change
places in a record, but neither items in a list nor entries in a table.

* `SameFields`: the same fields up to their order, with values that are alike.
* `SameFields.fieldIs_iff`: fields that are the same say the same.
* `Respects`: nodes that are alike stand for the same.
* `respects_isRecordOf`, `respects_isListOf`, `respects_isTableOf`: from the values of a record, the
  items of a list and the values of a table to the whole.
-/

namespace LintRules
namespace Yaml

variable {β σ : Type} {like : Node → Node → Prop} {likes : String → Node → Node → Prop}

/-! ## Fields -/

/-- The names are the same, one by one, and the values are alike. -/
def AlikeInTurn (likes : String → Node → Node → Prop) :
    List (String × Node) → List (String × Node) → Prop :=
  List.Forall₂ fun field field' => field.1 = field'.1 ∧ likes field.1 field.2 field'.2

/-- The fields are the same up to their order, with values that are alike. -/
def SameFields (likes : String → Node → Node → Prop) (fields fields' : List (String × Node)) :
    Prop :=
  ∃ moved, fields.Perm moved ∧ AlikeInTurn likes moved fields'

/-- Nodes that are alike stand in `R` to the same. -/
def Respects (like : Node → Node → Prop) (R : Node → β → Prop) : Prop :=
  ∀ node node', like node node' → ∀ b, R node b ↔ R node' b

theorem respects_eq (R : Node → β → Prop) : Respects Eq R := by
  rintro node node' rfl b
  exact Iff.rfl

namespace AlikeInTurn

variable {fields fields' : List (String × Node)}

theorem names_eq (h : AlikeInTurn likes fields fields') :
    fields.map Prod.fst = fields'.map Prod.fst := by
  induction h with
  | nil => rfl
  | cons hfield hrest ih => rw [List.map_cons, List.map_cons, hfield.1, ih]

theorem find?_rel (h : AlikeInTurn likes fields fields') (name : String) :
    Option.Rel (likes name) (Entries.find? name fields) (Entries.find? name fields') := by
  induction h with
  | nil => exact .none
  | @cons field field' rest rest' hfield hrest ih =>
    rw [Entries.find?, Entries.find?, ← hfield.1]
    split
    · next hname => exact .some (hname ▸ hfield.2)
    · exact ih

end AlikeInTurn

namespace SameFields

variable {fields fields' : List (String × Node)} (h : SameFields likes fields fields')

include h

theorem names_perm : (fields.map Prod.fst).Perm (fields'.map Prod.fst) := by
  obtain ⟨moved, hperm, hturn⟩ := h
  rw [← hturn.names_eq]
  exact hperm.map Prod.fst

theorem nodup_iff : (fields.map Prod.fst).Nodup ↔ (fields'.map Prod.fst).Nodup :=
  h.names_perm.nodup_iff

theorem known_iff {names : List String} :
    (∀ field ∈ fields, field.1 ∈ names) ↔ ∀ field ∈ fields', field.1 ∈ names := by
  have hnames : (∀ name ∈ fields.map Prod.fst, name ∈ names) ↔
      ∀ name ∈ fields'.map Prod.fst, name ∈ names :=
    forall_congr' fun name => by rw [h.names_perm.mem_iff]
  rwa [List.forall_mem_map, List.forall_mem_map] at hnames

theorem find?_rel (hdistinct : (fields.map Prod.fst).Nodup) (name : String) :
    Option.Rel (likes name) (Entries.find? name fields) (Entries.find? name fields') := by
  obtain ⟨moved, hperm, hturn⟩ := h
  rw [Entries.find?_perm hperm hdistinct]
  exact hturn.find?_rel name

/-- **Fields that are the same say the same**, wherever they stand. -/
theorem fieldIs_iff (hdistinct : (fields.map Prod.fst).Nodup) {name : String} {R : Node → β → Prop}
    (hR : Respects (likes name) R) {start b : β} :
    FieldIs fields name R start b ↔ FieldIs fields' name R start b := by
  have hfind := h.find?_rel hdistinct name
  rw [FieldIs, FieldIs]
  revert hfind
  generalize Entries.find? name fields = value
  generalize Entries.find? name fields' = value'
  intro hfind
  cases hfind with
  | none => exact Iff.rfl
  | some hlike => exact hR _ _ hlike b

end SameFields

/-! ## Nodes -/

namespace Node

/-- The nodes are the same, or they are mappings with the same fields up to their order. -/
def SameRecord (likes : String → Node → Node → Prop) (node node' : Node) : Prop :=
  node = node' ∨ ∃ fields fields', node.HasFields fields ∧ node'.HasFields fields' ∧
    fields ≠ [] ∧ SameFields likes fields fields'

/-- The nodes are the same, or they are lists whose items are alike. -/
def SameList (like : Node → Node → Prop) (node node' : Node) : Prop :=
  node = node' ∨ ∃ items items', node.HasItems items ∧ node'.HasItems items' ∧
    List.Forall₂ like items items'

/-- The nodes are the same, or they are mappings with the same names in the same order, whose values
are alike. -/
def SameTable (like : Node → Node → Prop) (node node' : Node) : Prop :=
  node = node' ∨ ∃ fields fields', node.HasFields fields ∧ node'.HasFields fields' ∧
    fields ≠ [] ∧ AlikeInTurn (fun _ => like) fields fields'

/-- A mapping that has a field is not null. -/
theorem HasFields.not_isNull {node : Node} {fields : List (String × Node)}
    (h : node.HasFields fields) (hne : fields ≠ []) : ¬ node.IsNull := by
  rintro ⟨text, hdirect, -⟩
  obtain ⟨entries, hentries, hfields⟩ := h
  cases hentries with
  | map hmap =>
    rw [hmap] at hdirect
    cases hdirect
  | blank => exact hne (List.forall₂_nil_left_iff.mp hfields)

end Node

theorem respects_isRecordOf {IsWritten : List (String × Node) → σ → Prop}
    (h : ∀ fields fields', SameFields likes fields fields' →
      ∀ result, IsWritten fields result ↔ IsWritten fields' result) :
    Respects (Node.SameRecord likes) (Node.IsRecordOf IsWritten) := by
  rintro node node' (rfl | ⟨fields, fields', hfields, hfields', -, hsame⟩) result
  · exact Iff.rfl
  · constructor
    · rintro ⟨written, hwritten, hresult⟩
      rw [hwritten.unique hfields] at hresult
      exact ⟨fields', hfields', (h fields fields' hsame result).mp hresult⟩
    · rintro ⟨written, hwritten, hresult⟩
      rw [hwritten.unique hfields'] at hresult
      exact ⟨fields, hfields, (h fields fields' hsame result).mpr hresult⟩

/-- Lists whose items are alike stand item by item to the same. -/
theorem forall₂_iff_of_forall₂ {α γ : Type} {like : α → γ → Prop} {R : α → β → Prop}
    {S : γ → β → Prop} (h : ∀ a c, like a c → ∀ b, R a b ↔ S c b) {l : List α} {l' : List γ}
    (hlike : List.Forall₂ like l l') {results : List β} :
    List.Forall₂ R l results ↔ List.Forall₂ S l' results := by
  induction hlike generalizing results with
  | nil => rw [List.forall₂_nil_left_iff, List.forall₂_nil_left_iff]
  | @cons a c rest rest' hac hrest ih =>
    cases results with
    | nil => exact iff_of_false (fun h => nomatch h) (fun h => nomatch h)
    | cons b results => rw [List.forall₂_cons, List.forall₂_cons, h a c hac b, ih]

theorem respects_isListOf {R : Node → β → Prop} (h : Respects like R) :
    Respects (Node.SameList like) (Node.IsListOf R) := by
  rintro node node' (rfl | ⟨items, items', hitems, hitems', hlike⟩) l
  · exact Iff.rfl
  · have hall := @forall₂_iff_of_forall₂ β Node Node like R R h items items' hlike l
    constructor
    · rintro ⟨written, hwritten, hl⟩
      rw [hwritten.unique hitems] at hl
      exact ⟨items', hitems', hall.mp hl⟩
    · rintro ⟨written, hwritten, hl⟩
      rw [hwritten.unique hitems'] at hl
      exact ⟨items, hitems, hall.mpr hl⟩

theorem respects_isTableOf {R : Node → β → Prop} (h : Respects like R) :
    Respects (Node.SameTable like) (Node.IsTableOf R) := by
  rintro node node' (rfl | ⟨fields, fields', hfields, hfields', -, hlike⟩) table
  · exact Iff.rfl
  · have hentries : ∀ written : List (String × β),
        AreEntries R fields written ↔ AreEntries R fields' written := by
      intro written
      refine forall₂_iff_of_forall₂ (fun field field' hfield entry => ?_) hlike
      rw [hfield.1, h _ _ hfield.2]
    constructor
    · rintro ⟨read, written, hread, hwritten, htable⟩
      rw [hread.unique hfields, hentries] at hwritten
      exact ⟨fields', written, hfields', hwritten, htable⟩
    · rintro ⟨read, written, hread, hwritten, htable⟩
      rw [hread.unique hfields', ← hentries] at hwritten
      exact ⟨fields, written, hfields, hwritten, htable⟩

/-- A value that may be left out. -/
theorem respects_isOptional {R : Node → β → Prop} (h : Respects like R)
    (hnull : ∀ node node', like node node' → (node.IsNull ↔ node'.IsNull)) :
    Respects like (Node.IsOptional R) := by
  intro node node' hlike result
  cases result with
  | none => exact hnull node node' hlike
  | some b => exact and_congr (not_congr (hnull node node' hlike)) (h node node' hlike b)

theorem Node.SameTable.isNull_iff {node node' : Node} (h : Node.SameTable like node node') :
    node.IsNull ↔ node'.IsNull := by
  obtain rfl | ⟨fields, fields', hfields, hfields', hne, hlike⟩ := h
  · exact Iff.rfl
  · refine iff_of_false (hfields.not_isNull hne) (hfields'.not_isNull ?_)
    rintro rfl
    exact hne (List.forall₂_nil_right_iff.mp hlike)

end Yaml
end LintRules
