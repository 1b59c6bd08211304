import LintRules.Proofs.Interleaving
import LintRules.Proofs.Table
import LintRules.Yaml.Reading
import Mathlib.Data.List.Forall2

/-!
# What the readers of nodes accept

A reader of nodes gives a result or the first error.  Here is said what a node has to be for a
result, and which result it is, without following the reader.

* `Node.HasText`, `Node.HasItems`, `Node.HasFields`: what a node holds, aliases followed.
* `Node.isUntagged`: whether there are no tags in a node.
* `readText_eq_ok_iff`, `readOptional_eq_ok_iff`, `readList_eq_ok_iff`, `readTable_eq_ok_iff`: the
  readers of texts, of values that may be left out, and of collections.
-/

namespace LintRules
namespace Yaml

variable {α β ρ : Type}

/-! ## Results -/

theorem bind_eq_ok_iff {ε : Type} {x : Except ε α} {next : α → Except ε β} {b : β} :
    x >>= next = .ok b ↔ ∃ a, x = .ok a ∧ next a = .ok b := by
  cases x with
  | ok a =>
    constructor
    · intro h
      exact ⟨a, rfl, h⟩
    · rintro ⟨a', ha, h⟩
      rw [Except.ok.inj ha]
      exact h
  | error e =>
    constructor
    · intro h
      cases h
    · rintro ⟨a, ha, -⟩
      cases ha

theorem bind_pure_eq_ok_iff {ε : Type} {x : Except ε α} {f : α → β} {b : β} :
    (do let a ← x; return f a) = .ok b ↔ ∃ a, x = .ok a ∧ f a = b := by
  rw [bind_eq_ok_iff]
  constructor
  · rintro ⟨a, ha, hb⟩
    exact ⟨a, ha, Except.ok.inj hb⟩
  · rintro ⟨a, ha, rfl⟩
    exact ⟨a, ha, rfl⟩

theorem placing_eq_ok_iff {place : Location} {x : Except ShapeError α} {a : α} :
    placing place x = .ok a ↔ x = .ok a := by
  cases x with
  | ok b => rfl
  | error e => exact iff_of_false (fun h => nomatch h) (fun h => nomatch h)

/-! ## What a node holds -/

namespace Node

/-- The node is a scalar with the given text. -/
def HasText (node : Node) (text : String) : Prop :=
  ∃ plain tag, node.direct? = some (.scalar text plain tag)

/-- Nothing is written at the node. -/
def IsBlank (node : Node) : Prop := ∃ tag, node.direct? = some (.scalar "" true tag)

/-- The node is a scalar without tag that stands for a value that is left out. -/
def IsNull (node : Node) : Prop :=
  ∃ text, node.direct? = some (.scalar text true none) ∧ (text = "" ∨ Atom.isNull text = true)

/-- The node is a list of items; where nothing is written the list is empty. -/
inductive HasItems (node : Node) : List Node → Prop
  | seq {tag : Option Tag} {items : List Node} (h : node.direct? = some (.seq tag items)) :
      HasItems node items
  | blank (h : node.IsBlank) : HasItems node []

/-- The node is a mapping; where nothing is written the mapping is empty. -/
inductive HasEntries (node : Node) : List (Node × Node) → Prop
  | map {tag : Option Tag} {entries : List (Node × Node)}
      (h : node.direct? = some (.map tag entries)) : HasEntries node entries
  | blank (h : node.IsBlank) : HasEntries node []

end Node

/-- The entries of a mapping have texts as keys: they are fields. -/
def AreFields (entries : List (Node × Node)) (fields : List (String × Node)) : Prop :=
  List.Forall₂ (fun entry field => entry.1.HasText field.1 ∧ entry.2 = field.2) entries fields

namespace Node

/-- The node is a mapping with the given fields, in the order in which they are written. -/
def HasFields (node : Node) (fields : List (String × Node)) : Prop :=
  ∃ entries, node.HasEntries entries ∧ AreFields entries fields

variable {node : Node}

/-- An alias is followed to its end. -/
theorem direct?_ne_alias (node : Node) (target : Option Node) :
    node.direct? ≠ some (.alias target) := by
  induction node using direct?.induct with
  | case1 =>
    rw [direct?]
    exact nofun
  | case2 node ih =>
    rw [direct?]
    exact ih
  | case3 node hnone hsome =>
    rw [direct?.eq_3 node hnone hsome]
    intro h
    rcases target with _ | target
    · exact hnone (Option.some.inj h)
    · exact hsome target (Option.some.inj h)

theorem direct?_direct {direct : Node} (h : node.direct? = some direct) :
    direct.direct? = some direct := by
  refine direct?.eq_3 direct ?_ ?_
  · rintro rfl
    exact direct?_ne_alias node none h
  · rintro target rfl
    exact direct?_ne_alias node (some target) h

theorem HasText.unique {text text' : String} (h : node.HasText text) (h' : node.HasText text') :
    text = text' := by
  obtain ⟨plain, tag, h⟩ := h
  obtain ⟨plain', tag', h'⟩ := h'
  rw [h] at h'
  injection h' with h'
  injection h'

theorem HasItems.unique {items items' : List Node} (h : node.HasItems items)
    (h' : node.HasItems items') : items = items' := by
  cases h with
  | seq h =>
    cases h' with
    | seq h' =>
      rw [h] at h'
      injection h' with h'
      injection h'
    | blank h' =>
      obtain ⟨tag, h'⟩ := h'
      rw [h] at h'
      cases h'
  | blank h =>
    cases h' with
    | seq h' =>
      obtain ⟨tag, h⟩ := h
      rw [h] at h'
      cases h'
    | blank h' => rfl

theorem HasEntries.unique {entries entries' : List (Node × Node)} (h : node.HasEntries entries)
    (h' : node.HasEntries entries') : entries = entries' := by
  cases h with
  | map h =>
    cases h' with
    | map h' =>
      rw [h] at h'
      injection h' with h'
      injection h'
    | blank h' =>
      obtain ⟨tag, h'⟩ := h'
      rw [h] at h'
      cases h'
  | blank h =>
    cases h' with
    | map h' =>
      obtain ⟨tag, h⟩ := h
      rw [h] at h'
      cases h'
    | blank h' => rfl

end Node

theorem rightUnique_areFields : Relator.RightUnique AreFields := by
  refine Relator.RightUnique.forall₂ ?_
  rintro entry field field' ⟨htext, hvalue⟩ ⟨htext', hvalue'⟩
  exact Prod.ext (htext.unique htext') (hvalue.symm.trans hvalue')

theorem Node.HasFields.unique {node : Node} {fields fields' : List (String × Node)}
    (h : node.HasFields fields) (h' : node.HasFields fields') : fields = fields' := by
  obtain ⟨entries, hentries, hfields⟩ := h
  obtain ⟨entries', hentries', hfields'⟩ := h'
  rw [hentries'.unique hentries] at hfields'
  exact rightUnique_areFields hfields hfields'

/-! ## Texts -/

theorem withDirect_eq_ok_iff {node : Node} {read : Node → Except ShapeError α} {a : α} :
    withDirect node read = .ok a ↔ ∃ direct, node.direct? = some direct ∧ read direct = .ok a := by
  rw [withDirect]
  cases node.direct? with
  | none => exact iff_of_false (fun h => nomatch h) (fun ⟨_, h, _⟩ => nomatch h)
  | some direct =>
    constructor
    · intro h
      exact ⟨direct, rfl, h⟩
    · rintro ⟨direct', hdirect, h⟩
      rw [Option.some.inj hdirect]
      exact h

/-- A reader that follows aliases may be handed the node that an alias stands for. -/
theorem withDirect_withDirect (node : Node) (read : Node → Except ShapeError α) :
    (withDirect node fun direct => withDirect direct read) = withDirect node read := by
  rw [withDirect, withDirect]
  cases hdirect : node.direct? with
  | none => rfl
  | some direct =>
    dsimp only
    rw [withDirect, Node.direct?_direct hdirect]

/-- A text is read from every scalar. -/
theorem readText_eq_ok_iff {expected : String} {place : Location} {node : Node} {text : String} :
    readText expected place node = .ok text ↔ node.HasText text := by
  rw [readText, withDirect_eq_ok_iff]
  constructor
  · rintro ⟨direct, hdirect, h⟩
    cases direct with
    | scalar text' plain tag =>
      rw [Except.ok.inj h] at hdirect
      exact ⟨plain, tag, hdirect⟩
    | seq tag items => cases h
    | map tag entries => cases h
    | «alias» target => cases h
  · rintro ⟨plain, tag, hdirect⟩
    exact ⟨_, hdirect, rfl⟩

/-! ## Nodes without tags -/

namespace Node

mutual

/-- Whether neither the node nor anything in it has a tag. -/
def isUntagged : Node → Bool
  | .scalar _ _ tag => tag.isNone
  | .seq tag items => tag.isNone && areUntagged items
  | .map tag entries => tag.isNone && entriesAreUntagged entries
  | .alias none => true
  | .alias (some node) => isUntagged node

/-- `isUntagged` on items. -/
def areUntagged : List Node → Bool
  | [] => true
  | node :: rest => isUntagged node && areUntagged rest

/-- `isUntagged` on keys and values. -/
def entriesAreUntagged : List (Node × Node) → Bool
  | [] => true
  | (key, value) :: rest => isUntagged key && (isUntagged value && entriesAreUntagged rest)

end

variable {node : Node}

theorem isUntagged_of_mem {items : List Node} (h : areUntagged items = true)
    {item : Node} (hitem : item ∈ items) : item.isUntagged = true := by
  induction items with
  | nil => exact absurd hitem List.not_mem_nil
  | cons first rest ih =>
    rw [areUntagged, Bool.and_eq_true] at h
    rcases List.mem_cons.mp hitem with rfl | hitem
    · exact h.1
    · exact ih h.2 hitem

theorem isUntagged_of_mem_entries {entries : List (Node × Node)}
    (h : entriesAreUntagged entries = true) {entry : Node × Node} (hentry : entry ∈ entries) :
    entry.2.isUntagged = true := by
  induction entries with
  | nil => exact absurd hentry List.not_mem_nil
  | cons first rest ih =>
    rw [entriesAreUntagged, Bool.and_eq_true, Bool.and_eq_true] at h
    rcases List.mem_cons.mp hentry with rfl | hentry
    · exact h.2.1
    · exact ih h.2.2 hentry

theorem isUntagged_direct {direct : Node} (h : node.isUntagged = true)
    (hdirect : node.direct? = some direct) : direct.isUntagged = true := by
  induction node using direct?.induct with
  | case1 => cases hdirect
  | case2 node ih =>
    rw [isUntagged] at h
    rw [direct?] at hdirect
    exact ih h hdirect
  | case3 node hnone hsome =>
    rw [direct?.eq_3 node hnone hsome] at hdirect
    rwa [← Option.some.inj hdirect]

theorem HasItems.isUntagged {items : List Node} (h : node.HasItems items)
    (huntagged : node.isUntagged = true) {item : Node} (hitem : item ∈ items) :
    item.isUntagged = true := by
  cases h with
  | seq hdirect =>
    have hseq := isUntagged_direct huntagged hdirect
    rw [Node.isUntagged, Bool.and_eq_true] at hseq
    exact isUntagged_of_mem hseq.2 hitem
  | blank => exact absurd hitem List.not_mem_nil

theorem HasEntries.isUntagged {entries : List (Node × Node)} (h : node.HasEntries entries)
    (huntagged : node.isUntagged = true) {entry : Node × Node} (hentry : entry ∈ entries) :
    entry.2.isUntagged = true := by
  cases h with
  | map hdirect =>
    have hmap := isUntagged_direct huntagged hdirect
    rw [Node.isUntagged, Bool.and_eq_true] at hmap
    exact isUntagged_of_mem_entries hmap.2 hentry
  | blank => exact absurd hentry List.not_mem_nil

theorem HasFields.isUntagged {fields : List (String × Node)} (h : node.HasFields fields)
    (huntagged : node.isUntagged = true) {field : String × Node} (hfield : field ∈ fields) :
    field.2.isUntagged = true := by
  obtain ⟨entries, hentries, hfields⟩ := h
  obtain ⟨entry, hentry, -, hvalue⟩ := exists_of_mem_right hfields hfield
  rw [← hvalue]
  exact hentries.isUntagged huntagged hentry

end Node

/-! ## Values that may be left out -/

/-- A value that is left out, or one that stands in `R` to the node. -/
def Node.IsOptional (R : Node → α → Prop) (node : Node) : Option α → Prop
  | none => node.IsNull
  | some a => ¬ node.IsNull ∧ R node a

theorem isAbsent_eq_ok_iff {node direct : Node} (hdirect : node.direct? = some direct)
    (huntagged : direct.isUntagged = true) {absent : Bool} :
    isAbsent direct = .ok absent ↔ (absent = true ↔ node.IsNull) := by
  have hnull : node.IsNull ↔ ∃ text, direct = .scalar text true none ∧
      (text = "" ∨ Atom.isNull text = true) := by
    rw [Node.IsNull, hdirect]
    simp only [Option.some.injEq]
  rw [hnull]
  cases direct with
  | scalar text plain tag =>
    rw [Node.isUntagged, Option.isNone_iff_eq_none] at huntagged
    subst huntagged
    cases plain with
    | true => cases absent <;> simp [isAbsent]
    | false => cases absent <;> simp [isAbsent]
  | seq tag items => cases absent <;> simp [isAbsent]
  | map tag entries => cases absent <;> simp [isAbsent]
  | «alias» target => exact absurd hdirect (Node.direct?_ne_alias node target)

/-- A value that may be left out is read from a node without tag: from one that is not null, what
`read` makes of it. -/
theorem readOptional_eq_ok_iff {R : Node → α → Prop} {read : Node → Except ShapeError α}
    {node : Node} (huntagged : node.isUntagged = true)
    (hread : ∀ a, withDirect node read = .ok a ↔ R node a) {result : Option α} :
    readOptional read node = .ok result ↔ node.IsOptional R result := by
  rw [readOptional, withDirect_eq_ok_iff]
  constructor
  · rintro ⟨direct, hdirect, h⟩
    obtain ⟨absent, habsent, h⟩ := bind_eq_ok_iff.mp h
    rw [isAbsent_eq_ok_iff hdirect (Node.isUntagged_direct huntagged hdirect)] at habsent
    cases absent with
    | true =>
      rw [← Except.ok.inj h]
      exact habsent.mp rfl
    | false =>
      obtain ⟨a, ha, rfl⟩ := bind_pure_eq_ok_iff.mp h
      refine ⟨fun hnull => ?_, (hread a).mp (withDirect_eq_ok_iff.mpr ⟨direct, hdirect, ha⟩)⟩
      exact absurd (habsent.mpr hnull) Bool.false_ne_true
  · intro h
    cases result with
    | none =>
      have hnull : node.IsNull := h
      obtain ⟨text, hdirect, -⟩ := hnull
      refine ⟨_, hdirect, bind_eq_ok_iff.mpr ⟨true, ?_, rfl⟩⟩
      exact (isAbsent_eq_ok_iff hdirect rfl).mpr (iff_of_true rfl h)
    | some a =>
      obtain ⟨hnull, hR⟩ := h
      obtain ⟨direct, hdirect, ha⟩ := withDirect_eq_ok_iff.mp ((hread a).mpr hR)
      refine ⟨direct, hdirect, bind_eq_ok_iff.mpr ⟨false, ?_, bind_pure_eq_ok_iff.mpr ⟨a, ha, rfl⟩⟩⟩
      exact (isAbsent_eq_ok_iff hdirect (Node.isUntagged_direct huntagged hdirect)).mpr
        (iff_of_false Bool.false_ne_true hnull)

/-! ## Lists and tables -/

theorem isBlankNode_iff {node direct : Node} (hdirect : node.direct? = some direct) :
    isBlankNode direct = true ↔ node.IsBlank := by
  rw [Node.IsBlank, hdirect]
  cases direct <;> simp [isBlankNode, and_comm]

theorem readItems_eq_ok_iff {R : Node → α → Prop} {read : Location → Node → Except ShapeError α}
    {place : Location} {index : Nat} {items : List Node} {l : List α}
    (hread : ∀ item ∈ items, ∀ place a, read place item = .ok a ↔ R item a) :
    readItems read place index items = .ok l ↔ List.Forall₂ R items l := by
  induction items generalizing index l with
  | nil => rw [readItems, List.forall₂_nil_left_iff, Except.ok.injEq, eq_comm]
  | cons item rest ih =>
    have hitem := hread item (List.mem_cons_self ..)
    have hrest := fun l => @ih (index + 1) l fun item hitem =>
      hread item (List.mem_cons_of_mem _ hitem)
    rw [readItems]
    constructor
    · intro h
      obtain ⟨a, ha, h⟩ := bind_eq_ok_iff.mp h
      obtain ⟨more, hmore, rfl⟩ := bind_pure_eq_ok_iff.mp h
      exact .cons ((hitem _ a).mp ha) ((hrest more).mp hmore)
    · intro h
      cases h with
      | @cons _ a _ more ha hmore =>
        refine bind_eq_ok_iff.mpr ⟨a, (hitem _ a).mpr ha, ?_⟩
        exact bind_pure_eq_ok_iff.mpr ⟨more, (hrest more).mpr hmore, rfl⟩

/-- A list of values that stand in `R` to its items. -/
def Node.IsListOf (R : Node → α → Prop) (node : Node) (l : List α) : Prop :=
  ∃ items, node.HasItems items ∧ List.Forall₂ R items l

/-- A list is read item by item. -/
theorem readList_eq_ok_iff {R : Node → α → Prop} {read : Location → Node → Except ShapeError α}
    {place : Location} {node : Node} {l : List α}
    (hread : ∀ items, node.HasItems items → ∀ item ∈ items, ∀ place a,
      read place item = .ok a ↔ R item a) :
    readList read place node = .ok l ↔ node.IsListOf R l := by
  rw [readList, withDirect_eq_ok_iff]
  constructor
  · rintro ⟨direct, hdirect, h⟩
    split at h
    · next tag items =>
      have hitems : node.HasItems items := .seq hdirect
      refine ⟨items, hitems, ?_⟩
      exact (readItems_eq_ok_iff (hread items hitems)).mp (placing_eq_ok_iff.mp h)
    · split at h
      · next hblank =>
        rw [← Except.ok.inj h]
        exact ⟨[], .blank ((isBlankNode_iff hdirect).mp hblank), .nil⟩
      · cases h
  · rintro ⟨items, hitems, hall⟩
    cases hitems with
    | @seq tag _ hdirect =>
      refine ⟨_, hdirect, placing_eq_ok_iff.mpr ?_⟩
      exact (readItems_eq_ok_iff (hread items (.seq hdirect))).mpr hall
    | blank hblank =>
      cases hall
      obtain ⟨tag, hdirect⟩ := hblank
      exact ⟨_, hdirect, rfl⟩

/-- The entries of a table as they are written: names with values that stand in `R` to the nodes of
the fields. -/
def AreEntries (R : Node → α → Prop) (fields : List (String × Node))
    (written : List (String × α)) : Prop :=
  List.Forall₂ (fun field entry => field.1 = entry.1 ∧ R field.2 entry.2) fields written

theorem readEntries_eq_ok_iff {R : Node → α → Prop}
    {read : Location → Node → Except ShapeError α} {place : Location}
    {entries : List (Node × Node)} {written : List (String × α)}
    (hread : ∀ entry ∈ entries, ∀ place a, read place entry.2 = .ok a ↔ R entry.2 a) :
    readEntries read place entries = .ok written ↔
      ∃ fields, AreFields entries fields ∧ AreEntries R fields written := by
  induction entries generalizing written with
  | nil =>
    rw [readEntries, Except.ok.injEq]
    constructor
    · rintro rfl
      exact ⟨[], .nil, .nil⟩
    · rintro ⟨fields, hfields, hwritten⟩
      cases hfields
      cases hwritten
      rfl
  | cons entry rest ih =>
    obtain ⟨key, value⟩ := entry
    have hvalue := hread (key, value) (List.mem_cons_self ..)
    have hrest := fun written => @ih written fun entry hentry =>
      hread entry (List.mem_cons_of_mem _ hentry)
    rw [readEntries]
    constructor
    · intro h
      obtain ⟨name, hname, h⟩ := bind_eq_ok_iff.mp h
      obtain ⟨a, ha, h⟩ := bind_eq_ok_iff.mp h
      obtain ⟨more, hmore, rfl⟩ := bind_pure_eq_ok_iff.mp h
      obtain ⟨fields, hfields, hwritten⟩ := (hrest more).mp hmore
      exact ⟨(name, value) :: fields, .cons ⟨readText_eq_ok_iff.mp hname, rfl⟩ hfields,
        .cons ⟨rfl, (hvalue _ a).mp ha⟩ hwritten⟩
    · rintro ⟨fields, hfields, hwritten⟩
      cases hfields with
      | @cons _ field _ fields hfield hfields =>
        cases hwritten with
        | @cons _ entry _ more hentry hmore =>
          obtain ⟨name, node⟩ := field
          obtain ⟨hname, rfl⟩ := hfield
          obtain ⟨name', a⟩ := entry
          obtain ⟨rfl, ha⟩ := hentry
          refine bind_eq_ok_iff.mpr ⟨name, readText_eq_ok_iff.mpr hname, ?_⟩
          refine bind_eq_ok_iff.mpr ⟨a, (hvalue _ a).mpr ha, ?_⟩
          exact bind_pure_eq_ok_iff.mpr ⟨more, (hrest more).mpr ⟨fields, hfields, hmore⟩, rfl⟩

theorem map_eq_ok_iff {ε : Type} {x : Except ε α} {f : α → β} {b : β} :
    x.map f = .ok b ↔ ∃ a, x = .ok a ∧ f a = b := by
  cases x with
  | ok a => simp [Except.map]
  | error e => simp [Except.map]

/-- A table of values that stand in `R` to the nodes of its fields.  Its names are in the order in
which they are first written, and each has the value that is written last. -/
def Node.IsTableOf (R : Node → α → Prop) (node : Node) (table : Table α) : Prop :=
  ∃ fields written, node.HasFields fields ∧ AreEntries R fields written ∧
    IsArrivalOrder (written.map Prod.fst) table.keys ∧
    ∀ name, table.get? name = Entries.last? name written

/-- A table is read entry by entry. -/
theorem readTable_eq_ok_iff {R : Node → α → Prop} {read : Location → Node → Except ShapeError α}
    {place : Location} {node : Node} {table : Table α}
    (hread : ∀ entries, node.HasEntries entries → ∀ entry ∈ entries, ∀ place a,
      read place entry.2 = .ok a ↔ R entry.2 a) :
    readTable read place node = .ok table ↔ node.IsTableOf R table := by
  simp only [Node.IsTableOf, ← Table.ofList_eq_iff]
  rw [readTable, withDirect_eq_ok_iff]
  constructor
  · rintro ⟨direct, hdirect, h⟩
    split at h
    · next tag entries =>
      have hentries : node.HasEntries entries := .map hdirect
      obtain ⟨written, hwritten, htable⟩ := map_eq_ok_iff.mp h
      obtain ⟨fields, hfields, hwritten⟩ :=
        (readEntries_eq_ok_iff (hread entries hentries)).mp (placing_eq_ok_iff.mp hwritten)
      exact ⟨fields, written, ⟨entries, hentries, hfields⟩, hwritten, htable⟩
    · split at h
      · next hblank =>
        have hentries : node.HasEntries [] := .blank ((isBlankNode_iff hdirect).mp hblank)
        rw [← Except.ok.inj h]
        exact ⟨[], [], ⟨[], hentries, .nil⟩, .nil, rfl⟩
      · cases h
  · rintro ⟨fields, written, ⟨entries, hentries, hfields⟩, hwritten, htable⟩
    cases hentries with
    | @map tag _ hdirect =>
      refine ⟨_, hdirect, map_eq_ok_iff.mpr ⟨written, placing_eq_ok_iff.mpr ?_, htable⟩⟩
      exact (readEntries_eq_ok_iff (hread entries (.map hdirect))).mpr ⟨fields, hfields, hwritten⟩
    | blank hblank =>
      cases hfields
      cases hwritten
      obtain ⟨tag, hdirect⟩ := hblank
      refine ⟨_, hdirect, ?_⟩
      rw [← htable]
      rfl

/-! ## What is read is told by the node -/

section RightUnique

variable {R : Node → α → Prop}

theorem rightUnique_isOptional (hR : Relator.RightUnique R) :
    Relator.RightUnique (Node.IsOptional R) := by
  intro node result result' h h'
  cases result with
  | none =>
    cases result' with
    | none => rfl
    | some a' => exact absurd h h'.1
  | some a =>
    cases result' with
    | none => exact absurd h' h.1
    | some a' => rw [hR h.2 h'.2]

theorem rightUnique_isListOf (hR : Relator.RightUnique R) :
    Relator.RightUnique (Node.IsListOf R) := by
  rintro node l l' ⟨items, hitems, hl⟩ ⟨items', hitems', hl'⟩
  rw [hitems'.unique hitems] at hl'
  exact Relator.RightUnique.forall₂ hR hl hl'

theorem rightUnique_isTableOf (hR : Relator.RightUnique R) :
    Relator.RightUnique (Node.IsTableOf R) := by
  rintro node t t' ⟨fields, written, hfields, hwritten, ht⟩ ⟨fields', written', hfields',
    hwritten', ht'⟩
  have hentries : Relator.RightUnique (AreEntries R) := by
    refine Relator.RightUnique.forall₂ ?_
    rintro field entry entry' ⟨hname, hvalue⟩ ⟨hname', hvalue'⟩
    exact Prod.ext (hname.symm.trans hname') (hR hvalue hvalue')
  rw [hfields'.unique hfields] at hwritten'
  rw [hentries hwritten' hwritten] at ht'
  rw [← Table.ofList_eq_iff] at ht ht'
  exact ht.symm.trans ht'

end RightUnique

end Yaml
end LintRules
