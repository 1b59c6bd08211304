import LintRules.Config.Rc
import LintRules.Proofs.Record

/-!
# Which documents are rc files

An rc file is a lenient record: only its three own fields are read, and only these may not be
repeated.  The value of a rule and the list of plugins are values of any shape.  Where a value
stands in the document tells where an error is, not whether there is one and not what is read.

* `Value.readUnder_moved`: the value of a node does not depend on its place.
* `PluginList.IsWritten`: the two forms of a list of plugins.
* `Rc.IsWritten`: the grammar of an rc file.  By `Rc.read_eq_ok_iff` a document is read as an rc
  file exactly if it holds one, whatever its other fields are.
-/

namespace LintRules

open Yaml

namespace Yaml

/-! ## Places -/

namespace Value

theorem readAtom_moved {how : Reading} {place : Location} (place' : Location)
    {atom : Except CoreTag Atom} {written : String} {v : Value}
    (h : readAtom how place atom written = .ok v) : readAtom how place' atom written = .ok v := by
  cases atom with
  | error core => cases h
  | ok a =>
    cases a with
    | int n =>
      rw [readAtom] at h ⊢
      split at h
      · next hn => rw [if_pos hn]; exact h
      · cases h
    | null => exact h
    | bool b => exact h
    | float x => exact h
    | text s => exact h

theorem underTag_moved {how : Reading} {place : Location} (place' : Location) {tagRead : Bool}
    {tag : Option Tag} {value value' : Bool → Except ShapeError Value}
    (hvalue : ∀ tagRead v, value tagRead = .ok v → value' tagRead = .ok v) {v : Value}
    (h : underTag how place tagRead tag value = .ok v) :
    underTag how place' tagRead tag value' = .ok v := by
  rw [underTag] at h ⊢
  split at h
  · exact hvalue _ _ h
  · split at h
    · next htags =>
      obtain ⟨v', hv', rfl⟩ := map_eq_ok_iff.mp h
      rw [if_pos htags, hvalue _ _ hv']
      rfl
    · cases h

mutual

/-- Where a node stands does not count for its value. -/
theorem readUnder_moved {how : Reading} {room : Nat} {place : Location} (place' : Location)
    {tagRead : Bool} : ∀ (node : Node) {v : Value},
      readUnder how room place tagRead node = .ok v → readUnder how room place' tagRead node = .ok v
  | .alias none, v, h => by
    rw [readUnder] at h
    cases h
  | .alias (some node), v, h => by
    rw [readUnder] at h ⊢
    exact readUnder_moved place' node h
  | .scalar written plain tag, v, h => by
    rw [readUnder] at h ⊢
    exact underTag_moved place' (fun _ _ => readAtom_moved place') h
  | .seq tag items, v, h => by
    cases room with
    | zero =>
      rw [readUnder] at h ⊢
      exact underTag_moved place' (fun _ _ hv => by cases hv) h
    | succ room =>
      rw [readUnder] at h ⊢
      refine underTag_moved place' (fun _ v hv => ?_) h
      obtain ⟨values, hvalues, rfl⟩ := map_eq_ok_iff.mp hv
      exact map_eq_ok_iff.mpr ⟨values, readEach_moved place' items hvalues, rfl⟩
  | .map tag entries, v, h => by
    cases room with
    | zero =>
      rw [readUnder] at h ⊢
      exact underTag_moved place' (fun _ _ hv => by cases hv) h
    | succ room =>
      rw [readUnder] at h ⊢
      refine underTag_moved place' (fun _ v hv => ?_) h
      obtain ⟨values, hvalues, rfl⟩ := map_eq_ok_iff.mp hv
      exact map_eq_ok_iff.mpr ⟨values, readPairs_moved place' entries hvalues, rfl⟩

theorem readEach_moved {how : Reading} {room : Nat} {place : Location} (place' : Location)
    {index : Nat} : ∀ (items : List Node) {values : List Value},
      readEach how room place index items = .ok values →
        readEach how room place' index items = .ok values
  | [], values, h => by
    rw [readEach] at h ⊢
    exact h
  | node :: rest, values, h => by
    rw [readEach] at h ⊢
    obtain ⟨v, hv, h⟩ := bind_eq_ok_iff.mp h
    obtain ⟨vs, hvs, rfl⟩ := bind_pure_eq_ok_iff.mp h
    exact bind_eq_ok_iff.mpr ⟨v, readUnder_moved _ node hv,
      bind_pure_eq_ok_iff.mpr ⟨vs, readEach_moved place' rest hvs, rfl⟩⟩

theorem readPairs_moved {how : Reading} {room : Nat} {place : Location} (place' : Location)
    {tagRead : Bool} {before : List (Value × Value)} :
    ∀ (entries : List (Node × Node)) {values : List (Value × Value)},
      readPairs how room place tagRead before entries = .ok values →
        readPairs how room place' tagRead before entries = .ok values
  | [], values, h => by
    rw [readPairs] at h ⊢
    exact h
  | (key, value) :: rest, values, h => by
    rw [readPairs] at h ⊢
    obtain ⟨k, hk, h⟩ := bind_eq_ok_iff.mp h
    refine bind_eq_ok_iff.mpr ⟨k, readUnder_moved place' key hk, ?_⟩
    split at h
    · cases h
    · obtain ⟨v, hv, h⟩ := bind_eq_ok_iff.mp h
      exact bind_eq_ok_iff.mpr ⟨v, readUnder_moved _ value hv, readPairs_moved place' rest h⟩

end

end Value

theorem Value.read_eq_ok_iff {how : Value.Reading} {room : Nat} {place : Location} {node : Node}
    {v : Value} : Value.read how room place node = .ok v ↔ Value.read how room [] node = .ok v :=
  ⟨Value.readUnder_moved [] node, Value.readUnder_moved place node⟩

/-- A value that may be left out, under whatever tag: what `R` says of it, unless it is absent. -/
def Node.MayHold {α : Type} (R : Node → α → Prop) (node : Node) (result : Option α) : Prop :=
  ∃ direct, node.direct? = some direct ∧
    match result with
    | none => isAbsent direct = .ok true
    | some a => isAbsent direct = .ok false ∧ R direct a

theorem readOptional_eq_ok_iff_mayHold {α : Type} {R : Node → α → Prop}
    {read : Node → Except ShapeError α} (hread : ∀ node a, read node = .ok a ↔ R node a)
    {node : Node} {result : Option α} :
    readOptional read node = .ok result ↔ node.MayHold R result := by
  rw [readOptional, withDirect_eq_ok_iff]
  refine exists_congr fun direct => and_congr_right fun _ => ?_
  rw [bind_eq_ok_iff]
  constructor
  · rintro ⟨absent, habsent, h⟩
    cases absent with
    | true =>
      cases h
      exact habsent
    | false =>
      obtain ⟨a, ha, rfl⟩ := bind_pure_eq_ok_iff.mp h
      exact ⟨habsent, (hread direct a).mp ha⟩
  · intro h
    cases result with
    | none => exact ⟨true, h, rfl⟩
    | some a => exact ⟨false, h.1, bind_pure_eq_ok_iff.mpr ⟨a, (hread direct a).mpr h.2, rfl⟩⟩

theorem rightUnique_mayHold {α : Type} {R : Node → α → Prop} (hR : Relator.RightUnique R) :
    Relator.RightUnique (Node.MayHold R) := by
  rintro node result result' ⟨direct, hdirect, h⟩ ⟨direct', hdirect', h'⟩
  rw [hdirect, Option.some.injEq] at hdirect'
  subst hdirect'
  cases result with
  | none =>
    cases result' with
    | none => rfl
    | some a' => exact nomatch h.symm.trans h'.1
  | some a =>
    cases result' with
    | none => exact nomatch h.1.symm.trans h'
    | some a' => rw [hR h.2 h'.2]

end Yaml

/-! ## Plugins -/

namespace PluginList

theorem mapM_eq_some_iff {α β : Type} {f : α → Option β} {g : β → α}
    (hf : ∀ a b, f a = some b ↔ a = g b) {l : List α} {l' : List β} :
    l.mapM f = some l' ↔ l = l'.map g := by
  induction l generalizing l' with
  | nil =>
    rw [List.mapM_nil, Option.pure_def, Option.some.injEq, eq_comm, eq_comm (a := []),
      List.map_eq_nil_iff]
  | cons a rest ih =>
    simp only [List.mapM_cons, Option.bind_eq_bind, Option.bind_eq_some_iff, Option.pure_def,
      Option.some.injEq, hf, ih]
    constructor
    · rintro ⟨b, rfl, more, rfl, rfl⟩
      rfl
    · intro h
      cases l' with
      | nil => cases h
      | cons b more =>
        rw [List.map_cons, List.cons.injEq] at h
        exact ⟨b, h.1, more, h.2, rfl⟩

theorem text?_eq_some_iff {value : Value} {name : String} :
    text? value = some name ↔ value = .text name := by
  cases value with
  | text s => rw [text?, Option.some.injEq, Value.text.injEq]
  | _ => exact iff_of_false (fun h => nomatch h) (fun h => nomatch h)

theorem switch?_eq_some_iff {entry : Value × Value} {switch : String × Bool} :
    switch? entry = some switch ↔ entry = (.text switch.1, .bool switch.2) := by
  obtain ⟨key, value⟩ := entry
  obtain ⟨name, on⟩ := switch
  constructor
  · intro h
    rw [switch?.eq_def] at h
    split at h
    · next heq =>
      cases h
      exact heq
    · cases h
  · rintro ⟨⟩
    rfl

/-- What a list of plugins may be written as: a list of names, or a mapping from names to truth
values. -/
inductive IsWritten : Value → PluginList → Prop
  | list (names : List String) : IsWritten (.seq (names.map .text)) (.list names)
  | switches (written : List (String × Bool)) :
    IsWritten (.map (written.map fun switch => (.text switch.1, .bool switch.2)))
      (.switches (.ofList written))

theorem ofValue?_eq_some_iff {value : Value} {plugins : PluginList} :
    ofValue? value = some plugins ↔ IsWritten value plugins := by
  constructor
  · intro h
    cases value with
    | seq items =>
      obtain ⟨names, hnames, rfl⟩ := Option.map_eq_some_iff.mp h
      rw [(mapM_eq_some_iff fun _ _ => text?_eq_some_iff).mp hnames]
      exact .list names
    | map entries =>
      obtain ⟨written, hwritten, rfl⟩ := Option.map_eq_some_iff.mp h
      rw [(mapM_eq_some_iff (g := fun switch => (.text switch.1, .bool switch.2))
        fun _ _ => switch?_eq_some_iff).mp hwritten]
      exact .switches written
    | _ => cases h
  · rintro (⟨names⟩ | ⟨written⟩)
    · exact Option.map_eq_some_iff.mpr
        ⟨names, (mapM_eq_some_iff fun _ _ => text?_eq_some_iff).mpr rfl, rfl⟩
    · exact Option.map_eq_some_iff.mpr
        ⟨written, (mapM_eq_some_iff fun _ _ => switch?_eq_some_iff).mpr rfl, rfl⟩

theorem read_eq_ok_iff {place : Location} {node : Node} {plugins : PluginList} :
    read place node = .ok plugins ↔
      ∃ value, Value.read .undecided (Value.depthLimit - 1) [] node = .ok value ∧
        IsWritten value plugins := by
  rw [read, bind_eq_ok_iff]
  refine exists_congr fun value => and_congr Value.read_eq_ok_iff ?_
  rw [← ofValue?_eq_some_iff]
  cases ofValue? value with
  | none => exact iff_of_false (fun h => nomatch h) (fun h => nomatch h)
  | some found =>
    dsimp only
    rw [Except.ok.injEq, Option.some.injEq]

end PluginList

/-! ## The fields -/

namespace Rc

/-- The value of a rule. -/
def IsRuleValue (node : Node) (value : Value) : Prop :=
  Value.read .anyValue (Value.depthLimit - 2) [] node = .ok value

/-- The list of plugins. -/
def ArePlugins (node : Node) (plugins : PluginList) : Prop :=
  ∃ value, Value.read .undecided (Value.depthLimit - 1) [] node = .ok value ∧
    plugins.IsWritten value

/-- The fields are those of an rc file, and maybe others. -/
structure IsWritten (fields : List (String × Node)) (rc : Rc) : Prop where
  distinct :
    ((fields.map Prod.fst).filter (· ∈ ["rules", "plugins", "rulesBaseDirectory"])).Nodup
  rules : FieldIs fields "rules" (Node.IsTableOf IsRuleValue) .empty rc.rules
  plugins : FieldIs fields "plugins" (Node.MayHold ArePlugins) none rc.plugins
  rulesBaseDirectory :
    FieldIs fields "rulesBaseDirectory" (Node.MayHold Node.HasText) none rc.rulesBaseDirectory

theorem rightUnique_isRuleValue : Relator.RightUnique IsRuleValue :=
  fun _ _ _ h h' => Except.ok.inj (h.symm.trans h')

theorem rightUnique_arePlugins : Relator.RightUnique ArePlugins := by
  rintro node plugins plugins' ⟨value, hvalue, h⟩ ⟨value', hvalue', h'⟩
  rw [Except.ok.inj (hvalue'.symm.trans hvalue), ← PluginList.ofValue?_eq_some_iff] at h'
  rw [← PluginList.ofValue?_eq_some_iff] at h
  exact Option.some.inj (h.symm.trans h')

theorem says_rules : shape.Says (fun _ => True) "rules" rules (Node.IsTableOf IsRuleValue) := by
  refine RecordShape.says_of_set id rfl ?_ (fun _ _ => rfl) (fun value _ place table => ?_)
    (fun _ b _ => ⟨b, rfl⟩)
  · simp only [RecordShape.OnlySaidBy, shape, List.forall_mem_cons]
    exact ⟨fun h => absurd rfl h, fun _ => Field.spares_of_set fun _ _ => rfl,
      fun _ => Field.spares_of_set fun _ _ => rfl, nofun⟩
  · exact readTable_eq_ok_iff fun _ _ _ _ _ _ => Value.read_eq_ok_iff

theorem says_plugins : shape.Says (fun _ => True) "plugins" plugins (Node.MayHold ArePlugins) := by
  refine RecordShape.says_of_set id rfl ?_ (fun _ _ => rfl) (fun value _ place plugins => ?_)
    (fun _ b _ => ⟨b, rfl⟩)
  · simp only [RecordShape.OnlySaidBy, shape, List.forall_mem_cons]
    exact ⟨fun _ => Field.spares_of_set fun _ _ => rfl, fun h => absurd rfl h,
      fun _ => Field.spares_of_set fun _ _ => rfl, nofun⟩
  · exact readOptional_eq_ok_iff_mayHold fun _ _ => PluginList.read_eq_ok_iff

theorem says_rulesBaseDirectory :
    shape.Says (fun _ => True) "rulesBaseDirectory" rulesBaseDirectory
      (Node.MayHold Node.HasText) := by
  refine RecordShape.says_of_set id rfl ?_ (fun _ _ => rfl) (fun value _ place dir => ?_)
    (fun _ b _ => ⟨b, rfl⟩)
  · simp only [RecordShape.OnlySaidBy, shape, List.forall_mem_cons]
    exact ⟨fun _ => Field.spares_of_set fun _ _ => rfl,
      fun _ => Field.spares_of_set fun _ _ => rfl, fun h => absurd rfl h, nofun⟩
  · exact readOptional_eq_ok_iff_mayHold fun _ _ => readText_eq_ok_iff

theorem isGrammar : shape.IsGrammar (fun _ => True) {} .ok IsWritten where
  sound fields record rc hadmits hagrees hfinish := by
    rw [← Except.ok.inj hfinish]
    exact ⟨hadmits.distinct, hagrees _ _ _ _ says_rules, hagrees _ _ _ _ says_plugins,
      hagrees _ _ _ _ says_rulesBaseDirectory⟩
  admits fields rc h := (RecordShape.admits_iff_of_lenient rfl).mpr h.distinct
  said fields rc h :=
    List.forall_mem_cons.mpr ⟨⟨_, _, _, _, _, says_rules, h.rules⟩,
      List.forall_mem_cons.mpr ⟨⟨_, _, _, _, _, says_plugins, h.plugins⟩,
        List.forall_mem_cons.mpr
          ⟨⟨_, _, _, _, _, says_rulesBaseDirectory, h.rulesBaseDirectory⟩, nofun⟩⟩⟩
  finishes fields record rc h hagrees := ⟨record, rfl⟩
  unique fields rc rc' h h' := by
    have hrules := h.rules.unique (rightUnique_isTableOf rightUnique_isRuleValue) h'.rules
    have hplugins := h.plugins.unique (rightUnique_mayHold rightUnique_arePlugins) h'.plugins
    have hdir := h.rulesBaseDirectory.unique
      (rightUnique_mayHold fun _ _ _ htext htext' => htext.unique htext') h'.rulesBaseDirectory
    cases rc
    cases rc'
    simp_all

/-- A document is read as an rc file exactly if it holds one. -/
theorem read_eq_ok_iff {document : Document} {rc : Rc} :
    read document = .ok rc ↔ ∃ fields, document.HasFields fields ∧ IsWritten fields rc :=
  isGrammar.readDocument_eq_ok_iff fun _ _ _ _ => trivial

/-- **A text that can be read is a document with the fields of an rc file.** -/
theorem exists_fields_of_ofText {text : String} {rc : Rc} (h : ofText text = .ok rc) :
    ∃ document fields, Document.ofText? shape.isRead text = some document ∧
      document.HasFields fields ∧ IsWritten fields rc := by
  rw [ofText, readDocument] at h
  split at h
  · cases h
  · next document hdocument =>
    split at h
    · next found hfound =>
      rw [Except.ok.inj h] at hfound
      obtain ⟨fields, hfields, hwritten⟩ := read_eq_ok_iff.mp hfound
      exact ⟨document, fields, hdocument, hfields, hwritten⟩
    · cases h

end Rc

end LintRules
