import LintRules.Proofs.FieldOrder
import LintRules.Proofs.ManifestGrammar
import LintRules.Proofs.RcApplication
import Mathlib.Logic.Relation

/-!
# Rc files that do the same

An rc file may be written in several ways.  Its fields may stand in any order, it may have any other
fields, and its plugins may be a list of names or a mapping that switches these names on and others
off.  All of these do the same to a config, and if they cannot be applied to their end, they stop at
the same rule with the same error.

* `Rc.NamesPlugins`: a node lists plugins, or switches them on.  `Rc.namesPlugins_list` and
  `Rc.namesPlugins_switches` are such nodes.
* `Rc.Rewrites`: one change of the fields.
* `Rc.SaysSame`: two rc files that differ at most in how they hold their plugins.  One change leads
  from an rc file to such a one (`Rc.exists_isWritten_of_rewrites`), so any number of them does
  (`Rc.exists_isWritten_of_rewritten`).
* `Config.applyRc_rewritten`: documents that can be changed into one another do the same.
-/

namespace LintRules

open Yaml

/-! ## Values of nodes -/

namespace Yaml

namespace Value

variable {how : Reading} {room : Nat} {place : Location}

/-- A node has the value of the node that it stands for. -/
theorem read_direct {node direct : Node} (h : node.direct? = some direct) :
    read how room place node = read how room place direct := by
  induction node using Node.direct?.induct with
  | case1 =>
    rw [Node.direct?] at h
    cases h
  | case2 node ih =>
    rw [Node.direct?] at h
    rw [← ih h, read, readUnder, read]
  | case3 node hnone hsome =>
    rw [Node.direct?.eq_3 node hnone hsome, Option.some.injEq] at h
    rw [h]

theorem exists_direct_of_read {node : Node} {v : Value} (h : read how room place node = .ok v) :
    ∃ direct, node.direct? = some direct := by
  induction node using Node.direct?.induct with
  | case1 =>
    rw [read, readUnder] at h
    cases h
  | case2 node ih =>
    rw [read, readUnder] at h
    rw [Node.direct?]
    exact ih h
  | case3 node hnone hsome => exact ⟨node, Node.direct?.eq_3 node hnone hsome⟩

/-- A scalar has the value of an atom, if no tag is kept. -/
theorem exists_ofAtom_of_read_scalar {text : String} {plain : Bool} {tag : Option Tag} {v : Value}
    (h : read .undecided room place (.scalar text plain tag) = .ok v) : ∃ a, v = ofAtom a := by
  rw [read, readUnder, underTag] at h
  split at h
  · generalize Atom.ofScalar text plain _ = atom at h
    cases atom with
    | error core => cases h
    | ok a =>
      cases a with
      | int n =>
        rw [readAtom] at h
        split at h
        · exact ⟨.int n, (Except.ok.inj h).symm⟩
        · cases h
      | _ => exact ⟨_, (Except.ok.inj h).symm⟩
  · cases h

end Value

/-- A collection is not absent. -/
theorem isAbsent_of_read {room : Nat} {place : Location} {node direct : Node} {v : Value}
    (hdirect : node.direct? = some direct)
    (hread : Value.read .undecided room place node = .ok v) (hv : ∀ a, v ≠ Value.ofAtom a) :
    isAbsent direct = .ok false := by
  rw [Value.read_direct hdirect] at hread
  cases direct with
  | scalar text plain tag =>
    obtain ⟨a, ha⟩ := Value.exists_ofAtom_of_read_scalar hread
    exact absurd ha (hv a)
  | seq tag items => rfl
  | map tag entries => rfl
  | «alias» target => rfl

end Yaml

/-! ## Plugins on and off -/

/-- Those that are on are the names in their order, and those that are off are others. -/
structure AreSwitches (switches : List (String × Bool)) (names : List String) : Prop where
  on : (switches.filter (·.2)).map Prod.fst = names
  off : ∀ name, (name, false) ∈ switches → name ∉ names

namespace PluginList

variable {table : Table Bool} {name : String}

/-- A new switch counts if it is on. -/
theorem enabled_insert_of_notMem (h : name ∉ table.keys) (on : Bool) :
    enabled (.switches (table.insert name on)) =
      enabled (.switches table) ++ if on then [name] else [] := by
  rw [enabled, enabled, Table.entries_insert_of_notMem h, List.filter_append, List.map_append]
  cases on <;> rfl

/-- Switching off what is not on changes nothing. -/
theorem enabled_insert_false (h : table.get? name ≠ some true) :
    enabled (.switches (table.insert name false)) = enabled (.switches table) := by
  by_cases hmem : name ∈ table.keys
  · have hget : table.get? name = some false := by
      obtain ⟨on, hon⟩ := Option.isSome_iff_exists.mp (Table.contains_iff.mpr hmem)
      cases on with
      | false => exact hon
      | true => exact absurd hon h
    rw [Table.insert_eq_self hget]
  · rw [enabled_insert_of_notMem hmem]
    simp

/-- **Switches stand for the names that are on.** -/
theorem enabled_switches {switches : List (String × Bool)} {names : List String}
    (hdistinct : names.Nodup) (h : AreSwitches switches names) :
    enabled (.switches (.ofList switches)) = names := by
  -- the table is filled from the front, so that the last switch meets all the others
  induction switches using List.reverseRecOn generalizing names with
  | nil =>
    rw [← h.on]
    rfl
  | append_singleton switches switch ih =>
    obtain ⟨name, on⟩ := switch
    obtain ⟨hon, hoff⟩ := h
    have hstep : Table.ofList (switches ++ [(name, on)]) = (Table.ofList switches).insert name on :=
      Table.extend_append _ _ _
    have hswitch : ∀ b, (Table.ofList switches).get? name = some b → (name, b) ∈ switches := by
      intro b hb
      rw [Table.get?_ofList] at hb
      exact List.mem_reverse.mp (Entries.mem_of_find?_eq_some hb)
    have hmem : (name, true) ∈ switches → name ∈ (switches.filter (·.2)).map Prod.fst :=
      fun htrue => List.mem_map_of_mem (List.mem_filter.mpr ⟨htrue, rfl⟩)
    rw [List.filter_append, List.map_append] at hon
    subst hon
    have hbefore : AreSwitches switches ((switches.filter (·.2)).map Prod.fst) :=
      ⟨rfl, fun other hother hin =>
        hoff other (List.mem_append_left _ hother) (List.mem_append_left _ hin)⟩
    have hold := ih (hdistinct.sublist (List.sublist_append_left ..)) hbefore
    rw [hstep]
    cases on with
    | true =>
      have hnew : name ∉ (Table.ofList switches).keys := by
        intro hkey
        obtain ⟨b, hb⟩ := Option.isSome_iff_exists.mp (Table.contains_iff.mpr hkey)
        cases b with
        | true =>
          rw [List.nodup_append] at hdistinct
          exact hdistinct.2.2 name (hmem (hswitch true hb)) name (by simp) rfl
        | false => exact hoff name (List.mem_append_left _ (hswitch false hb)) (by simp)
      rw [enabled_insert_of_notMem hnew, hold]
      rfl
    | false =>
      have hnot : (Table.ofList switches).get? name ≠ some true := fun htrue =>
        hoff name (by simp) (List.mem_append_left _ (hmem (hswitch true htrue)))
      rw [enabled_insert_false hnot, hold]
      simp

end PluginList

namespace Rc

/-- The node is a list of the names, or a mapping that switches them on, and others off. -/
inductive NamesPlugins (node : Node) (names : List String) : Prop
  | list (h : Value.read .undecided (Value.depthLimit - 1) [] node =
      .ok (.seq (names.map .text)))
  | switches {switches : List (String × Bool)}
      (h : Value.read .undecided (Value.depthLimit - 1) [] node =
        .ok (.map (switches.map fun switch => (.text switch.1, .bool switch.2))))
      (hswitches : AreSwitches switches names)

/-- The nodes are the same, or they name the same plugins, none of them twice. -/
def SamePlugins (node node' : Node) : Prop :=
  node = node' ∨ ∃ names : List String, names.Nodup ∧ NamesPlugins node names ∧
    NamesPlugins node' names

/-- A collection is not absent, so that its plugins are read. -/
theorem mayHold_of_read {node : Node} {value : Value} {plugins : PluginList}
    (hread : Value.read .undecided (Value.depthLimit - 1) [] node = .ok value)
    (hvalue : ∀ a, value ≠ Value.ofAtom a) (hwritten : plugins.IsWritten value) :
    node.MayHold ArePlugins (some plugins) := by
  obtain ⟨direct, hdirect⟩ := Value.exists_direct_of_read hread
  have habsent := isAbsent_of_read hdirect hread hvalue
  rw [Value.read_direct hdirect] at hread
  exact ⟨direct, hdirect, habsent, value, hread, hwritten⟩

/-- A node that names plugins is read, and these plugins are on. -/
theorem NamesPlugins.exists_mayHold {node : Node} {names : List String} (hdistinct : names.Nodup)
    (h : NamesPlugins node names) :
    ∃ plugins, node.MayHold ArePlugins plugins ∧ PluginList.names plugins = names := by
  cases h with
  | list h =>
    refine ⟨some (.list names), mayHold_of_read h ?_ (.list names), rfl⟩
    rintro (_ | _ | _ | _ | _) <;> exact nofun
  | @switches switches h hswitches =>
    refine ⟨some (.switches (.ofList switches)), mayHold_of_read h ?_ (.switches switches), ?_⟩
    · rintro (_ | _ | _ | _ | _) <;> exact nofun
    · rw [PluginList.names_eq]
      exact PluginList.enabled_switches hdistinct hswitches

theorem SamePlugins.exists_mayHold {node node' : Node} (h : SamePlugins node node')
    {plugins : Option PluginList} (hplugins : node.MayHold ArePlugins plugins) :
    ∃ plugins', node'.MayHold ArePlugins plugins' ∧
      PluginList.names plugins' = PluginList.names plugins := by
  obtain rfl | ⟨names, hdistinct, hnames, hnames'⟩ := h
  · exact ⟨plugins, hplugins, rfl⟩
  · obtain ⟨found, hfound, hon⟩ := hnames.exists_mayHold hdistinct
    obtain rfl := rightUnique_mayHold rightUnique_arePlugins hplugins hfound
    obtain ⟨plugins', hplugins', hon'⟩ := hnames'.exists_mayHold hdistinct
    exact ⟨plugins', hplugins', hon'.trans hon.symm⟩

/-- A scalar between quotes. -/
def quoted (text : String) : Node := .scalar text false none

/-- A truth value, written plainly. -/
def truth (b : Bool) : Node := Manifest.word (if b then "true" else "false")

theorem readEach_quoted {how : Value.Reading} {room : Nat} {place : Location} (index : Nat)
    (names : List String) :
    Value.readEach how room place index (names.map quoted) = .ok (names.map .text) := by
  induction names generalizing index with
  | nil => rfl
  | cons name rest ih =>
    rw [List.map_cons, Value.readEach, ih]
    rfl

theorem readPairs_quoted {room : Nat} {place : Location} (before : List (Value × Value))
    (switches : List (String × Bool)) :
    Value.readPairs .undecided room place false before
        (switches.map fun switch => (quoted switch.1, truth switch.2)) =
      .ok (before ++ switches.map fun switch => (.text switch.1, .bool switch.2)) := by
  induction switches generalizing before with
  | nil => rw [List.map_nil, Value.readPairs, List.map_nil, List.append_nil]
  | cons switch rest ih =>
    obtain ⟨name, on⟩ := switch
    have hkey : Value.readUnder .undecided room place false (quoted name) = .ok (.text name) := rfl
    have hvalue : ∀ place, Value.readUnder .undecided room place false (truth on) =
        .ok (.bool on) := by
      intro place
      cases on <;> rfl
    rw [List.map_cons, Value.readPairs]
    refine bind_eq_ok_iff.mpr ⟨.text name, hkey, ?_⟩
    -- equal keys are let through, so that those before do not count
    refine bind_eq_ok_iff.mpr ⟨.bool on, hvalue _, ?_⟩
    rw [ih, List.map_cons, List.append_assoc, List.singleton_append]

/-- Any names can be written as a list. -/
theorem namesPlugins_list (names : List String) :
    NamesPlugins (.seq none (names.map quoted)) names := by
  have hroom : Value.depthLimit - 1 = 126 + 1 := rfl
  refine .list ?_
  rw [hroom, Value.read, Value.readUnder]
  exact congrArg (Except.map Value.seq) (readEach_quoted 0 names)

/-- Any names can be written as a mapping, with other names among them. -/
theorem namesPlugins_switches {switches : List (String × Bool)} {names : List String}
    (h : AreSwitches switches names) :
    NamesPlugins (.map none (switches.map fun switch => (quoted switch.1, truth switch.2)))
      names := by
  have hroom : Value.depthLimit - 1 = 126 + 1 := rfl
  refine .switches ?_ h
  rw [hroom, Value.read, Value.readUnder]
  exact congrArg (Except.map Value.map) (readPairs_quoted [] switches)

/-! ## Fields changed -/

/-- The names of the fields that an rc file is read from. -/
def knownNames : List String := ["rules", "plugins", "rulesBaseDirectory"]

/-- One change of the fields: they change places, a field of another name comes or goes, or the
plugins are written in another way. -/
inductive Rewrites : List (String × Node) → List (String × Node) → Prop
  | permute {fields fields' : List (String × Node)} (h : fields.Perm fields') :
      Rewrites fields fields'
  | insert {before after : List (String × Node)} {field : String × Node}
      (hname : field.1 ∉ knownNames) : Rewrites (before ++ after) (before ++ field :: after)
  | remove {before after : List (String × Node)} {field : String × Node}
      (hname : field.1 ∉ knownNames) : Rewrites (before ++ field :: after) (before ++ after)
  | plugins {before after : List (String × Node)} {node node' : Node} (h : SamePlugins node node') :
      Rewrites (before ++ ("plugins", node) :: after) (before ++ ("plugins", node') :: after)

/-- The fields that are read. -/
def knownFields (fields : List (String × Node)) : List (String × Node) :=
  fields.filter (·.1 ∈ knownNames)

/-- Which values of an rc file are alike. -/
def alike (name : String) : Node → Node → Prop :=
  if name = "plugins" then SamePlugins else Eq

theorem alike_refl (name : String) (node : Node) : alike name node node := by
  rw [alike]
  split
  · exact .inl rfl
  · rfl

theorem alikeInTurn_refl (fields : List (String × Node)) : AlikeInTurn alike fields fields :=
  List.forall₂_same.mpr fun field _ => ⟨rfl, alike_refl field.1 field.2⟩

/-- **A change leaves the fields that are read the same**, up to their order and to values that are
alike. -/
theorem sameFields_of_rewrites {fields fields' : List (String × Node)}
    (h : Rewrites fields fields') :
    SameFields alike (knownFields fields) (knownFields fields') := by
  cases h with
  | permute h => exact ⟨_, h.filter _, alikeInTurn_refl _⟩
  | insert hname =>
    rw [knownFields, knownFields, List.filter_append, List.filter_append,
      List.filter_cons_of_neg (by simpa using hname)]
    exact ⟨_, .refl _, alikeInTurn_refl _⟩
  | remove hname =>
    rw [knownFields, knownFields, List.filter_append, List.filter_append,
      List.filter_cons_of_neg (by simpa using hname)]
    exact ⟨_, .refl _, alikeInTurn_refl _⟩
  | @plugins before after node node' h =>
    have hknown : decide ("plugins" ∈ knownNames) = true := rfl
    rw [knownFields, knownFields, List.filter_append, List.filter_append,
      List.filter_cons_of_pos (by exact hknown), List.filter_cons_of_pos (by exact hknown)]
    refine ⟨_, .refl _, List.rel_append (alikeInTurn_refl _) (.cons ⟨rfl, ?_⟩ (alikeInTurn_refl _))⟩
    exact h

/-- The rc files say the same; only the plugins may be held in another way. -/
structure SaysSame (rc rc' : Rc) : Prop where
  rules : rc'.rules = rc.rules
  plugins : PluginList.names rc'.plugins = PluginList.names rc.plugins
  rulesBaseDirectory : rc'.rulesBaseDirectory = rc.rulesBaseDirectory

theorem SaysSame.trans {rc rc' rc'' : Rc} (h : SaysSame rc rc') (h' : SaysSame rc' rc'') :
    SaysSame rc rc'' :=
  ⟨h'.rules.trans h.rules, h'.plugins.trans h.plugins,
    h'.rulesBaseDirectory.trans h.rulesBaseDirectory⟩

theorem fieldIs_knownFields {β : Type} {name : String} (hname : name ∈ knownNames)
    {R : Node → β → Prop} {start b : β} (fields : List (String × Node)) :
    FieldIs (knownFields fields) name R start b ↔ FieldIs fields name R start b := by
  have hfind : Entries.find? name (knownFields fields) = Entries.find? name fields :=
    Entries.find?_filter (fun other => decide (other ∈ knownNames)) (decide_eq_true hname) fields
  rw [FieldIs, FieldIs, hfind]

theorem map_fst_knownFields (fields : List (String × Node)) :
    (knownFields fields).map Prod.fst = (fields.map Prod.fst).filter (· ∈ knownNames) := by
  rw [knownFields, List.filter_map]
  rfl

/-- **One change of an rc file** leads to an rc file that says the same. -/
theorem exists_isWritten_of_rewrites {fields fields' : List (String × Node)} {rc : Rc}
    (h : Rewrites fields fields') (hrc : IsWritten fields rc) :
    ∃ rc', IsWritten fields' rc' ∧ SaysSame rc rc' := by
  have hsame := sameFields_of_rewrites h
  have hdistinct : ((knownFields fields).map Prod.fst).Nodup := by
    rw [map_fst_knownFields]
    exact hrc.distinct
  have hrules : Respects (alike "rules") (Node.IsTableOf IsRuleValue) := by
    rw [alike, if_neg (by decide)]
    exact respects_eq _
  have hdirectory : Respects (alike "rulesBaseDirectory") (Node.MayHold Node.HasText) := by
    rw [alike, if_neg (by decide)]
    exact respects_eq _
  obtain ⟨plugins', hplugins', hon⟩ : ∃ plugins',
      FieldIs (knownFields fields') "plugins" (Node.MayHold ArePlugins) none plugins' ∧
        PluginList.names plugins' = PluginList.names rc.plugins := by
    have hfind := hsame.find?_rel hdistinct "plugins"
    have hplugins := (fieldIs_knownFields (by decide) fields).mpr hrc.plugins
    rw [FieldIs] at hplugins
    simp only [FieldIs]
    revert hfind hplugins
    generalize Entries.find? "plugins" (knownFields fields) = value
    generalize Entries.find? "plugins" (knownFields fields') = value'
    intro hfind hplugins
    cases hfind with
    | none => exact ⟨none, rfl, by rw [hplugins]⟩
    | some hlike =>
      rw [alike, if_pos rfl] at hlike
      exact hlike.exists_mayHold hplugins
  refine ⟨{ rc with plugins := plugins' }, ⟨?_, ?_, ?_, ?_⟩, rfl, hon, rfl⟩
  · have hdistinct' := hsame.nodup_iff.mp hdistinct
    rwa [map_fst_knownFields] at hdistinct'
  · rw [← fieldIs_knownFields (by decide), ← hsame.fieldIs_iff hdistinct hrules,
      fieldIs_knownFields (by decide)]
    exact hrc.rules
  · exact (fieldIs_knownFields (by decide) fields').mp hplugins'
  · rw [← fieldIs_knownFields (by decide), ← hsame.fieldIs_iff hdistinct hdirectory,
      fieldIs_knownFields (by decide)]
    exact hrc.rulesBaseDirectory

/-- **Any number of changes of an rc file** lead to an rc file that says the same. -/
theorem exists_isWritten_of_rewritten {fields fields' : List (String × Node)} {rc : Rc}
    (h : Relation.ReflTransGen Rewrites fields fields') (hrc : IsWritten fields rc) :
    ∃ rc', IsWritten fields' rc' ∧ SaysSame rc rc' := by
  induction h with
  | refl => exact ⟨rc, hrc, rfl, rfl, rfl⟩
  | tail _ hstep ih =>
    obtain ⟨mid, hmid, hsame⟩ := ih
    obtain ⟨rc', hrc', hsame'⟩ := exists_isWritten_of_rewrites hstep hmid
    exact ⟨rc', hrc', hsame.trans hsame'⟩

end Rc

namespace Config

/-- Rc files that say the same do the same, also if they cannot be applied to their end. -/
theorem applyRc_eq_of_saysSame {rc rc' : Rc} (h : rc.SaysSame rc') (config : Config) (path : Path) :
    config.applyRc rc path = config.applyRc rc' path := by
  rw [applyRc, applyRc, h.rules, ← PluginList.names_eq, ← PluginList.names_eq, h.plugins,
    h.rulesBaseDirectory]

theorem applyText_of_read {text : String} {document : Document} {rc : Rc}
    (htext : Document.ofText? Rc.shape.isRead text = some document)
    (hrc : Rc.read document = .ok rc) (config : Config) (path : Path) :
    config.applyText text path = config.applyRc rc path := by
  rw [applyText, Rc.ofText, readDocument, htext]
  dsimp only
  rw [hrc]

/-- **Rc files that can be changed into one another do the same to every config.**  If a document is
accepted then so is any other one whose fields can be had from its fields by changing places, by
adding and dropping fields that are not read, and by writing plugins in another way; the config that
is reached is the same, and so is the error if there is one. -/
theorem applyRc_rewritten {document document' : Document} {fields fields' : List (String × Node)}
    {rc : Rc} (hfields : document.HasFields fields) (hfields' : document'.HasFields fields')
    (hrewritten : Relation.ReflTransGen Rc.Rewrites fields fields')
    (hrc : Rc.read document = .ok rc) :
    ∃ rc', Rc.read document' = .ok rc' ∧
      (∀ (config : Config) path, config.applyRc rc path = config.applyRc rc' path) ∧
      ∀ text text', Document.ofText? Rc.shape.isRead text = some document →
        Document.ofText? Rc.shape.isRead text' = some document' →
          ∀ (config : Config) path, config.applyText text path = config.applyText text' path := by
  obtain ⟨written, hwritten, his⟩ := Rc.read_eq_ok_iff.mp hrc
  obtain rfl := hwritten.unique hfields
  obtain ⟨rc', his', hsame⟩ := Rc.exists_isWritten_of_rewritten hrewritten his
  have hrc' : Rc.read document' = .ok rc' := Rc.read_eq_ok_iff.mpr ⟨fields', hfields', his'⟩
  refine ⟨rc', hrc', applyRc_eq_of_saysSame hsame, fun text text' htext htext' config path => ?_⟩
  rw [applyText_of_read htext hrc, applyText_of_read htext' hrc',
    applyRc_eq_of_saysSame hsame]

/-- The plugins as a list, and as a mapping with another one that is off. -/
def listedPlugins : Node := .seq none (["html", "md"].map Rc.quoted)

def switchedPlugins : Node :=
  .map none ([("html", true), ("tex", false), ("md", true)].map fun switch =>
    (Rc.quoted switch.1, Rc.truth switch.2))

/-- The rule that both rc files switch on. -/
def oneRule : Node := Manifest.record [("todo", Manifest.word "true")]

/-- Fields with the list. -/
def listedFields : List (String × Node) := [("rules", oneRule), ("plugins", listedPlugins)]

/-- Fields with the mapping; they stand in another order, and the file is given a name twice. -/
def switchedFields : List (String × Node) :=
  [("name", Manifest.word "a"), ("plugins", switchedPlugins), ("name", Manifest.word "b"),
    ("rules", oneRule)]

theorem rewritten_switchedFields :
    Relation.ReflTransGen Rc.Rewrites listedFields switchedFields := by
  have hswitches : AreSwitches [("html", true), ("tex", false), ("md", true)] ["html", "md"] := by
    refine ⟨rfl, fun name hname => ?_⟩
    obtain rfl : name = "tex" := by simpa using hname
    decide
  have hsame : Rc.SamePlugins listedPlugins switchedPlugins :=
    .inr ⟨["html", "md"], by decide, Rc.namesPlugins_list _, Rc.namesPlugins_switches hswitches⟩
  have hname : "name" ∉ Rc.knownNames := by decide
  refine .head (.permute (.swap ..)) (.head (@Rc.Rewrites.plugins [] _ _ _ hsame) ?_)
  refine .head (@Rc.Rewrites.insert [] _ ("name", Manifest.word "a") hname) (.single ?_)
  exact @Rc.Rewrites.insert [_, _] [_] ("name", Manifest.word "b") hname

/-- Both switch on the same rule and the same plugins. -/
theorem switchedFields_applyRc :
    ∃ rc rc', Rc.read (.root (Manifest.record listedFields)) = .ok rc ∧
      Rc.read (.root (Manifest.record switchedFields)) = .ok rc' ∧
      begun.applyRc rc "p" = begun.applyRc rc' "p" ∧
      ((begun.applyRc rc' "p").1.rules, (begun.applyRc rc' "p").1.plugins) =
        (["own", "todo"], ["html", "md"]) := by
  have hread : Rc.read (.root (Manifest.record listedFields)) =
      .ok { rules := .ofList [("todo", .bool true)], plugins := some (.list ["html", "md"]) } := rfl
  have hfields : ∀ fields, (Document.root (Manifest.record fields)).HasFields fields :=
    fun fields => Manifest.hasFields_record fields
  obtain ⟨rc', hrc', happly, -⟩ :=
    applyRc_rewritten (hfields _) (hfields _) rewritten_switchedFields hread
  refine ⟨_, rc', hread, hrc', happly begun "p", ?_⟩
  rw [← happly begun "p"]
  rfl

end Config
end LintRules
