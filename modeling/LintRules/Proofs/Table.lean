import LintRules.Table
import Mathlib.Data.List.Induction
import Mathlib.Data.List.Nodup

/-!
# Entering lists into tables

`Table.extend` enters a list of entries one after another.  What a table answers afterwards is read
off the list: the value of a name is the one that the list gives it last, and the place of a name
is that of its first arrival.

* `Table.get?_extend`, `Table.mem_keys_extend`: the values and the names after a list of entries.
* `Table.keys_extend`: distinct names leave those that are there where they stand.
* `Table.isArrivalOrder_keys_ofList`: the names of a table stand in the order in which they first
  occur.
* `Table.ofList_eq_iff`: the table of a list is told by the places and the values of its names.
* `Table.ext_of_get?`: a table is its list of names and the value of each name.
* `Table.extend_extend_self`: entering a list a second time changes nothing, neither a value nor a
  place.
* `Table.extend_assoc`: tables entered one after another.
-/

namespace LintRules

namespace Entries

variable {α : Type}

theorem find?_append (key : String) (l₁ l₂ : List (String × α)) :
    find? key (l₁ ++ l₂) = (find? key l₁).or (find? key l₂) := by
  induction l₁ with
  | nil => rw [List.nil_append, find?, Option.none_or]
  | cons e rest ih =>
    rw [List.cons_append, find?, find?, ih]
    split <;> rfl

/-- Names that are left out do not count for one that is kept. -/
theorem find?_filter {key : String} (kept : String → Bool) (hkept : kept key = true)
    (l : List (String × α)) : find? key (l.filter fun e => kept e.1) = find? key l := by
  induction l with
  | nil => rfl
  | cons e rest ih =>
    by_cases he : kept e.1 = true
    · rw [List.filter_cons_of_pos (by exact he), find?, find?, ih]
    · have hne : e.1 ≠ key := by
        rintro rfl
        exact he hkept
      rw [List.filter_cons_of_neg (by exact he), find?, if_neg hne, ih]

theorem put_of_notMem {key : String} {l : List (String × α)} (h : key ∉ l.map Prod.fst)
    (value : α) : put key value l = l ++ [(key, value)] := by
  induction l with
  | nil => rfl
  | cons e rest ih =>
    rw [List.map_cons, List.mem_cons, not_or] at h
    rw [put, if_neg (Ne.symm h.1), ih h.2, List.cons_append]

/-- Entering a value that is made of the one that is there changes this value and no other. -/
theorem put_of_find?_eq_some {key : String} {value : α} {l : List (String × α)}
    (hdistinct : (l.map Prod.fst).Nodup) (h : find? key l = some value) (f : α → α) :
    put key (f value) l = l.map fun e => (e.1, if e.1 = key then f e.2 else e.2) := by
  induction l with
  | nil => cases h
  | cons e rest ih =>
    rw [List.map_cons, List.nodup_cons] at hdistinct
    rw [find?] at h
    rw [put, List.map_cons]
    by_cases he : e.1 = key
    · rw [if_pos he] at h
      rw [if_pos he, if_pos he, he, Option.some.inj h]
      -- the name does not occur in the rest
      have hrest : ∀ other ∈ rest, (other.1, if other.1 = key then f other.2 else other.2) =
          other := by
        intro other hother
        have hne : other.1 ≠ key := fun heq =>
          hdistinct.1 (List.mem_map.mpr ⟨other, hother, heq.trans he.symm⟩)
        rw [if_neg hne]
      rw [List.map_congr_left hrest, List.map_id']
    · rw [if_neg he] at h
      rw [if_neg he, if_neg he, ih hdistinct.2 h]

theorem mem_of_find?_eq_some {key : String} {value : α} {l : List (String × α)}
    (h : find? key l = some value) : (key, value) ∈ l := by
  induction l with
  | nil => cases h
  | cons e rest ih =>
    rw [find?] at h
    split at h
    · next he =>
      rw [← he, ← Option.some.inj h]
      exact List.mem_cons_self ..
    · exact List.mem_cons_of_mem _ (ih h)

/-- Among distinct names the order does not count. -/
theorem find?_perm {l l' : List (String × α)} (h : l.Perm l') (hdistinct : (l.map Prod.fst).Nodup)
    (key : String) : find? key l = find? key l' := by
  refine Option.ext fun value => ?_
  rw [find?_eq_some_iff hdistinct, h.mem_iff,
    find?_eq_some_iff ((h.map Prod.fst).nodup_iff.mp hdistinct)]

/-- The value that a list gives a name last. -/
def last? (key : String) (l : List (String × α)) : Option α := find? key l.reverse

@[simp] theorem last?_nil (key : String) : last? key ([] : List (String × α)) = none := rfl

/-- What the later list says counts. -/
theorem last?_append (key : String) (l₁ l₂ : List (String × α)) :
    last? key (l₁ ++ l₂) = (last? key l₂).or (last? key l₁) := by
  rw [last?, List.reverse_append, find?_append, last?, last?]

theorem last?_cons (key : String) (e : String × α) (l : List (String × α)) :
    last? key (e :: l) = (last? key l).or (if e.1 = key then some e.2 else none) := by
  rw [← List.singleton_append, last?_append]
  simp only [last?, List.reverse_singleton, find?]

theorem last?_isSome_iff {key : String} {l : List (String × α)} :
    (last? key l).isSome ↔ key ∈ l.map Prod.fst := by
  rw [last?, find?_isSome_iff, List.map_reverse, List.mem_reverse]

theorem last?_eq_some_iff {l : List (String × α)} (hdistinct : (l.map Prod.fst).Nodup)
    {key : String} {value : α} : last? key l = some value ↔ (key, value) ∈ l := by
  rw [last?, ← find?_perm l.reverse_perm.symm hdistinct, find?_eq_some_iff hdistinct]

/-- The lists that have the same names in the same places and give each name the same value are the
same. -/
theorem eq_of_find?_eq {l₁ l₂ : List (String × α)} (hnames : l₁.map Prod.fst = l₂.map Prod.fst)
    (hnodup : (l₁.map Prod.fst).Nodup) (hfind : ∀ key, find? key l₁ = find? key l₂) :
    l₁ = l₂ := by
  induction l₁ generalizing l₂ with
  | nil => exact (List.map_eq_nil_iff.mp hnames.symm).symm
  | cons e₁ rest₁ ih =>
    rcases l₂ with _ | ⟨e₂, rest₂⟩
    · exact absurd hnames (by simp)
    · rw [List.map_cons, List.map_cons, List.cons.injEq] at hnames
      obtain ⟨hname, hrest⟩ := hnames
      rw [List.map_cons, List.nodup_cons] at hnodup
      have hvalue : e₁.2 = e₂.2 := by
        have h := hfind e₁.1
        rw [find?, find?, if_pos rfl, if_pos hname.symm] at h
        exact Option.some.inj h
      have hlater : ∀ key, find? key rest₁ = find? key rest₂ := by
        intro key
        by_cases hkey : e₁.1 = key
        · -- the name of the first entry occurs in neither rest
          have h₁ : key ∉ rest₁.map Prod.fst := hkey ▸ hnodup.1
          have h₂ : key ∉ rest₂.map Prod.fst := hrest ▸ h₁
          rw [← find?_isSome_iff, Option.not_isSome_iff_eq_none] at h₁ h₂
          rw [h₁, h₂]
        · have h := hfind key
          rwa [find?, find?, if_neg hkey, if_neg (hname ▸ hkey)] at h
      rw [Prod.ext hname hvalue, ih hrest hnodup.2 hlater]

end Entries

/-! ## The order of arrival -/

/-- `distinct` are the names of `names` without repetition, in the order in which they first
occur. -/
structure IsArrivalOrder (names distinct : List String) : Prop where
  nodup : distinct.Nodup
  mem_iff : ∀ name, name ∈ distinct ↔ name ∈ names
  ordered : distinct.Pairwise fun a b => names.idxOf a < names.idxOf b

namespace IsArrivalOrder

variable {names distinct : List String}

theorem nil : IsArrivalOrder [] [] := ⟨List.nodup_nil, fun _ => Iff.rfl, List.Pairwise.nil⟩

/-- Names that arrive later leave the places of those that are there. -/
theorem ordered_append (h : IsArrivalOrder names distinct) (more : List String) :
    distinct.Pairwise fun a b => (names ++ more).idxOf a < (names ++ more).idxOf b := by
  refine h.ordered.imp_of_mem fun ha hb hab => ?_
  rwa [List.idxOf_append_of_mem ((h.mem_iff _).mp ha),
    List.idxOf_append_of_mem ((h.mem_iff _).mp hb)]

/-- A name that arrives again does not move. -/
theorem concat_of_mem (h : IsArrivalOrder names distinct) {name : String} (hmem : name ∈ distinct) :
    IsArrivalOrder (names ++ [name]) distinct := by
  refine ⟨h.nodup, fun other => ?_, h.ordered_append [name]⟩
  rw [List.mem_append, List.mem_singleton, ← h.mem_iff]
  constructor
  · exact Or.inl
  · rintro (hother | rfl)
    · exact hother
    · exact hmem

/-- A new name comes last. -/
theorem concat_of_notMem (h : IsArrivalOrder names distinct) {name : String}
    (hnew : name ∉ distinct) : IsArrivalOrder (names ++ [name]) (distinct ++ [name]) := by
  have hnames : name ∉ names := fun hmem => hnew ((h.mem_iff name).mpr hmem)
  refine ⟨?_, fun other => ?_, ?_⟩
  · rw [← List.concat_eq_append, List.nodup_concat]
    exact ⟨hnew, h.nodup⟩
  · rw [List.mem_append, List.mem_append, h.mem_iff]
  · refine List.pairwise_append.mpr ⟨h.ordered_append [name], List.pairwise_singleton _ _, ?_⟩
    intro a ha b hb
    have ha' : a ∈ names := (h.mem_iff a).mp ha
    rw [List.mem_singleton.mp hb, List.idxOf_append_of_mem ha', List.idxOf_append_of_notMem hnames]
    have hlt : names.idxOf a < names.length := List.idxOf_lt_length_iff.mpr ha'
    omega

/-- There is one order of arrival. -/
theorem unique {distinct' : List String} (h : IsArrivalOrder names distinct)
    (h' : IsArrivalOrder names distinct') : distinct = distinct' := by
  have hperm : distinct.Perm distinct' := by
    refine (List.perm_ext_iff_of_nodup h.nodup h'.nodup).mpr fun name => ?_
    rw [h.mem_iff, h'.mem_iff]
  exact hperm.eq_of_pairwise (fun a b _ _ hab hba => absurd hab (Nat.lt_asymm hba)) h.ordered
    h'.ordered

end IsArrivalOrder

/-! ## Tables -/

namespace Table

variable {α : Type}

/-- A new name comes last. -/
theorem entries_insert_of_notMem {t : Table α} {key : String} (h : key ∉ t.keys) (value : α) :
    (t.insert key value).entries = t.entries ++ [(key, value)] :=
  Entries.put_of_notMem h value

theorem get?_insert (t : Table α) (key : String) (value : α) (other : String) :
    (t.insert key value).get? other = if key = other then some value else t.get? other := by
  split
  · next h => rw [← h, get?_insert_self]
  · next h => rw [get?_insert_of_ne _ _ (Ne.symm h)]

/-- What a table gives a name after a list: what the list says last, or else what was there. -/
theorem get?_extend (t : Table α) (l : List (String × α)) (key : String) :
    (t.extend l).get? key = (Entries.last? key l).or (t.get? key) := by
  induction l generalizing t with
  | nil => rw [extend_nil, Entries.last?_nil, Option.none_or]
  | cons e rest ih =>
    rw [extend_cons, ih, Entries.last?_cons, get?_insert, Option.or_assoc]
    congr 1
    split <;> rfl

theorem mem_keys_extend (t : Table α) (l : List (String × α)) (key : String) :
    key ∈ (t.extend l).keys ↔ key ∈ t.keys ∨ key ∈ l.map Prod.fst := by
  rw [← contains_iff, ← contains_iff, contains, contains, get?_extend, ← Entries.last?_isSome_iff]
  cases Entries.last? key l <;> simp

/-- Entering names that are all there moves none of them. -/
theorem keys_extend_of_subset (t : Table α) (l : List (String × α))
    (h : ∀ e ∈ l, e.1 ∈ t.keys) : (t.extend l).keys = t.keys := by
  induction l generalizing t with
  | nil => rfl
  | cons e rest ih =>
    have hkeys : (t.insert e.1 e.2).keys = t.keys := by
      rw [keys_insert, if_pos (h e (List.mem_cons_self ..))]
    have hrest : ∀ e' ∈ rest, e'.1 ∈ (t.insert e.1 e.2).keys := by
      intro e' he'
      rw [hkeys]
      exact h e' (List.mem_cons_of_mem _ he')
    rw [extend_cons, ih _ hrest, hkeys]

/-- Entering distinct names appends those that are new, in their order. -/
theorem keys_extend (t : Table α) {l : List (String × α)} (hdistinct : (l.map Prod.fst).Nodup) :
    (t.extend l).keys = t.keys ++ (l.map Prod.fst).filter (· ∉ t.keys) := by
  induction l generalizing t with
  | nil => exact (List.append_nil _).symm
  | cons e rest ih =>
    rw [List.map_cons, List.nodup_cons] at hdistinct
    rw [extend_cons, ih _ hdistinct.2, keys_insert, List.map_cons]
    split
    · next hmem => rw [List.filter_cons_of_neg (by simpa using hmem)]
    · next hmem =>
      rw [List.filter_cons_of_pos (by simpa using hmem), List.append_assoc, List.singleton_append]
      congr 2
      refine List.filter_congr fun name hname => ?_
      have hne : name ≠ e.1 := fun heq => hdistinct.1 (heq ▸ hname)
      rw [decide_eq_decide, List.mem_append, List.mem_singleton, or_iff_left hne]

/-- A table is its names in order with the value of each name. -/
theorem ext_of_get? {s t : Table α} (hkeys : s.keys = t.keys)
    (hget : ∀ key, s.get? key = t.get? key) : s = t :=
  ext (Entries.eq_of_find?_eq hkeys s.nodup hget)

/-- Entering the value that is there changes nothing. -/
theorem insert_eq_self {t : Table α} {key : String} {value : α} (h : t.get? key = some value) :
    t.insert key value = t := by
  have hmem : key ∈ t.keys := by
    rw [← contains_iff, contains, h]
    rfl
  apply ext_of_get?
  · rw [keys_insert, if_pos hmem]
  · intro other
    rw [get?_insert]
    split
    · next hkey => rw [← hkey, h]
    · rfl

/-- **Entering a list a second time changes nothing**: every name keeps its place, and what the
list says last is what the table says already. -/
theorem extend_extend_self (t : Table α) (l : List (String × α)) :
    (t.extend l).extend l = t.extend l := by
  apply ext_of_get?
  · refine keys_extend_of_subset _ l fun e he => ?_
    rw [mem_keys_extend]
    exact Or.inr (List.mem_map.mpr ⟨e, he, rfl⟩)
  · intro key
    rw [get?_extend, get?_extend, ← Option.or_assoc, Option.or_self]

/-- **The names of a table stand in the order of their first arrival.** -/
theorem isArrivalOrder_keys_ofList (l : List (String × α)) :
    IsArrivalOrder (l.map Prod.fst) (ofList l).keys := by
  induction l using List.reverseRecOn with
  | nil => exact .nil
  | append_singleton l e ih =>
    have hstep : ofList (l ++ [e]) = (ofList l).insert e.1 e.2 := extend_append _ _ _
    rw [hstep, keys_insert, List.map_append, List.map_singleton]
    split
    · next h => exact ih.concat_of_mem h
    · next h => exact ih.concat_of_notMem h

theorem get?_ofList (l : List (String × α)) (key : String) :
    (ofList l).get? key = Entries.last? key l := by
  rw [ofList, get?_extend, get?_empty, Option.or_none]

/-- **The table of a list**: its names stand in the order of their first arrival, and each has the
value that the list gives it last. -/
theorem ofList_eq_iff {l : List (String × α)} {t : Table α} :
    ofList l = t ↔
      IsArrivalOrder (l.map Prod.fst) t.keys ∧ ∀ key, t.get? key = Entries.last? key l := by
  constructor
  · rintro rfl
    exact ⟨isArrivalOrder_keys_ofList l, get?_ofList l⟩
  · rintro ⟨hkeys, hget⟩
    apply ext_of_get?
    · exact (isArrivalOrder_keys_ofList l).unique hkeys
    · intro key
      rw [get?_ofList, hget]

/-- A table is the table of its entries. -/
theorem ofList_entries (t : Table α) : ofList t.entries = t := by
  apply ext_of_get?
  · have hkeys := keys_extend empty t.nodup
    simp only [keys_empty, List.not_mem_nil, not_false_eq_true, decide_true, List.filter_true,
      List.nil_append] at hkeys
    exact hkeys
  · intro key
    rw [get?_ofList, Entries.last?, ← Entries.find?_perm t.entries.reverse_perm.symm t.nodup, get?]

/-- Entering a table: its values count, or else those that are there. -/
theorem get?_extend_entries (s t : Table α) (key : String) :
    (s.extend t.entries).get? key = (t.get? key).or (s.get? key) := by
  rw [get?_extend, ← get?_ofList, ofList_entries]

/-- Entering a table appends those of its names that are new. -/
theorem keys_extend_entries (s t : Table α) :
    (s.extend t.entries).keys = s.keys ++ t.keys.filter (· ∉ s.keys) :=
  keys_extend s t.nodup

/-- **Tables entered one after another** may be put together before. -/
theorem extend_assoc (s t u : Table α) :
    (s.extend t.entries).extend u.entries = s.extend (t.extend u.entries).entries := by
  apply ext_of_get?
  · -- a name of `u` is new if it is neither in `s` nor in `t`
    have hnew : u.keys.filter (· ∉ s.keys ++ t.keys.filter (· ∉ s.keys)) =
        (u.keys.filter (· ∉ t.keys)).filter (· ∉ s.keys) := by
      rw [List.filter_filter]
      refine List.filter_congr fun name _ => ?_
      by_cases hs : name ∈ s.keys
      · simp [hs]
      · simp [hs]
    rw [keys_extend_entries, keys_extend_entries, keys_extend_entries, keys_extend_entries,
      List.filter_append, hnew, List.append_assoc]
  · intro key
    rw [get?_extend_entries, get?_extend_entries, get?_extend_entries, get?_extend_entries,
      Option.or_assoc]

end Table

end LintRules
