/-!
# Tables in order of arrival

A table maps names to values and remembers the order in which the names first arrived.  Entering
a name again replaces its value and leaves the name where it stands.

No name occurs twice: this is a field of the type, so every table that any operation returns has
it.  The view of a table is its list of `entries`; the statements about an operation are about
that list.

* `keys_insert`: entering a name keeps the names that are there and appends a new one.
* `get?_insert_self`, `get?_insert_of_ne`: what is found after entering a name.
* `mem_entries_iff_get?_eq_some`: looking up agrees with the entries.
* `ofList`, `extend`: entering a list of entries one after another.
-/

namespace LintRules

/-! ## Entries as a list -/

namespace Entries

variable {α : Type}

/-- Replaces the value of `key` where it stands, or appends a new entry. -/
def put (key : String) (value : α) : List (String × α) → List (String × α)
  | [] => [(key, value)]
  | e :: rest => if e.1 = key then (key, value) :: rest else e :: put key value rest

/-- The value entered under `key`. -/
def find? (key : String) : List (String × α) → Option α
  | [] => none
  | e :: rest => if e.1 = key then some e.2 else find? key rest

theorem keys_put (key : String) (value : α) (l : List (String × α)) :
    (put key value l).map Prod.fst =
      if key ∈ l.map Prod.fst then l.map Prod.fst else l.map Prod.fst ++ [key] := by
  induction l with
  | nil => simp [put]
  | cons e rest ih =>
    rw [put]
    split
    · next h => simp [h]
    · next h =>
      simp only [List.map_cons, ih, List.mem_cons]
      by_cases hr : key ∈ rest.map Prod.fst
      · simp [hr]
      · simp [hr, Ne.symm h]

theorem nodup_keys_put {key : String} {value : α} {l : List (String × α)}
    (h : (l.map Prod.fst).Nodup) : ((put key value l).map Prod.fst).Nodup := by
  rw [keys_put]
  split
  · exact h
  · next hk =>
    refine List.nodup_append.2 ⟨h, List.pairwise_singleton _ _, ?_⟩
    rintro a ha b hb rfl
    exact hk (List.mem_singleton.1 hb ▸ ha)

theorem find?_put_self (key : String) (value : α) (l : List (String × α)) :
    find? key (put key value l) = some value := by
  induction l with
  | nil => simp [put, find?]
  | cons e rest ih =>
    rw [put]
    split
    · simp [find?]
    · next h => simp [find?, h, ih]

theorem find?_put_of_ne {key other : String} (value : α) (h : other ≠ key)
    (l : List (String × α)) : find? other (put key value l) = find? other l := by
  induction l with
  | nil => simp [put, find?, Ne.symm h]
  | cons e rest ih =>
    rw [put]
    split
    · next he => simp [find?, he, Ne.symm h]
    · simp [find?, ih]

theorem find?_eq_some_iff {l : List (String × α)} (h : (l.map Prod.fst).Nodup)
    {key : String} {value : α} : find? key l = some value ↔ (key, value) ∈ l := by
  induction l with
  | nil => simp [find?]
  | cons e rest ih =>
    obtain ⟨k, v⟩ := e
    rw [List.map_cons, List.nodup_cons] at h
    rw [find?, List.mem_cons]
    split
    · next he =>
      simp only at he
      subst he
      have : (k, value) ∉ rest := fun hm => h.1 (List.mem_map.2 ⟨_, hm, rfl⟩)
      simp [this, eq_comm]
    · next he =>
      simp only at he
      simp [ih h.2, Ne.symm he]

theorem find?_isSome_iff {l : List (String × α)} {key : String} :
    (find? key l).isSome ↔ key ∈ l.map Prod.fst := by
  induction l with
  | nil => simp [find?]
  | cons e rest ih =>
    rw [find?, List.map_cons, List.mem_cons]
    split
    · next h => simp [h]
    · next h => simp [ih, Ne.symm h]

end Entries

/-! ## Tables -/

/-- Values under distinct names, in the order in which the names arrived. -/
structure Table (α : Type) where
  /-- The names with their values, in order. -/
  entries : List (String × α)
  /-- No name is entered twice. -/
  nodup : (entries.map Prod.fst).Nodup

namespace Table

variable {α β : Type}

instance [DecidableEq α] : DecidableEq (Table α) := fun s t =>
  if h : s.entries = t.entries then
    isTrue (by cases s; cases t; cases h; rfl)
  else
    isFalse fun hst => h (hst ▸ rfl)

@[ext] theorem ext {s t : Table α} (h : s.entries = t.entries) : s = t := by
  cases s; cases t; cases h; rfl

/-- The table without entries. -/
def empty : Table α := ⟨[], List.nodup_nil⟩

instance : Inhabited (Table α) := ⟨empty⟩

instance : EmptyCollection (Table α) := ⟨empty⟩

/-- The names in order. -/
def keys (t : Table α) : List String := t.entries.map Prod.fst

/-- The number of names. -/
def size (t : Table α) : Nat := t.entries.length

/-- Whether nothing has been entered. -/
def isEmpty (t : Table α) : Bool := t.entries.isEmpty

/-- The value under a name. -/
def get? (t : Table α) (key : String) : Option α := Entries.find? key t.entries

/-- Whether a name is entered. -/
def contains (t : Table α) (key : String) : Bool := (t.get? key).isSome

/-- Enters a value: a new name comes last, a known one keeps its place. -/
def insert (t : Table α) (key : String) (value : α) : Table α :=
  ⟨Entries.put key value t.entries, Entries.nodup_keys_put t.nodup⟩

/-- Enters a list of values one after another. -/
def extend (t : Table α) (entries : List (String × α)) : Table α :=
  entries.foldl (fun t e => t.insert e.1 e.2) t

/-- The table of a list of entries; of entries with one name the first gives the place and the
last the value. -/
def ofList (entries : List (String × α)) : Table α := empty.extend entries

/-- Applies `f` to every value. -/
def map (f : String → α → β) (t : Table α) : Table β :=
  ⟨t.entries.map fun e => (e.1, f e.1 e.2), by
    have : (t.entries.map fun e => (e.1, f e.1 e.2)).map Prod.fst = t.entries.map Prod.fst := by
      simp [List.map_map, Function.comp_def]
    rw [this]
    exact t.nodup⟩

@[simp] theorem entries_empty : (empty : Table α).entries = [] := rfl

@[simp] theorem keys_empty : (empty : Table α).keys = [] := rfl

@[simp] theorem get?_empty (key : String) : (empty : Table α).get? key = none := rfl

theorem nodup_keys (t : Table α) : t.keys.Nodup := t.nodup

theorem keys_insert (t : Table α) (key : String) (value : α) :
    (t.insert key value).keys = if key ∈ t.keys then t.keys else t.keys ++ [key] :=
  Entries.keys_put key value t.entries

@[simp] theorem get?_insert_self (t : Table α) (key : String) (value : α) :
    (t.insert key value).get? key = some value :=
  Entries.find?_put_self key value t.entries

theorem get?_insert_of_ne (t : Table α) {key other : String} (value : α) (h : other ≠ key) :
    (t.insert key value).get? other = t.get? other :=
  Entries.find?_put_of_ne value h t.entries

theorem mem_entries_iff_get?_eq_some {t : Table α} {key : String} {value : α} :
    (key, value) ∈ t.entries ↔ t.get? key = some value :=
  (Entries.find?_eq_some_iff t.nodup).symm

theorem contains_iff {t : Table α} {key : String} : t.contains key = true ↔ key ∈ t.keys :=
  Entries.find?_isSome_iff

@[simp] theorem extend_nil (t : Table α) : t.extend [] = t := rfl

@[simp] theorem extend_cons (t : Table α) (e : String × α) (rest : List (String × α)) :
    t.extend (e :: rest) = (t.insert e.1 e.2).extend rest := rfl

theorem extend_append (t : Table α) (l₁ l₂ : List (String × α)) :
    t.extend (l₁ ++ l₂) = (t.extend l₁).extend l₂ :=
  List.foldl_append

end Table
end LintRules
