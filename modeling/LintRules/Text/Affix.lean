/-!
# Beginnings of names

Package names carry a lead such as `textlint-rule-`, extensions carry a leading dot, and a
scoped name is cut at its first slash.  All three are operations on the beginning of a list of
characters; the versions on `String` go through `String.toList`.

* `afterLead?`: the rest of a text after a given beginning, with `afterLead?_eq_some_iff`.
* `stripLead`: removes the beginning once, where it is there.
* `dropAll`: removes every copy of one character from the beginning.
* `splitFirst?`: the two sides of the first separator, with `splitFirst?_eq_some_iff`.
-/

namespace LintRules
namespace Text

variable {α : Type} [DecidableEq α]

/-- The rest of `text` after `lead`, or `none` when `text` does not begin with it. -/
def afterLead? : (lead text : List α) → Option (List α)
  | [], text => some text
  | _ :: _, [] => none
  | l :: lead, c :: text => if l = c then afterLead? lead text else none

@[simp] theorem afterLead?_nil (text : List α) : afterLead? [] text = some text := by
  simp only [afterLead?]

theorem afterLead?_eq_some_iff {lead text rest : List α} :
    afterLead? lead text = some rest ↔ text = lead ++ rest := by
  fun_induction afterLead? lead text with
  | case1 => simp [eq_comm]
  | case2 => simp
  | case3 lead c text ih => simp [ih]
  | case4 l lead c text h => simp [Ne.symm h]

@[simp] theorem afterLead?_append (lead rest : List α) :
    afterLead? lead (lead ++ rest) = some rest :=
  afterLead?_eq_some_iff.2 rfl

/-- Removes every copy of `c` from the beginning. -/
def dropAll (c : α) : List α → List α
  | [] => []
  | d :: text => if d = c then dropAll c text else d :: text

@[simp] theorem dropAll_cons_self (c : α) (text : List α) :
    dropAll c (c :: text) = dropAll c text := by
  simp only [dropAll, if_true]

/-- The texts before and after the first `sep`, or `none` when there is no `sep`. -/
def splitFirst? (sep : α) : List α → Option (List α × List α)
  | [] => none
  | c :: text =>
    if c = sep then some ([], text)
    else (splitFirst? sep text).map fun p => (c :: p.1, p.2)

theorem splitFirst?_eq_some_iff {sep : α} {text before after : List α} :
    splitFirst? sep text = some (before, after) ↔
      text = before ++ sep :: after ∧ sep ∉ before := by
  induction text generalizing before with
  | nil => simp [splitFirst?]
  | cons c text ih =>
    simp only [splitFirst?]
    split
    · next h =>
      subst h
      cases before with
      | nil => simp [eq_comm]
      | cons b before =>
        simp only [Option.some.injEq, Prod.mk.injEq, List.nil_eq, reduceCtorEq, false_and,
          false_iff, List.cons_append, List.cons.injEq, List.mem_cons, not_or]
        rintro ⟨⟨rfl, -⟩, hne, -⟩
        exact hne rfl
    · next h =>
      simp only [Option.map_eq_some_iff, Prod.mk.injEq]
      constructor
      · rintro ⟨⟨b, a⟩, hp, rfl, rfl⟩
        obtain ⟨rfl, hb⟩ := ih.1 hp
        exact ⟨rfl, by simp [hb, Ne.symm h]⟩
      · rintro ⟨heq, hb⟩
        cases before with
        | nil => simp_all
        | cons b before =>
          obtain ⟨rfl, rfl⟩ := List.cons.inj heq
          exact ⟨(before, after), ih.2 ⟨rfl, fun hm => hb (List.mem_cons_of_mem _ hm)⟩, rfl, rfl⟩

/-! ## On strings -/

/-- The rest of `text` after `lead`, if `text` begins with it. -/
def afterPrefix? (lead text : String) : Option String :=
  (afterLead? lead.toList text.toList).map String.ofList

/-- Whether `text` begins with `lead`. -/
def beginsWith (lead text : String) : Bool :=
  (afterPrefix? lead text).isSome

/-- `text` without `lead` at its beginning; only one copy is removed. -/
def stripLead (lead text : String) : String :=
  (afterPrefix? lead text).getD text

theorem afterPrefix?_eq_some_iff {lead text rest : String} :
    afterPrefix? lead text = some rest ↔ text = lead ++ rest := by
  rw [afterPrefix?, Option.map_eq_some_iff, ← String.toList_inj, String.toList_append]
  constructor
  · rintro ⟨r, hr, rfl⟩
    rw [afterLead?_eq_some_iff.1 hr, String.toList_ofList]
  · intro h
    exact ⟨rest.toList, afterLead?_eq_some_iff.2 h, String.ofList_toList⟩

@[simp] theorem stripLead_append (lead rest : String) :
    stripLead lead (lead ++ rest) = rest := by
  rw [stripLead, afterPrefix?_eq_some_iff.2 rfl, Option.getD_some]

theorem beginsWith_iff {lead text : String} :
    beginsWith lead text = true ↔ ∃ rest, text = lead ++ rest := by
  simp only [beginsWith, Option.isSome_iff_exists, afterPrefix?_eq_some_iff]

theorem stripLead_of_not_beginsWith {lead text : String} (h : beginsWith lead text = false) :
    stripLead lead text = text := by
  have hn : afterPrefix? lead text = none := by simpa [beginsWith] using h
  rw [stripLead, hn, Option.getD_none]

/-- Removes every leading `c`. -/
def dropAllOf (c : Char) (text : String) : String :=
  String.ofList (dropAll c text.toList)

/-- The two sides of the first `sep` in `text`. -/
def splitAtFirst? (sep : Char) (text : String) : Option (String × String) :=
  (splitFirst? sep text.toList).map fun p => (String.ofList p.1, String.ofList p.2)

theorem splitAtFirst?_eq_some_iff {sep : Char} {text before after : String} :
    splitAtFirst? sep text = some (before, after) ↔
      text = before ++ String.singleton sep ++ after ∧ sep ∉ before.toList := by
  have hjoin : text = before ++ String.singleton sep ++ after ↔
      text.toList = before.toList ++ sep :: after.toList := by
    rw [← String.toList_inj, String.toList_append, String.toList_append, String.toList_singleton,
      List.append_assoc, List.singleton_append]
  rw [hjoin, splitAtFirst?, Option.map_eq_some_iff]
  constructor
  · rintro ⟨⟨b, a⟩, hsplit, hpair⟩
    obtain ⟨rfl, rfl⟩ := Prod.mk.inj hpair
    rw [String.toList_ofList, String.toList_ofList]
    exact splitFirst?_eq_some_iff.1 hsplit
  · intro h
    refine ⟨(before.toList, after.toList), splitFirst?_eq_some_iff.2 h, ?_⟩
    rw [String.ofList_toList, String.ofList_toList]

end Text
end LintRules
