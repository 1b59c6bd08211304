import LintRules.Json.Draft
import LintRules.Json.Printer

/-!
# JSON that is written reads back

What `Json.pretty` writes is JSON, and it is the JSON of the value: reading it gives the value
again, with the members of its objects in their order.  This is shown for values without numbers,
which is all that a report needs.

Writing and reading go by the same recursion, so there is one lemma for each kind of text that is
written.  In each of them anything may follow the text.

* `stringUnits_escapeChar`: a character in a string.
* `ReadsItems.cons`, `ReadsMembers.cons`: one more item or member of a collection.
* `readsValue_prettyAt`: a value.  The induction is on the value, and `fuel` is more than the length
  of its text.
* `toJson?_pretty`: a whole text.
-/

namespace LintRules
namespace Json

/-- There is no number in the value. -/
inductive IsNumberless : Json → Prop
  | null : IsNumberless .null
  | bool (b : Bool) : IsNumberless (.bool b)
  | str (s : String) : IsNumberless (.str s)
  | arr {items : List Json} (h : ∀ item ∈ items, IsNumberless item) : IsNumberless (.arr items)
  | obj {members : List (String × Json)} (h : ∀ member ∈ members, IsNumberless member.2) :
      IsNumberless (.obj members)

attribute [simp] IsNumberless.null IsNumberless.bool IsNumberless.str

@[simp] theorem isNumberless_arr_iff {items : List Json} :
    (Json.arr items).IsNumberless ↔ ∀ item ∈ items, item.IsNumberless :=
  ⟨fun (.arr h) => h, .arr⟩

@[simp] theorem isNumberless_obj_iff {members : List (String × Json)} :
    (Json.obj members).IsNumberless ↔ ∀ member ∈ members, member.2.IsNumberless :=
  ⟨fun (.obj h) => h, .obj⟩

/-! ## Strings -/

theorem hex4?_append {digits : List Char} {a b c d : Nat}
    (h : digits.map hexDigit? = [some a, some b, some c, some d]) (rest : List Char) :
    hex4? (digits ++ rest) = some (((a * 16 + b) * 16 + c) * 16 + d, rest) := by
  obtain ⟨w, digits, rfl, hw, h⟩ := List.map_eq_cons_iff.mp h
  obtain ⟨x, digits, rfl, hx, h⟩ := List.map_eq_cons_iff.mp h
  obtain ⟨y, digits, rfl, hy, h⟩ := List.map_eq_cons_iff.mp h
  obtain ⟨z, digits, rfl, hz, h⟩ := List.map_eq_cons_iff.mp h
  rw [List.map_eq_nil_iff.mp h]
  simp only [List.cons_append, List.nil_append, hex4?, hw, hx, hy, hz]
  rfl

/-- The four digits of a control character are those of its code. -/
theorem map_hexDigit?_control : ∀ code < 0x20,
    (['0', '0'] ++ (if code < 0x10 then ['0'] else []) ++ Text.hexDigits code).map hexDigit? =
      [some 0, some 0, some (code / 16), some (code % 16)] := by
  decide

/-- **A character that is written is read.** -/
theorem stringUnits_escapeChar (c : Char) (fuel : Nat) (text : List Char) :
    stringUnits (fuel + 1) (escapeChar c ++ text) =
      (stringUnits fuel text).map fun p => (.char c :: p.1, p.2) := by
  unfold escapeChar
  split
  case h_8 hquote hbackslash _ _ _ _ _ =>
    by_cases hcontrol : c.toNat < 0x20
    · rw [if_pos hcontrol]
      have hcode := hex4?_append (map_hexDigit?_control c.toNat hcontrol) text
      have hvalue : ((0 * 16 + 0) * 16 + c.toNat / 16) * 16 + c.toNat % 16 = c.toNat := by omega
      rw [hvalue] at hcode
      simp only [List.cons_append, List.nil_append] at hcode ⊢
      have hsurrogate : ¬ (0xD800 ≤ c.toNat ∧ c.toNat ≤ 0xDFFF) := by omega
      rw [stringUnits, hcode]
      simp only [Option.bind_eq_bind, Option.bind_some, if_neg hsurrogate, Char.ofNat_toNat]
      cases stringUnits fuel text <;> rfl
    · have hplain : ¬ (c = '\\' ∨ c.toNat < 0x20) := not_or.mpr ⟨hbackslash, hcontrol⟩
      rw [if_neg hcontrol, List.singleton_append, stringUnits]
      · rw [if_neg hplain]
        cases stringUnits fuel text <;> rfl
      · exact hquote
      · exact fun _ h _ => hbackslash h
      · exact fun _ _ h _ => hbackslash h
  all_goals
    cases h : stringUnits fuel text <;> simp [stringUnits, h]

theorem stringUnits_flatMap_escapeChar (text rest : List Char) {fuel : Nat}
    (hfuel : text.length < fuel) :
    stringUnits fuel (text.flatMap escapeChar ++ '"' :: rest) =
      some (text.map .char, rest) := by
  induction text generalizing fuel with
  | nil =>
    obtain ⟨fuel, rfl⟩ := Nat.exists_eq_add_of_lt hfuel
    rw [List.flatMap_nil, List.nil_append, stringUnits, List.map_nil]
  | cons c text ih =>
    obtain _ | fuel := fuel
    · cases hfuel
    · rw [List.flatMap_cons, List.append_assoc, stringUnits_escapeChar,
        ih (Nat.lt_of_succ_lt_succ hfuel)]
      rfl

theorem joinUnits_map_char (text : List Char) : joinUnits (text.map .char) = some text := by
  induction text with
  | nil => rfl
  | cons c text ih => rw [List.map_cons, joinUnits, ih, Option.map_some]

theorem length_le_flatMap_escapeChar (text : List Char) :
    text.length ≤ (text.flatMap escapeChar).length := by
  induction text with
  | nil => exact Nat.le_refl _
  | cons c text ih =>
    have hpos : 0 < (escapeChar c).length := by
      unfold escapeChar
      split
      case h_8 => split <;> exact Nat.succ_pos _
      all_goals exact Nat.succ_pos _
    rw [List.flatMap_cons, List.length_cons, List.length_append]
    omega

/-- A string after its opening quote, read as it is read everywhere. -/
theorem stringUnits_text (s : String) (rest : List Char) :
    stringUnits ((s.toList.flatMap escapeChar ++ '"' :: rest).length + 1)
        (s.toList.flatMap escapeChar ++ '"' :: rest) =
      some (s.toList.map .char, rest) := by
  refine stringUnits_flatMap_escapeChar s.toList rest ?_
  have hlength := length_le_flatMap_escapeChar s.toList
  rw [List.length_append]
  omega

theorem toList_stringText (s : String) :
    (stringText s).toList = '"' :: (s.toList.flatMap escapeChar ++ ['"']) := by
  rw [stringText, String.toList_ofList, List.cons_append]

/-! ## Blanks -/

theorem skipBlanks_cons_of_blank {c : Char} (h : c = ' ' ∨ c = '\n' ∨ c = '\t' ∨ c = '\r')
    (text : List Char) : skipBlanks (c :: text) = skipBlanks text := by
  rw [skipBlanks, if_pos h]

theorem skipBlanks_cons_of_not {c : Char} (h : ¬ (c = ' ' ∨ c = '\n' ∨ c = '\t' ∨ c = '\r'))
    (text : List Char) : skipBlanks (c :: text) = c :: text := by
  rw [skipBlanks, if_neg h]

@[simp] theorem skipBlanks_skipBlanks (text : List Char) :
    skipBlanks (skipBlanks text) = skipBlanks text := by
  induction text with
  | nil => rfl
  | cons c text ih =>
    by_cases hblank : c = ' ' ∨ c = '\n' ∨ c = '\t' ∨ c = '\r'
    · rw [skipBlanks_cons_of_blank hblank, ih]
    · rw [skipBlanks_cons_of_not hblank, skipBlanks_cons_of_not hblank]

@[simp] theorem skipBlanks_newline (level : Nat) (text : List Char) :
    skipBlanks ((newline level).toList ++ text) = skipBlanks text := by
  rw [newline, String.toList_ofList, List.cons_append, skipBlanks_cons_of_blank (by simp)]
  induction 2 * level with
  | zero => rfl
  | succ n ih => rw [List.replicate_succ, List.cons_append, skipBlanks_cons_of_blank (by simp), ih]

/-- Blanks before a value do not count. -/
theorem readValue_skipBlanks (fuel : Nat) (text : List Char) :
    readValue fuel (skipBlanks text) = readValue fuel text := by
  cases fuel with
  | zero => rw [readValue, readValue]
  | succ fuel => rw [readValue, readValue, skipBlanks_skipBlanks]

theorem readItems_skipBlanks (fuel : Nat) (text : List Char) :
    readItems fuel (skipBlanks text) = readItems fuel text := by
  cases fuel with
  | zero => rw [readItems, readItems]
  | succ fuel => rw [readItems, readItems, readValue_skipBlanks]

theorem readMembers_skipBlanks (fuel : Nat) (text : List Char) :
    readMembers fuel (skipBlanks text) = readMembers fuel text := by
  cases fuel with
  | zero => rw [readMembers, readMembers]
  | succ fuel => rw [readMembers, readMembers, skipBlanks_skipBlanks]

/-! ## Contents of collections -/

/-- The text begins with a value, and `rest` follows it. -/
def ReadsValue (fuel : Nat) (text : List Char) (v : Json) (rest : List Char) : Prop :=
  ∃ draft, readValue fuel text = (draft, some rest) ∧ draft.toJson? = some v

/-- The text begins with the items of an array and its closing bracket. -/
def ReadsItems (fuel : Nat) (text : List Char) (items : List Json) (rest : List Char) : Prop :=
  ∃ drafts, readItems fuel text = (drafts, some rest) ∧ toItems? drafts = some items

/-- The text begins with the members of an object and its closing brace. -/
def ReadsMembers (fuel : Nat) (text : List Char) (members : List (String × Json))
    (rest : List Char) : Prop :=
  ∃ drafts, readMembers fuel text = (drafts, some rest) ∧ toMembers? drafts = some members

/-- No items are read where there is none. -/
theorem readItems_snd_eq_none {text : List Char}
    (h : skipBlanks text = [] ∨ ∃ rest, skipBlanks text = ']' :: rest) (fuel : Nat) :
    (readItems fuel text).2 = none := by
  have hvalue : ∀ fuel, readValue fuel text = (.broken, none) := by
    intro fuel
    cases fuel with
    | zero => rw [readValue]
    | succ fuel =>
      rw [readValue]
      rcases h with h | ⟨rest, h⟩
      · rw [h]
      · rw [h]
        rfl
  cases fuel with
  | zero => rw [readItems]
  | succ fuel => rw [readItems, hvalue]

theorem readMembers_snd_eq_none {text : List Char}
    (h : ∃ rest, skipBlanks text = '\x7d' :: rest) (fuel : Nat) :
    (readMembers fuel text).2 = none := by
  obtain ⟨rest, h⟩ := h
  cases fuel with
  | zero => rw [readMembers]
  | succ fuel => rw [readMembers, h]; rfl

theorem ReadsItems.last {fuel : Nat} {text after rest : List Char} {v : Json}
    (hvalue : ReadsValue fuel text v after) (hafter : skipBlanks after = ']' :: rest) :
    ReadsItems (fuel + 1) text [v] rest := by
  obtain ⟨draft, hread, hdraft⟩ := hvalue
  refine ⟨[draft], ?_, by rw [toItems?, hdraft]; rfl⟩
  rw [readItems, hread]
  dsimp only
  rw [hafter]
  rfl

theorem ReadsItems.cons {fuel : Nat} {text after more rest : List Char} {v : Json}
    {items : List Json} (hvalue : ReadsValue fuel text v after)
    (hafter : skipBlanks after = ',' :: more) (hitems : ReadsItems fuel more items rest) :
    ReadsItems (fuel + 1) text (v :: items) rest := by
  obtain ⟨draft, hread, hdraft⟩ := hvalue
  obtain ⟨drafts, hmore, hdrafts⟩ := hitems
  refine ⟨draft :: drafts, ?_, by rw [toItems?, hdraft, hdrafts]⟩
  rw [readItems, hread]
  dsimp only
  rw [hafter]
  simp only
  split
  · next hbracket =>
    have hnone := readItems_snd_eq_none (.inr ⟨_, hbracket⟩) fuel
    rw [hmore] at hnone
    cases hnone
  · rw [readItems_skipBlanks, hmore]

/-- An array is its items between brackets. -/
theorem ReadsItems.array {fuel : Nat} {text rest : List Char} {items : List Json}
    (h : ReadsItems fuel text items rest) :
    ReadsValue (fuel + 1) ('[' :: text) (.arr items) rest := by
  obtain ⟨drafts, hread, hdrafts⟩ := h
  refine ⟨.array drafts true, ?_, by rw [Draft.toJson?, hdrafts]; rfl⟩
  have harray : readArray fuel text = (.array drafts true, some rest) := by
    rw [readArray]
    split
    · next hbracket =>
      have hnone := readItems_snd_eq_none (.inr ⟨_, hbracket⟩) fuel
      rw [hread] at hnone
      cases hnone
    · next hend =>
      have hnone := readItems_snd_eq_none (.inl hend) fuel
      rw [hread] at hnone
      cases hnone
    · rw [readItems_skipBlanks, hread]
      rfl
  rw [readValue, skipBlanks_cons_of_not (by decide)]
  exact harray

theorem readValue_stringText (fuel : Nat) (s : String) (rest : List Char) :
    ReadsValue (fuel + 1) ((stringText s).toList ++ rest) (.str s) rest := by
  refine ⟨.string (some s), ?_, rfl⟩
  rw [toList_stringText, readValue, List.cons_append, List.append_assoc, List.singleton_append,
    skipBlanks_cons_of_not (by decide)]
  simp only
  rw [stringUnits_text]
  simp only [joinUnits_map_char, Option.map_some, String.ofList_toList]

/-- What is read of members after the name of the first one and its colon. -/
theorem readMembers_stringText (fuel : Nat) {text : List Char} {name : String}
    {valueText : List Char}
    (htext : skipBlanks text = (stringText name).toList ++ ':' :: valueText) :
    readMembers (fuel + 1) text =
      match readValue fuel valueText with
      | (value, none) => ([(some name, value)], none)
      | (value, some rest) =>
        match skipBlanks rest with
        | '\x7d' :: rest => ([(some name, value)], some rest)
        | ',' :: rest =>
          match readMembers fuel rest with
          | (members, rest) => ((some name, value) :: members, rest)
        | _ => ([(some name, value)], none) := by
  rw [toList_stringText, List.cons_append, List.append_assoc, List.singleton_append] at htext
  rw [readMembers, htext]
  simp only
  rw [stringUnits_text]
  simp only [joinUnits_map_char, Option.map_some, String.ofList_toList]
  rw [skipBlanks_cons_of_not (by decide)]
  rfl

theorem ReadsMembers.last {fuel : Nat} {text valueText after rest : List Char} {name : String}
    {v : Json} (htext : skipBlanks text = (stringText name).toList ++ ':' :: valueText)
    (hvalue : ReadsValue fuel valueText v after) (hafter : skipBlanks after = '\x7d' :: rest) :
    ReadsMembers (fuel + 1) text [(name, v)] rest := by
  obtain ⟨draft, hread, hdraft⟩ := hvalue
  refine ⟨[(some name, draft)], ?_, by simp only [toMembers?, hdraft]⟩
  rw [readMembers_stringText fuel htext, hread]
  simp only [hafter]

theorem ReadsMembers.cons {fuel : Nat} {text valueText after more rest : List Char}
    {name : String} {v : Json} {members : List (String × Json)}
    (htext : skipBlanks text = (stringText name).toList ++ ':' :: valueText)
    (hvalue : ReadsValue fuel valueText v after) (hafter : skipBlanks after = ',' :: more)
    (hmembers : ReadsMembers fuel more members rest) :
    ReadsMembers (fuel + 1) text ((name, v) :: members) rest := by
  obtain ⟨draft, hread, hdraft⟩ := hvalue
  obtain ⟨drafts, hmore, hdrafts⟩ := hmembers
  refine ⟨(some name, draft) :: drafts, ?_, by simp only [toMembers?, hdraft, hdrafts]⟩
  rw [readMembers_stringText fuel htext, hread]
  simp only [hafter, hmore]

/-- An object is its members between braces. -/
theorem ReadsMembers.object {fuel : Nat} {text rest : List Char} {members : List (String × Json)}
    (h : ReadsMembers fuel text members rest) :
    ReadsValue (fuel + 1) ('\x7b' :: text) (.obj members) rest := by
  obtain ⟨drafts, hread, hdrafts⟩ := h
  refine ⟨.object drafts true, ?_, by rw [Draft.toJson?, hdrafts]; rfl⟩
  have hobject : readObject fuel text = (.object drafts true, some rest) := by
    rw [readObject]
    split
    · next hbrace =>
      have hnone := readMembers_snd_eq_none ⟨_, hbrace⟩ fuel
      rw [hread] at hnone
      cases hnone
    · rw [readMembers_skipBlanks, hread]
      rfl
  rw [readValue, skipBlanks_cons_of_not (by decide)]
  exact hobject

/-! ## Values -/

theorem readValue_word {fuel : Nat} (rest : List Char) {v : Json}
    (h : v = .null ∨ ∃ b, v = .bool b) :
    ReadsValue (fuel + 1) (v.atomText.toList ++ rest) v rest := by
  rcases h with rfl | ⟨_ | _, rfl⟩
  · exact ⟨.null, by simp [atomText, readValue, skipBlanks, digit?, afterWord?], rfl⟩
  · exact ⟨.bool false, by simp [atomText, readValue, skipBlanks, digit?, afterWord?], rfl⟩
  · exact ⟨.bool true, by simp [atomText, readValue, skipBlanks, digit?, afterWord?], rfl⟩

/-- Blanks before a value do not count. -/
theorem ReadsValue.congr {fuel : Nat} {text text' rest : List Char} {v : Json}
    (h : ReadsValue fuel text v rest) (hblanks : skipBlanks text' = skipBlanks text) :
    ReadsValue fuel text' v rest := by
  obtain ⟨draft, hread, hdraft⟩ := h
  refine ⟨draft, ?_, hdraft⟩
  rw [← readValue_skipBlanks, hblanks, readValue_skipBlanks, hread]

theorem skipBlanks_stringText (s : String) (rest : List Char) :
    skipBlanks ((stringText s).toList ++ rest) = (stringText s).toList ++ rest := by
  rw [toList_stringText, List.cons_append, skipBlanks_cons_of_not (by decide)]

theorem length_newline_pos (level : Nat) : 0 < (newline level).length := by
  rw [newline, String.length_ofList]
  exact Nat.succ_pos _

/-- How long the marks between values are. -/
theorem length_marks : "[".length = 1 ∧ "]".length = 1 ∧ "\x7b".length = 1 ∧ "\x7d".length = 1 ∧
    ",".length = 1 ∧ ": ".length = 2 := by
  decide

mutual

/-- **A value that is written is read**, whatever follows it. -/
theorem readsValue_prettyAt : ∀ (v : Json) (level fuel : Nat) (rest : List Char),
    v.IsNumberless → (v.prettyAt level).length < fuel →
      ReadsValue fuel ((v.prettyAt level).toList ++ rest) v rest
  | _, _, 0, _ => fun _ hfuel => absurd hfuel (Nat.not_lt_zero _)
  | .int _, _, _ + 1, _ => fun h _ => nomatch h
  | .float _, _, _ + 1, _ => fun h _ => nomatch h
  | .null, level, fuel + 1, rest => fun _ _ => by
    rw [prettyAt]
    exact readValue_word rest (.inl rfl)
  | .bool b, level, fuel + 1, rest => fun _ _ => by
    rw [prettyAt]
    exact readValue_word rest (.inr ⟨b, rfl⟩)
  | .str s, level, fuel + 1, rest => fun _ _ => by
    rw [prettyAt, atomText]
    exact readValue_stringText fuel s rest
  | .arr [], level, fuel + 1, rest => fun _ _ =>
    ⟨.array [] true, by simp [prettyAt, readValue, readArray, skipBlanks], rfl⟩
  | .arr (first :: more), level, fuel + 1, rest => by
    intro h hfuel
    rw [prettyAt] at hfuel ⊢
    simp only [String.length_append, length_marks] at hfuel
    have hitems := readsItems_prettyItems (first :: more) (level + 1) level fuel rest
      (List.cons_ne_nil _ _) (isNumberless_arr_iff.mp h) (by omega)
    simpa using hitems.array
  | .obj [], level, fuel + 1, rest => fun _ _ =>
    ⟨.object [] true, by simp [prettyAt, readValue, readObject, skipBlanks], rfl⟩
  | .obj (first :: more), level, fuel + 1, rest => by
    intro h hfuel
    rw [prettyAt] at hfuel ⊢
    simp only [String.length_append, length_marks] at hfuel
    have hmembers := readsMembers_prettyMembers (first :: more) (level + 1) level fuel rest
      (List.cons_ne_nil _ _) (isNumberless_obj_iff.mp h) (by omega)
    simpa using hmembers.object

theorem readsItems_prettyItems : ∀ (items : List Json) (level outer fuel : Nat)
    (rest : List Char), items ≠ [] → (∀ item ∈ items, item.IsNumberless) →
      (prettyItems level items).length < fuel →
        ReadsItems fuel
          ((prettyItems level items).toList ++ ((newline outer).toList ++ ']' :: rest)) items rest
  | [], _, _, _, _ => fun hne => absurd rfl hne
  | _, _, _, 0, _ => fun _ _ hfuel => absurd hfuel (Nat.not_lt_zero _)
  | [first], level, outer, fuel + 1, rest => by
    intro _ h hfuel
    rw [prettyItems, String.length_append] at hfuel
    have hnewline := length_newline_pos level
    have hvalue := readsValue_prettyAt first level fuel ((newline outer).toList ++ ']' :: rest)
      (h first (List.mem_cons_self ..)) (by omega)
    rw [prettyItems, String.toList_append, List.append_assoc]
    refine ReadsItems.last (hvalue.congr (skipBlanks_newline ..)) ?_
    rw [skipBlanks_newline, skipBlanks_cons_of_not (by decide)]
  | first :: second :: more, level, outer, fuel + 1, rest => by
    intro _ h hfuel
    have htext : prettyItems level (first :: second :: more) =
        newline level ++ first.prettyAt level ++ "," ++ prettyItems level (second :: more) := rfl
    simp only [htext, String.length_append, length_marks] at hfuel
    obtain ⟨hfirst, hmore⟩ := List.forall_mem_cons.mp h
    have hitems := readsItems_prettyItems (second :: more) level outer fuel rest
      (List.cons_ne_nil _ _) hmore (by omega)
    have hvalue := readsValue_prettyAt first level fuel
      (',' :: ((prettyItems level (second :: more)).toList ++
        ((newline outer).toList ++ ']' :: rest))) hfirst (by omega)
    have hall := ReadsItems.cons (hvalue.congr (skipBlanks_newline level _))
      (skipBlanks_cons_of_not (by decide) _) hitems
    simpa [htext] using hall

theorem readsMembers_prettyMembers : ∀ (members : List (String × Json)) (level outer fuel : Nat)
    (rest : List Char), members ≠ [] → (∀ member ∈ members, member.2.IsNumberless) →
      (prettyMembers level members).length < fuel →
        ReadsMembers fuel
          ((prettyMembers level members).toList ++ ((newline outer).toList ++ '\x7d' :: rest))
          members rest
  | [], _, _, _, _ => fun hne => absurd rfl hne
  | _, _, _, 0, _ => fun _ _ hfuel => absurd hfuel (Nat.not_lt_zero _)
  | [(name, first)], level, outer, fuel + 1, rest => by
    intro _ h hfuel
    simp only [prettyMembers, String.length_append, length_marks] at hfuel
    have hvalue := readsValue_prettyAt first level fuel ((newline outer).toList ++ '\x7d' :: rest)
      (h _ (List.mem_cons_self ..)) (by omega)
    have hspaced := hvalue.congr (skipBlanks_cons_of_blank (.inl rfl) _)
    refine ReadsMembers.last ?_ hspaced ?_
    · simp [prettyMembers, skipBlanks_stringText]
    · rw [skipBlanks_newline, skipBlanks_cons_of_not (by decide)]
  | (name, first) :: second :: more, level, outer, fuel + 1, rest => by
    intro _ h hfuel
    have htext : prettyMembers level ((name, first) :: second :: more) =
        newline level ++ stringText name ++ ": " ++ first.prettyAt level ++ "," ++
          prettyMembers level (second :: more) := rfl
    simp only [htext, String.length_append, length_marks] at hfuel
    obtain ⟨hfirst, hmore⟩ := List.forall_mem_cons.mp h
    have hmembers := readsMembers_prettyMembers (second :: more) level outer fuel rest
      (List.cons_ne_nil _ _) hmore (by omega)
    have hvalue := readsValue_prettyAt first level fuel
      (',' :: ((prettyMembers level (second :: more)).toList ++
        ((newline outer).toList ++ '\x7d' :: rest))) hfirst (by omega)
    have hspaced := hvalue.congr (skipBlanks_cons_of_blank (.inl rfl) _)
    refine ReadsMembers.cons ?_ hspaced (skipBlanks_cons_of_not (by decide) _) hmembers
    simp [htext, skipBlanks_stringText]

end

end Json
end LintRules
