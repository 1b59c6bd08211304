import LintRules.Command.Consulted
import Mathlib.Data.List.TakeDrop

/-!
# The environment of a run

A run sees the variables that are set, and those of the dot file where they are not.  The dot file
is the first regular file of its name in the working directory and the directories above it.

Of the variables that are set, a run looks at its own settings and at those that the dot file
mentions.  It does not matter whether an environment holds any others.

* `Command.FindsDotFile`: the search for the dot file, directory by directory.
* `Command.Sees`: the environment that a run sees; by `Command.sees_iff` it is that of the command.
* `Environment.AgreesOn`: two environments give the same values to some names.
* `DotFile.ReadAlike`: two environments give the same value to a text.  They do so where they agree
  on the names that the text mentions, and so a dot file refers to no other variables.
* `Command.run_congr`: a run depends on the variables that it looks at and on no other ones.
-/

namespace LintRules

/-! ## Agreement of environments -/

/-- Two environments give the same values to some names. -/
def Environment.AgreesOn (names : List String) (env env' : Environment) : Prop :=
  ∀ name ∈ names, env.value? name = env'.value? name

namespace Environment

variable {env env' : Environment} {names names' : List String}

theorem AgreesOn.mono (h : AgreesOn names env env') (hsub : names' ⊆ names) :
    AgreesOn names' env env' :=
  fun name hname => h name (hsub hname)

theorem AgreesOn.setting?_eq (h : AgreesOn names env env') (name : String) (hname : name ∈ names) :
    env.setting? name = env'.setting? name := by
  rw [setting?, setting?, h name hname]

theorem value?_withDefault_self (env : Environment) (name value : String) :
    (env.withDefault name value).value? name = some ((env.value? name).getD value) := by
  rw [withDefault]
  cases h : env.value? name with
  | none =>
    rw [Option.isSome_none, if_neg Bool.false_ne_true]
    exact Table.get?_insert_self ..
  | some set =>
    rw [Option.isSome_some, if_pos rfl, h]
    rfl

theorem AgreesOn.withDefault (h : AgreesOn names env env') (name value : String) :
    AgreesOn names (env.withDefault name value) (env'.withDefault name value) := by
  intro other hother
  by_cases hname : other = name
  · subst hname
    rw [value?_withDefault_self, value?_withDefault_self, h other hother]
  · rw [value?_withDefault_of_ne _ _ hname, value?_withDefault_of_ne _ _ hname, h other hother]

end Environment

/-! ## What a dot file refers to -/

namespace DotFile

open Environment (AgreesOn)

/-- The names that the reading of a value may be in the middle of. -/
def Mode.names : Mode → List Char → List String
  | .variable _ [], rest =>
    [String.ofList (rest.takeWhile Text.isAlphanumeric),
      String.ofList ((rest.drop 1).takeWhile (· != '\x7d'))]
  | .variable _ name, rest => [String.ofList (name ++ rest.takeWhile Text.isAlphanumeric)]
  | .braced _ name, rest => [String.ofList (name ++ rest.takeWhile (· != '\x7d'))]
  | .text _, _ | .single, _ | .escape _, _ | .done, _ => []

theorem mentioned_dollar (quoted : Bool) (rest : List Char) :
    mentioned ('$' :: rest) = (Mode.variable quoted []).names rest ++ mentioned rest := rfl

theorem mentioned_subset_cons (c : Char) (text : List Char) :
    mentioned text ⊆ mentioned (c :: text) := by
  intro name hname
  rw [mentioned]
  split
  · exact List.mem_cons_of_mem _ (List.mem_cons_of_mem _ hname)
  · exact hname

theorem mentioned_subset_of_suffix {text text' : List Char} (h : text <:+ text') :
    mentioned text ⊆ mentioned text' := by
  obtain ⟨before, rfl⟩ := h
  induction before with
  | nil => exact fun _ hname => hname
  | cons c before ih => exact fun _ hname => mentioned_subset_cons c _ (ih hname)

theorem Mode.mem_names_variable (quoted : Bool) (name rest : List Char) :
    String.ofList (name ++ rest.takeWhile Text.isAlphanumeric) ∈
      (Mode.variable quoted name).names rest := by
  cases name <;> exact List.mem_cons_self ..

theorem Mode.names_variable_of_ne_nil {name : List Char} (h : name ≠ []) (quoted : Bool)
    (rest : List Char) : (Mode.variable quoted name).names rest =
      [String.ofList (name ++ rest.takeWhile Text.isAlphanumeric)] := by
  cases name with
  | nil => exact absurd rfl h
  | cons => rfl

/-- One more character of a name without braces. -/
theorem Mode.names_variable_concat_subset {c : Char} (hc : Text.isAlphanumeric c = true)
    (quoted : Bool) (name rest : List Char) :
    (Mode.variable quoted (name ++ [c])).names rest ⊆
      (Mode.variable quoted name).names (c :: rest) := by
  rw [names_variable_of_ne_nil (by simp), List.cons_subset, List.append_assoc,
    List.singleton_append, ← List.takeWhile_cons_of_pos hc]
  exact ⟨mem_names_variable quoted name (c :: rest), List.nil_subset _⟩

/-- One more character of a name in braces. -/
theorem Mode.names_braced_concat {c : Char} (hc : ¬ (c == '\x7d') = true) (quoted : Bool)
    (name rest : List Char) :
    (Mode.braced quoted (name ++ [c])).names rest =
      (Mode.braced quoted name).names (c :: rest) := by
  rw [names, names, List.append_assoc, List.singleton_append,
    List.takeWhile_cons_of_pos (by simpa using hc)]

/-- Two environments give the same value to a text, wherever its reading stands, if they agree on
the names that it is in the middle of. -/
def ReadAlike (env env' : Environment) (text : List Char) : Prop :=
  ∀ output mode, AgreesOn (mode.names text) env env' →
    value? env output mode text = value? env' output mode text

variable {env env' : Environment} {c : Char} {rest : List Char}

/-- Reading goes on alike where it is not in the middle of a name. -/
theorem ReadAlike.goesOn (h : ReadAlike env env' rest) (output : List Char) (mode : Mode)
    (hmode : mode.names rest = []) :
    value? env output mode rest = value? env' output mode rest := by
  refine h output mode ?_
  rw [hmode]
  exact fun _ hname => absurd hname List.not_mem_nil

/-- After a dollar sign a name begins, which is mentioned. -/
theorem ReadAlike.of_dollar (h : ReadAlike env env' rest)
    (hmentioned : AgreesOn (mentioned (c :: rest)) env env') (hc : (c == '$') = true)
    (output : List Char) (quoted : Bool) :
    value? env output (.variable quoted []) rest =
      value? env' output (.variable quoted []) rest := by
  rw [eq_of_beq hc, mentioned_dollar quoted] at hmentioned
  exact h output _ (hmentioned.mono (List.subset_append_left ..))

theorem ReadAlike.text (h : ReadAlike env env' rest)
    (hmentioned : AgreesOn (mentioned (c :: rest)) env env') (output : List Char) (quoted : Bool) :
    value? env output (.text quoted) (c :: rest) =
      value? env' output (.text quoted) (c :: rest) := by
  have hescape := fun output => h.goesOn output (.escape quoted) rfl
  have htext := fun output quoted => h.goesOn output (.text quoted) rfl
  have hsingle := fun output => h.goesOn output .single rfl
  have hdone := fun output => h.goesOn output .done rfl
  rw [value?, value?]
  split
  · next hc => exact h.of_dollar hmentioned hc output quoted
  · simp only [hescape, htext, hsingle, hdone]

theorem ReadAlike.braced (h : ReadAlike env env' rest) {quoted : Bool} {name : List Char}
    (hnames : AgreesOn ((Mode.braced quoted name).names (c :: rest)) env env')
    (output : List Char) :
    value? env output (.braced quoted name) (c :: rest) =
      value? env' output (.braced quoted name) (c :: rest) := by
  rw [value?, value?]
  split
  · next hc =>
    have hname := hnames _ (List.mem_cons_self ..)
    rw [List.takeWhile_cons_of_neg (by simpa using hc), List.append_nil] at hname
    rw [hname]
    exact h.goesOn _ (.text quoted) rfl
  · next hc =>
    rw [← Mode.names_braced_concat hc] at hnames
    exact h output _ hnames

theorem ReadAlike.variable (h : ReadAlike env env' rest)
    (hmentioned : AgreesOn (mentioned (c :: rest)) env env') {quoted : Bool} {name : List Char}
    (hnames : AgreesOn ((Mode.variable quoted name).names (c :: rest)) env env')
    (output : List Char) :
    value? env output (.variable quoted name) (c :: rest) =
      value? env' output (.variable quoted name) (c :: rest) := by
  rw [value?, value?]
  split
  · next hc => exact h output _ (hnames.mono (Mode.names_variable_concat_subset hc ..))
  · next hc =>
    have hname := hnames _ (Mode.mem_names_variable quoted name (c :: rest))
    rw [List.takeWhile_cons_of_neg hc, List.append_nil] at hname
    split
    · next hbrace =>
      have hempty : name = [] := List.isEmpty_iff.mp (Bool.and_eq_true_iff.mp hbrace).2
      subst hempty
      exact h output (.braced quoted []) (hnames.mono (List.subset_cons_self ..))
    · rw [hname]
      dsimp only
      split
      · next hc => exact h.of_dollar hmentioned hc _ quoted
      · exact h.goesOn _ (.text quoted) rfl

/-- **A value refers to the names that it mentions.** -/
theorem readAlike_of_mentioned {text : List Char} (h : AgreesOn (mentioned text) env env') :
    ReadAlike env env' text := by
  induction text with
  | nil =>
    intro output mode hnames
    match mode, hnames with
    | .variable false name, hnames =>
      have hname := hnames _ (Mode.mem_names_variable false name [])
      rw [List.takeWhile_nil, List.append_nil] at hname
      rw [value?, value?, hname]
    | .variable true _, _ | .braced .., _ | .single, _ | .done, _ | .text true, _ | .text false, _
    | .escape true, _ | .escape false, _ => rfl
  | cons c rest ih =>
    have hrest := ih (h.mono (mentioned_subset_cons c rest))
    have htext := fun output quoted => hrest.goesOn output (.text quoted) rfl
    have hsingle := fun output => hrest.goesOn output .single rfl
    have hdone := fun output => hrest.goesOn output .done rfl
    intro output mode hnames
    match mode, hnames with
    | .text quoted, _ => exact hrest.text h output quoted
    | .variable quoted name, hnames => exact hrest.variable h hnames output
    | .braced quoted name, hnames => exact hrest.braced hnames output
    | .single, _ => simp only [value?, htext, hsingle]
    | .escape quoted, _ => simp only [value?, htext]
    | .done, _ => simp only [value?, hdone]

theorem suffix_trimStart (text : List Char) : Text.trimStart text <:+ text :=
  List.dropWhile_suffix _

theorem suffix_of_name? {text name rest : List Char} (h : name? text = some (name, rest)) :
    rest <:+ text := by
  cases text with
  | nil => cases h
  | cons c text =>
    rw [name?] at h
    split at h
    · rw [Option.some.injEq, List.span_eq_takeWhile_dropWhile] at h
      rw [← (Prod.mk.inj h).2]
      exact List.dropWhile_suffix _
    · cases h

theorem suffix_of_afterEqual? {text rest : List Char} (h : afterEqual? text = some rest) :
    rest <:+ text := by
  rw [afterEqual?.eq_def] at h
  split at h
  · cases h
    exact List.suffix_cons ..
  · cases h

/-- What a variable is set to stands at the end of the line. -/
theorem suffix_of_target? {line name rest : List Char}
    (h : target? line = some (some (name, rest))) : rest <:+ Text.trimEnd line := by
  rw [target?] at h
  split at h
  · cases h
  · obtain ⟨⟨first, afterFirst⟩, hfirst, h⟩ := Option.bind_eq_some_iff.mp h
    have hrest := (suffix_trimStart afterFirst).trans
      ((suffix_of_name? hfirst).trans (suffix_trimStart (Text.trimEnd line)))
    dsimp only at h
    split at h
    · next value hvalue =>
      cases h
      exact (suffix_trimStart value).trans ((suffix_of_afterEqual? hvalue).trans hrest)
    · split at h
      · obtain ⟨⟨second, afterSecond⟩, hsecond, h⟩ := Option.bind_eq_some_iff.mp h
        obtain ⟨value, hvalue, h⟩ := Option.bind_eq_some_iff.mp h
        cases h
        have hsuffix := (suffix_trimStart afterSecond).trans (suffix_of_name? hsecond)
        exact (suffix_trimStart value).trans
          ((suffix_of_afterEqual? hvalue).trans (hsuffix.trans hrest))
      · cases h

/-- **A line refers to the names that it mentions.** -/
theorem assignment?_congr {line : List Char}
    (h : AgreesOn (mentioned (Text.trimEnd line)) env env') :
    assignment? env line = assignment? env' line := by
  rw [assignment?, assignment?]
  cases htarget : target? line with
  | none => rfl
  | some target =>
    match target with
    | none => rfl
    | some (name, rest) =>
      have hsub := mentioned_subset_of_suffix (suffix_of_target? htarget)
      have hvalue : value? env [] (.text false) rest = value? env' [] (.text false) rest :=
        (readAlike_of_mentioned (h.mono hsub)).goesOn [] (.text false) rfl
      simp only [bind, Option.bind, hvalue]

theorem agreesOn_setAll {names : List String} {lines : List (Option (List Char))}
    (h : AgreesOn names env env')
    (hlines : ∀ line ∈ lines, mentioned (Text.trimEnd (line.getD [])) ⊆ names) :
    AgreesOn names (setAll env lines) (setAll env' lines) := by
  induction lines generalizing env env' with
  | nil => exact h
  | cons line rest ih =>
    cases line with
    | none => exact h
    | some line =>
      have hrest := fun other hother => hlines other (List.mem_cons_of_mem _ hother)
      have hline : mentioned (Text.trimEnd line) ⊆ names := hlines _ (List.mem_cons_self ..)
      rw [setAll, setAll, assignment?_congr (h.mono hline)]
      split
      · exact h
      · exact ih h hrest
      · next name value _ => exact ih (h.withDefault name value) hrest

end DotFile

/-- **A dot file refers to the variables that it mentions.** -/
theorem Environment.AgreesOn.withDotFile {env env' : Environment} {names : List String}
    {text : String} (h : AgreesOn names env env') (htext : DotFile.names text ⊆ names) :
    AgreesOn names (env.withDotFile text) (env'.withDotFile text) := by
  refine DotFile.agreesOn_setAll h fun line hline name hname => ?_
  exact htext (List.mem_flatMap.mpr ⟨line, hline, hname⟩)

namespace Command

open Environment (AgreesOn)

/-! ## The dot file of a run -/

variable {files : Files} {directory path : Path}

/-- A variable that is set keeps its value. -/
theorem value?_withDotFile {env : Environment} {name value : String}
    (h : env.value? name = some value) (files : Files) (directory : Path) :
    (withDotFile files directory env).value? name = some value := by
  rw [withDotFile]
  cases dotFileText? files directory with
  | none => exact h
  | some text => exact Environment.value?_withDotFile h text

/-! ## The variables that a run looks at -/

variable {env env' : Environment}

theorem parse_congr (h : AgreesOn settingNames env env') (list : List String) :
    Arguments.parse env list = Arguments.parse env' list := by
  rw [Arguments.parse, Arguments.parse, h "TEXTLINT_CONFIG" (by decide)]

theorem ofEnvironment_congr (h : AgreesOn settingNames env env') :
    Config.ofEnvironment env = Config.ofEnvironment env' := by
  rw [Config.ofEnvironment, Config.ofEnvironment, Naming.ofEnvironment, Naming.ofEnvironment,
    h.setting?_eq "TEXTLINT_RULE_PREFIX" (by decide),
    h.setting?_eq "TEXTLINT_PLUGIN_PREFIX" (by decide),
    h.setting?_eq "TEXTLINT_RULES_BASE_DIRECTORY" (by decide)]

theorem runArguments_congr (h : AgreesOn settingNames env env') (workingDirectory : Path)
    (arguments : Arguments) :
    runArguments files env workingDirectory arguments =
      runArguments files env' workingDirectory arguments := by
  have hconfig : config files env arguments = config files env' arguments := by
    simp only [config, Config.loadRc, ofEnvironment_congr h]
  rw [runArguments, runArguments, hconfig]

theorem agreesOn_withDotFile {workingDirectory : Path}
    (h : AgreesOn (variableNames files workingDirectory) env env') :
    AgreesOn (variableNames files workingDirectory) (withDotFile files workingDirectory env)
      (withDotFile files workingDirectory env') := by
  rw [variableNames] at h ⊢
  rw [withDotFile, withDotFile]
  generalize dotFileText? files workingDirectory = text? at h ⊢
  cases text? with
  | none => exact h
  | some text => exact h.withDotFile (List.subset_append_right ..)

/-- **A run depends on the variables that it looks at**, which are its settings and those that the
dot file mentions. -/
theorem run_congr {workingDirectory : Path}
    (h : AgreesOn (variableNames files workingDirectory) env env') (list : List String) :
    run files env workingDirectory list = run files env' workingDirectory list := by
  have hsettings := (agreesOn_withDotFile h).mono (List.subset_append_left ..)
  rw [run, run, parse_congr hsettings list]
  split
  · rfl
  · rfl
  · rfl
  · next arguments _ => exact runArguments_congr hsettings workingDirectory arguments

end Command
end LintRules
