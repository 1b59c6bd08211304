import LintRules.Environment
import LintRules.Text.Alphanumeric
import LintRules.Text.Blank

/-!
# Variables from a dot file

A dot file sets variables that are not set yet, one `NAME=value` on a line; `export` may stand
before the name, and `#` begins a comment after a blank.  A value may be quoted.  Between double
quotes and without quotes a backslash escapes the next character, and `$NAME` and `${NAME}`
stand for the value that the variable has by then.  A quote or a backslash at the end of a line
continues it on the next one.

Reading stops at the first line that is not well formed; what the lines before it set remains.
`Environment.withDotFile` is the environment after reading a file, and `DotFile.names` the names of
the variables that a value of the file may refer to.
-/

namespace LintRules
namespace DotFile

/-! ## Lines -/

/-- What the end of a line would cut through. -/
inductive Openness where
  | closed
  /-- After a blank, where a comment may begin. -/
  | blank
  | escape
  | single
  | singleEscape
  | double
  | doubleEscape
  deriving DecidableEq, Repr

/-- The state after an unquoted character. -/
def Openness.after (c : Char) : Openness :=
  if c == '\\' then .escape
  else if c == '"' then .double
  else if c == '\'' then .single
  else .closed

/-- The state after one more character; `none` where a comment begins. -/
def Openness.next? : Openness → Char → Option Openness
  | .blank, c => if c == '#' then none else some (.after c)
  | .closed, c =>
    if Text.isBlank c && c != '\n' && c != '\r' then some .blank else some (.after c)
  | .escape, _ => some .closed
  | .double, c => some (if c == '\\' then .doubleEscape else if c == '"' then .closed else .double)
  | .doubleEscape, _ => some .double
  | .single, c =>
    some (if c == '\\' then .singleEscape else if c == '\'' then .closed else .single)
  | .singleEscape, _ => some .single

/-- A line up to a comment, and the state at its end unless a comment was met. -/
def scanLine (state : Openness) : List Char → List Char × Option Openness
  | [] => ([], some state)
  | c :: rest =>
    match state.next? c with
    | none => ([], none)
    | some state =>
      let (kept, final) := scanLine state rest
      (c :: kept, final)

/-- The lines of a text with their line feeds. -/
def textLines : List Char → List (List Char)
  | [] => []
  | c :: rest =>
    if c == '\n' then [c] :: textLines rest
    else
      match textLines rest with
      | [] => [[c]]
      | line :: more => (c :: line) :: more

/-- Removes a line feed from the end, and a carriage return before it. -/
def dropLineEnd (line : List Char) : List Char :=
  match line.reverse with
  | '\n' :: '\r' :: rest => rest.reverse
  | '\n' :: rest => rest.reverse
  | _ => line

/-- Joins lines that continue on the next one; `none` stands for a line that is not finished at
the end of the text. -/
def entries (state : Openness) (before : List Char) :
    List (List Char) → List (Option (List Char))
  | [] => if state = .closed then [] else [none]
  | line :: rest =>
    let whole := before ++ line
    if (Text.trimStart whole).head? == some '#' then some [] :: entries .closed [] rest
    else
      match scanLine state line with
      | (kept, none) => some (before ++ kept) :: entries .closed [] rest
      | (_, some .closed) => some (dropLineEnd whole) :: entries .closed [] rest
      | (_, some state) => entries state whole rest

/-- The lines of the text of a dot file, those that continue on the next one joined.  A byte order
mark at the beginning is not part of the text. -/
def lines (text : String) : List (Option (List Char)) :=
  let chars := text.toList
  let chars := if chars.head? == some '\ufeff' then chars.drop 1 else chars
  entries .closed [] (textLines chars)

/-! ## Values -/

/-- Where the reading of a value stands; `quoted` is whether double quotes are open. -/
inductive Mode where
  | text (quoted : Bool)
  | single
  | escape (quoted : Bool)
  | variable (quoted : Bool) (name : List Char)
  | braced (quoted : Bool) (name : List Char)
  /-- After an unquoted blank; only a comment may follow. -/
  | done

/-- The character that an escape stands for. -/
def escaped? (c : Char) : Option Char :=
  if c == '\\' || c == '\'' || c == '"' || c == '$' || c == ' ' then some c
  else if c == 'n' then some '\n'
  else none

/-- The text of a value.  `output` is what has been read of it. -/
def value? (env : Environment) (output : List Char) : Mode → List Char → Option (List Char)
  | .single, [] | .braced .., [] | .text true, [] | .escape true, [] | .variable true _, [] =>
    none
  | .variable false name, [] =>
    some (output ++ ((env.value? (String.ofList name)).getD "").toList)
  | .text false, [] | .escape false, [] | .done, [] => some output
  | .done, c :: rest =>
    if c == ' ' || c == '\t' then value? env output .done rest
    else if c == '#' then some output
    else none
  | .escape quoted, c :: rest =>
    match escaped? c with
    | some e => value? env (output ++ [e]) (.text quoted) rest
    | none => none
  | .single, c :: rest =>
    if c == '\'' then value? env output (.text false) rest
    else value? env (output ++ [c]) .single rest
  | .variable quoted name, c :: rest =>
    if Text.isAlphanumeric c then value? env output (.variable quoted (name ++ [c])) rest
    else if c == '\x7b' && name.isEmpty then value? env output (.braced quoted []) rest
    else
      let output := output ++ ((env.value? (String.ofList name)).getD "").toList
      if c == '$' then value? env output (.variable quoted []) rest
      else value? env (output ++ [c]) (.text quoted) rest
  | .braced quoted name, c :: rest =>
    if c == '\x7d' then
      value? env (output ++ ((env.value? (String.ofList name)).getD "").toList) (.text quoted) rest
    else value? env output (.braced quoted (name ++ [c])) rest
  | .text quoted, c :: rest =>
    if c == '$' then value? env output (.variable quoted []) rest
    else if c == '\\' then value? env output (.escape quoted) rest
    else if quoted then
      if c == '"' then value? env output (.text false) rest
      else value? env (output ++ [c]) (.text true) rest
    else if c == '\'' then value? env output .single rest
    else if c == '"' then value? env output (.text true) rest
    else if c == ' ' || c == '\t' then value? env output .done rest
    else value? env (output ++ [c]) (.text false) rest

/-- The names that a text mentions: what follows a dollar sign, read without braces and as if there
were braces. -/
def mentioned : List Char → List String
  | [] => []
  | c :: rest =>
    if c == '$' then
      String.ofList (rest.takeWhile Text.isAlphanumeric) ::
        String.ofList ((rest.drop 1).takeWhile (· != '\x7d')) :: mentioned rest
    else mentioned rest

/-- The names that the lines of a dot file mention. -/
def names (text : String) : List String :=
  (lines text).flatMap fun line => mentioned (Text.trimEnd (line.getD []))

/-! ## Assignments -/

/-- The name of a variable and what follows it. -/
def name? (text : List Char) : Option (List Char × List Char) :=
  match text with
  | [] => none
  | c :: _ =>
    if c.isAlpha || c == '_' then
      some (text.span fun d => d.isAlphanum || d == '_' || d == '.')
    else none

/-- What follows an equality sign. -/
def afterEqual? : List Char → Option (List Char)
  | '=' :: rest => some rest
  | _ => none

/-- What a line sets and to what text, or `some none` for a line without an assignment. -/
def target? (line : List Char) : Option (Option (List Char × List Char)) := do
  let line := Text.trimStart (Text.trimEnd line)
  if line.isEmpty || line.head? == some '#' then return none
  let (name, rest) ← name? line
  let rest := Text.trimStart rest
  match afterEqual? rest with
  | some rest => return some (name, Text.trimStart rest)
  | none =>
    if name == "export".toList then do
      let (name, rest) ← name? rest
      let rest ← afterEqual? (Text.trimStart rest)
      return some (name, Text.trimStart rest)
    else none

/-- A line that sets a variable: its name and value, or `some none` for a line without an
assignment. -/
def assignment? (env : Environment) (line : List Char) : Option (Option (String × String)) := do
  match ← target? line with
  | none => return none
  | some (name, rest) =>
    if rest.head? == some '#' then return some (String.ofList name, "")
    let value ← value? env [] (.text false) rest
    return some (String.ofList name, String.ofList value)

/-- Sets the variables of lines up to the first one that is not well formed. -/
def setAll (env : Environment) : List (Option (List Char)) → Environment
  | some line :: rest =>
    match assignment? env line with
    | none => env
    | some none => setAll env rest
    | some (some (name, value)) => setAll (env.withDefault name value) rest
  | _ => env

end DotFile

/-- The environment after reading the text of a dot file. -/
def Environment.withDotFile (env : Environment) (text : String) : Environment :=
  DotFile.setAll env (DotFile.lines text)

/-- Reading a dot file never changes a variable that is set. -/
theorem Environment.value?_withDotFile {env : Environment} {name value : String}
    (h : env.value? name = some value) (text : String) :
    (env.withDotFile text).value? name = some value := by
  suffices ∀ (lines : List (Option (List Char))) (env : Environment),
      env.value? name = some value → (DotFile.setAll env lines).value? name = some value from
    this _ _ h
  intro lines
  induction lines with
  | nil => exact fun _ h => h
  | cons line rest ih =>
    intro env h
    cases line with
    | none => exact h
    | some line =>
      rw [DotFile.setAll]
      split
      · exact h
      · exact ih env h
      · next other value' _ =>
        apply ih
        by_cases hn : name = other
        · subst hn
          rw [withDefault_of_isSome (by rw [h]; rfl)]
          exact h
        · rw [value?_withDefault_of_ne env value' hn]
          exact h

end LintRules
