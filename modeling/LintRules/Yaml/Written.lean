import LintRules.Yaml.Token.Stream

/-!
# YAML nodes as they are written

The tokens of a text form nodes: scalars, sequences, mappings and aliases, each with the anchor
and the tag written before it.  A node that is left out where one is due is an empty plain scalar.

Tags are completed here: the handle of a tag stands for what a tag directive gives it, or for what
it stands for without one.

`Written.ofText?` is the root of a text with one document, and `none` for a text that is not well
formed or has more documents.
-/

namespace LintRules
namespace Yaml

/-- The anchor and the tag of a node. -/
structure Marks (ν : Type) where
  anchor : Option ν := none
  tag : Option Tag := none
  deriving DecidableEq, Repr, Inhabited

/-- A node as it is written, with anchors and aliases of type `ν`. -/
inductive Written (ν : Type) where
  | scalar (marks : Marks ν) (text : String) (plain : Bool)
  | seq (marks : Marks ν) (items : List (Written ν))
  | map (marks : Marks ν) (entries : List (Written ν × Written ν))
  | alias (name : ν)
  deriving Inhabited

namespace Written

/-- What stands where a node is left out. -/
def missing {ν : Type} : Written ν := .scalar {} "" true

/-! ## Directives and tags -/

/-- What the handles of tags stand for. -/
abbrev Handles := List (String × Tag)

/-- The handles that need no directive. -/
def standardHandles : Handles := [("!", .bare), ("!!", .ofText "tag:yaml.org,2002:")]

/-- The tag of a handle and a suffix; `none` for a handle that stands for nothing. -/
def completeTag? (handles : Handles) (handle : String) (suffix : Tag) : Option Tag :=
  if handle = "" then some suffix
  else (handles.find? (·.1 == handle)).map fun h => h.2 ++ suffix

/-- The directives before a document: at most one version, which is 1.1 or 1.2, and at most one
text for each handle. -/
def directives? (versionGiven : Bool) (handles : Handles) :
    List Token → Option (Handles × List Token)
  | .versionDirective major minor :: rest =>
    if versionGiven || major ≠ 1 || (minor ≠ 1 && minor ≠ 2) then none
    else directives? true handles rest
  | .tagDirective handle lead :: rest =>
    if handles.any (·.1 == handle) then none
    else directives? versionGiven (handles ++ [(handle, lead)]) rest
  | rest => some (handles, rest)

/-- The anchor and the tag before a node, in either order. -/
def marks? (handles : Handles) : List Token → Option (Marks String × List Token)
  | .anchor name :: .tag handle suffix :: rest => do
    some (⟨some name, some (← completeTag? handles handle suffix)⟩, rest)
  | .anchor name :: rest => some (⟨some name, none⟩, rest)
  | .tag handle suffix :: .anchor name :: rest => do
    some (⟨some name, some (← completeTag? handles handle suffix)⟩, rest)
  | .tag handle suffix :: rest => do
    some (⟨none, some (← completeTag? handles handle suffix)⟩, rest)
  | rest => some ({}, rest)

/-! ## Nodes -/

/-- Whether no node follows the indicator of an item or a key of a block collection. -/
def endsBlockItem (indentless : Bool) : List Token → Bool
  | .blockEntry :: _ | .blockEnd :: _ => true
  | .key :: _ | .value :: _ => indentless
  | _ => false

/-- Whether no node follows the indicator of a key or a value of a block mapping. -/
def endsBlockField : List Token → Bool
  | .key :: _ | .value :: _ | .blockEnd :: _ => true
  | _ => false

/-- Whether no node follows an indicator between the given brackets. -/
def endsFlowField (close : Token) : List Token → Bool
  | .flowEntry :: _ => true
  | t :: _ => t == close
  | [] => false

mutual

/-- A node.  `block` tells whether a block collection may begin here, and `indentless` whether a
block sequence may begin without being indented.  Every call passes on fewer tokens or leaves
out a node, so that `fuel` of some times the number of tokens never runs out. -/
def node? (handles : Handles) (fuel : Nat) (block indentless : Bool) (tokens : List Token) :
    Option (Written String × List Token) :=
  match fuel with
  | 0 => none
  | fuel + 1 =>
    match tokens with
    | .alias name :: rest => some (.alias name, rest)
    | tokens => do
      let (marks, rest) ← marks? handles tokens
      match rest with
      | .blockEntry :: _ =>
        if indentless then
          let (items, rest) ← blockItems? handles fuel true rest
          some (.seq marks items, rest)
        else bare? marks rest
      | .scalar text plain :: rest => some (.scalar marks text plain, rest)
      | .flowSequenceStart :: rest =>
        let (items, rest) ← flowItems? handles fuel true rest
        some (.seq marks items, rest)
      | .flowMappingStart :: rest =>
        let (entries, rest) ← flowEntries? handles fuel true rest
        some (.map marks entries, rest)
      | .blockSequenceStart :: rest =>
        if block then
          let (items, rest) ← blockItems? handles fuel false rest
          some (.seq marks items, rest)
        else bare? marks (.blockSequenceStart :: rest)
      | .blockMappingStart :: rest =>
        if block then
          let (entries, rest) ← blockEntries? handles fuel rest
          some (.map marks entries, rest)
        else bare? marks (.blockMappingStart :: rest)
      | rest => bare? marks rest

/-- An anchor or a tag without a node. -/
def bare? (marks : Marks String) (rest : List Token) : Option (Written String × List Token) :=
  if marks.anchor.isNone && marks.tag.isNone then none else some (.scalar marks "" true, rest)

/-- The items of a block sequence up to its end. -/
def blockItems? (handles : Handles) (fuel : Nat) (indentless : Bool) (tokens : List Token) :
    Option (List (Written String) × List Token) :=
  match fuel, tokens with
  | 0, _ => none
  | fuel + 1, .blockEntry :: rest => do
    let (item, rest) ←
      if endsBlockItem indentless rest then some (missing, rest)
      else node? handles fuel true false rest
    let (items, rest) ← blockItems? handles fuel indentless rest
    some (item :: items, rest)
  | _ + 1, .blockEnd :: rest => some ([], if indentless then .blockEnd :: rest else rest)
  | _ + 1, rest => if indentless then some ([], rest) else none

/-- The entries of a block mapping up to its end. -/
def blockEntries? (handles : Handles) (fuel : Nat) (tokens : List Token) :
    Option (List (Written String × Written String) × List Token) :=
  match fuel, tokens with
  | fuel + 1, .key :: rest => do
    let (key, rest) ←
      if endsBlockField rest then some (missing, rest) else node? handles fuel true true rest
    let (value, rest) ← match rest with
      | .value :: rest =>
        if endsBlockField rest then some (missing, rest) else node? handles fuel true true rest
      | rest => some (missing, rest)
    let (entries, rest) ← blockEntries? handles fuel rest
    some ((key, value) :: entries, rest)
  | _ + 1, .blockEnd :: rest => some ([], rest)
  | _, _ => none

/-- The items between brackets.  A key among them stands for a mapping of one entry; a key that is
left out takes the token after it along. -/
def flowItems? (handles : Handles) (fuel : Nat) (first : Bool) (tokens : List Token) :
    Option (List (Written String) × List Token) :=
  match fuel with
  | 0 => none
  | fuel + 1 => do
    let rest ← match tokens with
      | .flowSequenceEnd :: _ => some tokens
      | .flowEntry :: rest => if first then some tokens else some rest
      | _ => if first then some tokens else none
    match rest with
    | .flowSequenceEnd :: rest => some ([], rest)
    | .key :: rest =>
      let (key, rest) ←
        if endsFlowField .flowSequenceEnd rest || rest.head? == some .value then
          some (missing, rest.drop 1)
        else node? handles fuel false false rest
      let (value, rest) ← flowValue? handles fuel .flowSequenceEnd rest
      let (items, rest) ← flowItems? handles fuel false rest
      some (.map {} [(key, value)] :: items, rest)
    | rest =>
      let (item, rest) ← node? handles fuel false false rest
      let (items, rest) ← flowItems? handles fuel false rest
      some (item :: items, rest)

/-- The entries between braces. -/
def flowEntries? (handles : Handles) (fuel : Nat) (first : Bool) (tokens : List Token) :
    Option (List (Written String × Written String) × List Token) :=
  match fuel with
  | 0 => none
  | fuel + 1 => do
    let rest ← match tokens with
      | .flowMappingEnd :: _ => some tokens
      | .flowEntry :: rest => if first then some tokens else some rest
      | _ => if first then some tokens else none
    match rest with
    | .flowMappingEnd :: rest => some ([], rest)
    | .key :: rest =>
      let (key, rest) ← match rest with
        | .value :: _ => some (missing, rest)
        | rest =>
          if endsFlowField .flowMappingEnd rest then some (missing, rest)
          else node? handles fuel false false rest
      let (value, rest) ← flowValue? handles fuel .flowMappingEnd rest
      let (entries, rest) ← flowEntries? handles fuel false rest
      some ((key, value) :: entries, rest)
    | rest =>
      let (key, rest) ← node? handles fuel false false rest
      let (entries, rest) ← flowEntries? handles fuel false rest
      some ((key, missing) :: entries, rest)

/-- The value after a key between brackets or braces. -/
def flowValue? (handles : Handles) (fuel : Nat) (close : Token) (tokens : List Token) :
    Option (Written String × List Token) :=
  match fuel, tokens with
  | 0, _ => none
  | fuel + 1, .value :: rest =>
    if endsFlowField close rest then some (missing, rest)
    else node? handles fuel false false rest
  | _ + 1, rest => some (missing, rest)

end

/-! ## Documents -/

/-- The root of a stream of one document; `some none` when there is no document. -/
def ofTokens? (tokens : List Token) : Option (Option (Written String)) := do
  let fuel := 4 * tokens.length + 4
  match tokens with
  | [] => some none
  | .documentStart :: _ | .versionDirective .. :: _ | .tagDirective .. :: _ =>
    let (given, rest) ← directives? false [] tokens
    match rest with
    | .documentStart :: rest =>
      let (root, rest) ← match rest with
        | [] | .documentStart :: _ | .documentEnd :: _ | .versionDirective .. :: _
        | .tagDirective .. :: _ => some (missing, rest)
        | rest => node? (given ++ standardHandles) fuel true false rest
      if rest.all (· == .documentEnd) then some (some root) else none
    | _ => none
  | tokens =>
    let (root, rest) ← node? standardHandles fuel true false tokens
    if rest.all (· == .documentEnd) then some (some root) else none

/-- The root of the only document in a text; `some none` when the text is empty. -/
def ofText? (text : String) : Option (Option (Written String)) := do
  ofTokens? (← Token.ofText? text)

end Written
end Yaml
end LintRules
