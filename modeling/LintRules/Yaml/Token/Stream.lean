import LintRules.Yaml.Token
import LintRules.Yaml.Token.Scalars

/-!
# The tokens of a YAML text

Reading tokens from left to right needs some memory, which is a `Stream`.

* **Indentation.**  `indents` holds the columns of the open block collections, the innermost
  first.  Something further right opens a collection, something further left closes those to the
  right of it.
* **Keys.**  That a scalar is a mapping key is known only when the colon after it is met.  What
  may still turn out to be a key is `pending`, one for every open bracket or brace, with the
  number of tokens before it; the colon inserts the key token there.  A pending key is dropped
  when its line ends or after 1024 octets, which is an error where a key was `required`.
* **Places for keys.**  `keyAllowed` tells whether a key may begin here; in block collections it
  may after a line break and after an indicator.

`Token.ofText?` is the list of all tokens, or `none` for a text that is not well formed.
-/

namespace LintRules
namespace Yaml

/-- Something that may turn out to be a mapping key. -/
structure PendingKey where
  /-- Nothing but a key may stand there. -/
  required : Bool
  /-- The number of tokens before it. -/
  position : Nat
  /-- Where it begins. -/
  start : Cursor

/-- The state of reading tokens. -/
structure Stream where
  cursor : Cursor
  /-- The tokens read, the last one first. -/
  tokens : List Token := []
  /-- The number of tokens read. -/
  count : Nat := 0
  /-- The columns of the open block collections, the innermost first, and `-1` at the end. -/
  indents : List Int := [-1]
  /-- Whether a key may begin here. -/
  keyAllowed : Bool := true
  /-- The pending key between the innermost brackets. -/
  pending : Option PendingKey := none
  /-- The pending keys between the brackets around those. -/
  outer : List (Option PendingKey) := []

namespace Stream

/-- Whether brackets or braces are open. -/
def inFlow (s : Stream) : Bool := !s.outer.isEmpty

/-- The column of the innermost block collection. -/
def indent (s : Stream) : Int := s.indents.headD (-1)

/-- Appends a token. -/
def emit (t : Token) (s : Stream) : Stream :=
  { s with tokens := t :: s.tokens, count := s.count + 1 }

/-- Inserts tokens behind the first `position` ones. -/
def emitAt (position : Nat) (ts : List Token) (s : Stream) : Stream :=
  let later := s.count - position
  { s with
    tokens := s.tokens.take later ++ (ts.reverse ++ s.tokens.drop later)
    count := s.count + ts.length }

/-! ## Blanks, comments and line breaks -/

/-- Moves to the next token.  A byte order mark may begin a line; it takes up one column. -/
def skipGap (fuel : Nat) (s : Stream) : Stream :=
  match fuel with
  | 0 => s
  | fuel + 1 =>
    let c :=
      if s.cursor.column == 0 && s.cursor.sees '\ufeff' then s.cursor.skip 1 else s.cursor
    let tabs := s.inFlow || !s.keyAllowed
    let c := (c.span fun d => d == ' ' || (tabs && d == '\t')).2
    let c := if c.sees '#' then c.skipLine else c
    if c.atBreak then
      skipGap fuel { s with cursor := c.takeBreak.2, keyAllowed := s.keyAllowed || !s.inFlow }
    else { s with cursor := c }

/-! ## Pending keys -/

/-- A pending key that may still become one, seen from the cursor. -/
def PendingKey.isFresh (key : PendingKey) (c : Cursor) : Bool :=
  key.start.line == c.line && c.index ≤ key.start.index + 1024

/-- Drops a pending key that has become too old; `none` when it was required. -/
def refresh? (c : Cursor) : Option PendingKey → Option (Option PendingKey)
  | none => some none
  | some key =>
    if PendingKey.isFresh key c then some (some key)
    else if key.required then none
    else some none

/-- Drops the pending keys that have become too old. -/
def dropStale? (s : Stream) : Option Stream := do
  let pending ← refresh? s.cursor s.pending
  let outer ← s.outer.mapM (refresh? s.cursor)
  some { s with pending, outer }

/-- Gives up the pending key; `none` when it was required. -/
def forgetKey? (s : Stream) : Option Stream :=
  if s.pending.any (·.required) then none else some { s with pending := none }

/-- Remembers what comes next as a pending key. -/
def rememberKey? (s : Stream) : Option Stream :=
  if s.keyAllowed then do
    let s ← s.forgetKey?
    let required := !s.inFlow && s.indent == s.cursor.column
    some { s with pending := some ⟨required, s.count, s.cursor⟩ }
  else some s

/-! ## Indentation -/

/-- The columns of the block collections that stay open at a column, and the ends of those to the
right of it. -/
def closeAbove (column : Int) : List Int → List Int × List Token
  | [] => ([], [])
  | i :: rest =>
    if column < i then
      let (kept, ends) := closeAbove column rest
      (kept, .blockEnd :: ends)
    else (i :: rest, [])

/-- Closes the block collections to the right of a column; between brackets there are none. -/
def unindent (column : Int) (s : Stream) : Stream :=
  if s.inFlow then s
  else
    let (indents, ends) := closeAbove column s.indents
    { s with indents, tokens := ends ++ s.tokens, count := s.count + ends.length }

/-- Opens a block collection at a column if none is open there. -/
def openBlock (start : Token) (column : Nat) (position : Nat) (s : Stream) : Stream :=
  if s.inFlow || (column : Int) ≤ s.indent then s
  else emitAt position [start] { s with indents := (column : Int) :: s.indents }

/-! ## Directives -/

/-- A number of a version directive; it has at most nine digits. -/
def versionNumber? (c : Cursor) : Option (Nat × Cursor) :=
  let (digits, c) := c.span Char.isDigit
  if digits.isEmpty || 9 < digits.length then none
  else some (digits.foldl (fun n d => n * 10 + (d.toNat - '0'.toNat)) 0, c)

/-- A directive, with the cursor at its `%`. -/
def directive? (c : Cursor) : Option (Token × Cursor) := do
  let (name, c) := (c.skip 1).span isWordChar
  if name.isEmpty || !c.gapAhead 0 then none
  let c := (c.span isBlank).2
  let (token, c) ←
    if name == "YAML".toList then do
      let (major, c) ← versionNumber? c
      if !c.sees '.' then none
      let (minor, c) ← versionNumber? (c.skip 1)
      some (Token.versionDirective major minor, c)
    else if name == "TAG".toList then do
      let (handle, c) ← tagHandle c
      if handle.getLast? != some '!' || !c.atBlank then none
      let c := (c.span isBlank).2
      let (lead, c) ← tagOctets? c.steps true c
      if lead.isEmpty || !c.gapAhead 0 then none
      some (.tagDirective (String.ofList handle) (Tag.ofOctets lead), c)
    else none
  let c := (c.span isBlank).2
  let c := if c.sees '#' then c.skipLine else c
  if c.atLineEnd then some (token, c.takeBreak.2) else none

/-! ## One token -/

/-- Closes all block collections and gives up the pending key. -/
def leaveBlocks? (s : Stream) : Option Stream := do
  let s ← (s.unindent (-1)).forgetKey?
  some { s with keyAllowed := false }

/-- Emits a token that is written as `n` characters. -/
def mark (n : Nat) (t : Token) (s : Stream) : Stream :=
  { s with cursor := s.cursor.skip n }.emit t

/-- An opening bracket or brace. -/
def opening? (t : Token) (s : Stream) : Option Stream := do
  let s ← s.rememberKey?
  some ({ s with outer := s.pending :: s.outer, pending := none, keyAllowed := true }.mark 1 t)

/-- A closing bracket or brace. -/
def closing? (t : Token) (s : Stream) : Option Stream := do
  let s ← s.forgetKey?
  let s := match s.outer with
    | [] => s
    | pending :: outer => { s with pending, outer }
  some ({ s with keyAllowed := false }.mark 1 t)

/-- An indicator at the beginning of an item or a key of a block collection. -/
def blockIndicator? (start : Token) (s : Stream) : Option Stream :=
  if s.inFlow then some s
  else if !s.keyAllowed then none
  else some (s.openBlock start s.cursor.column s.count)

/-- A colon that separates a key from its value. -/
def valueIndicator? (s : Stream) : Option Stream :=
  match s.pending with
  | some key =>
    let s := emitAt key.position [.key] { s with pending := none, keyAllowed := false }
    some ((s.openBlock .blockMappingStart key.start.column key.position).mark 1 .value)
  | none => do
    let s ← s.blockIndicator? .blockMappingStart
    some ({ s with keyAllowed := !s.inFlow }.mark 1 .value)

/-- A token that may be a key or a part of one. -/
def content? (s : Stream) (t : Token) (keyAllowed : Bool) (c : Cursor) : Option Stream := do
  let s ← s.rememberKey?
  some ({ s with keyAllowed, cursor := c }.emit t)

/-- Whether a plain scalar may begin with the next character. -/
def plainAhead (s : Stream) : Bool :=
  let c := s.cursor
  match c.next? with
  | none => false
  | some '-' => !(c.ahead? 1).any isBlank
  | some '?' | some ':' => !s.inFlow && !c.gapAhead 1
  | some d => !(isBlank d || isBreak d || "-?:,[]\x7b\x7d#&*!|>'\"%@\x60".toList.contains d)

/-- The next token or tokens, with the cursor at the first character. -/
def next? (s : Stream) : Option Stream :=
  let c := s.cursor
  let d := c.next?.getD ' '
  if c.column == 0 && d == '%' then do
    let s ← s.leaveBlocks?
    let (t, c) ← directive? c
    some ({ s with cursor := c }.emit t)
  else if c.atDocumentMark then do
    let s ← s.leaveBlocks?
    some (s.mark 3 (if d == '-' then .documentStart else .documentEnd))
  else if d == '[' then s.opening? .flowSequenceStart
  else if d == '\x7b' then s.opening? .flowMappingStart
  else if d == ']' then s.closing? .flowSequenceEnd
  else if d == '\x7d' then s.closing? .flowMappingEnd
  else if d == ',' then do
    let s ← s.forgetKey?
    some ({ s with keyAllowed := true }.mark 1 .flowEntry)
  else if d == '-' && c.gapAhead 1 then do
    let s ← s.blockIndicator? .blockSequenceStart
    let s ← s.forgetKey?
    some ({ s with keyAllowed := true }.mark 1 .blockEntry)
  else if d == '?' && (s.inFlow || c.gapAhead 1) then do
    let s ← s.blockIndicator? .blockMappingStart
    let s ← s.forgetKey?
    some ({ s with keyAllowed := !s.inFlow }.mark 1 .key)
  else if d == ':' && (s.inFlow || c.gapAhead 1) then s.valueIndicator?
  else if d == '*' then do
    let (name, after) ← anchorName c
    s.content? (.alias (String.ofList name)) false after
  else if d == '&' then do
    let (name, after) ← anchorName c
    s.content? (.anchor (String.ofList name)) false after
  else if d == '!' then do
    let (handle, suffix, after) ← tagName s.inFlow c
    s.content? (.tag (String.ofList handle) suffix) false after
  else if (d == '|' || d == '>') && !s.inFlow then do
    let s ← s.forgetKey?
    let (text, after) ← blockScalar (d == '|') s.indent c
    some ({ s with keyAllowed := true, cursor := after }.emit
      (.scalar (String.ofList text) false))
  else if d == '\'' || d == '"' then do
    let (text, after) ← quotedScalar (d == '\'') c
    s.content? (.scalar (String.ofList text) false) false after
  else if s.plainAhead then do
    let (text, brokenOff, after) ← plainScalar s.inFlow s.indent c
    s.content? (.scalar (String.ofList text) true) brokenOff after
  else none

/-- Reads all tokens up to the end of the text. -/
def run? (fuel : Nat) (s : Stream) : Option (List Token) :=
  match fuel with
  | 0 => none
  | fuel + 1 => do
    let s ← (s.skipGap s.cursor.steps).dropStale?
    let s := s.unindent s.cursor.column
    if s.cursor.atEnd then
      let s ← s.leaveBlocks?
      some s.tokens.reverse
    else
      let s ← s.next?
      run? fuel s

end Stream

/-- The tokens of a text, or `none` when it is not well formed. -/
def Token.ofText? (text : String) : Option (List Token) :=
  let chars := text.toList
  if chars.all isAllowed then Stream.run? (chars.length + 2) { cursor := .ofText chars }
  else none

end Yaml
end LintRules
