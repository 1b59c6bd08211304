import LintRules.Yaml.Cursor
import LintRules.Yaml.Tag

/-!
# Scalars, names and tags in a YAML text

Each function reads one piece of text at a cursor and returns it with the cursor behind it, or
`none` where the text is not well formed.

The lines of a plain or quoted scalar are joined: a single line break becomes a space, and each
further one a line feed.  `Gap` is the blank part between two pieces of such a scalar and
`Gap.text` what it stands for.
-/

namespace LintRules
namespace Yaml

/-! ## Gaps -/

/-- The blanks and line breaks between two pieces of a scalar. -/
structure Gap where
  /-- The blanks, as long as no line break has been met. -/
  blanks : List Char := []
  /-- What the first line break stands for. -/
  first : List Char := []
  /-- What the further line breaks stand for. -/
  more : List Char := []
  /-- Whether a line break has been met. -/
  broken : Bool := false

/-- What a gap stands for. -/
def Gap.text (gap : Gap) : List Char :=
  if !gap.broken then gap.blanks
  else if gap.first == ['\n'] then (if gap.more.isEmpty then [' '] else gap.more)
  else gap.first ++ gap.more

/-- Reads blanks and line breaks.  After a line break, a tab left of column `indent` is
refused. -/
def Cursor.gap (fuel : Nat) (indent : Int) (gap : Gap) (c : Cursor) : Option (Gap × Cursor) :=
  match fuel with
  | 0 => some (gap, c)
  | fuel + 1 =>
    match c.next? with
    | none => some (gap, c)
    | some d =>
      if isBlank d then
        if gap.broken then
          if d == '\t' && (c.column : Int) < indent then none
          else Cursor.gap fuel indent gap (c.skip 1)
        else Cursor.gap fuel indent { gap with blanks := gap.blanks ++ [d] } (c.skip 1)
      else if isBreak d then
        let (text, c) := c.takeBreak
        if gap.broken then Cursor.gap fuel indent { gap with more := gap.more ++ text } c
        else Cursor.gap fuel indent { gap with first := text, broken := true } c
      else some (gap, c)

/-! ## Plain scalars -/

/-- A character that ends a plain scalar between brackets or braces. -/
def isFlowIndicator (c : Char) : Bool :=
  c == ',' || c == '[' || c == ']' || c == '{' || c == '}'

/-- A piece of a plain scalar without blanks.  Between brackets, a colon before an indicator is
refused. -/
def plainPiece (flow : Bool) : List Char → Option (List Char)
  | [] => some []
  | c :: rest =>
    if isBlank c || isBreak c then some []
    else
      let gapNext := match rest with
        | [] => true
        | d :: _ => isBlank d || isBreak d
      let indicatorNext := match rest with
        | [] => false
        | d :: _ => isFlowIndicator d || d == '?'
      if flow && c == ':' && indicatorNext then none
      else if (c == ':' && gapNext) || (flow && isFlowIndicator c) then some []
      else (plainPiece flow rest).map (c :: ·)

/-- Reads a plain scalar piece by piece; `gap` is what stands before the next piece.  The result
also tells whether the scalar ended after a line break. -/
def plainPieces (fuel : Nat) (flow : Bool) (indent : Int) (gap : Gap) (c : Cursor) :
    Option (List Char × Bool × Cursor) :=
  match fuel with
  | 0 => none
  | fuel + 1 =>
    if c.atDocumentMark || c.sees '#' then some ([], gap.broken, c)
    else do
      let piece ← plainPiece flow c.text
      let text := if piece.isEmpty then [] else gap.text ++ piece
      let broken := if piece.isEmpty then gap.broken else false
      let c := c.skip piece.length
      if c.atBlank || c.atBreak then
        let (gap, c) ← c.gap c.steps indent {}
        if !flow && (c.column : Int) < indent then some (text, gap.broken, c)
        else
          let (more, broken, c) ← plainPieces fuel flow indent gap c
          some (text ++ more, broken, c)
      else some (text, broken, c)

/-- A plain scalar inside a collection with indentation `indent`. -/
def plainScalar (flow : Bool) (indent : Int) (c : Cursor) :
    Option (List Char × Bool × Cursor) :=
  plainPieces c.steps flow (indent + 1) {} c

/-! ## Quoted scalars -/

/-- The value of a hexadecimal digit. -/
def hexValue? (c : Char) : Option Nat :=
  if '0' ≤ c ∧ c ≤ '9' then some (c.toNat - '0'.toNat)
  else if 'a' ≤ c ∧ c ≤ 'f' then some (c.toNat - 'a'.toNat + 10)
  else if 'A' ≤ c ∧ c ≤ 'F' then some (c.toNat - 'A'.toNat + 10)
  else none

/-- The number that hexadecimal digits stand for. -/
def hexNumber? (digits : List Char) : Option Nat :=
  digits.foldl (fun n d => do some ((← n) * 16 + (← hexValue? d))) (some 0)

/-- The character that an escape of one letter stands for. -/
def simpleEscape? : Char → Option Char
  | '0' => some '\x00'
  | 'a' => some '\x07'
  | 'b' => some '\x08'
  | 't' => some '\t'
  | '\t' => some '\t'
  | 'n' => some '\n'
  | 'v' => some '\x0b'
  | 'f' => some '\x0c'
  | 'r' => some '\r'
  | 'e' => some '\x1b'
  | ' ' => some ' '
  | '"' => some '"'
  | '/' => some '/'
  | '\\' => some '\\'
  | 'N' => some '\u0085'
  | '_' => some '\u00a0'
  | 'L' => some '\u2028'
  | 'P' => some '\u2029'
  | _ => none

/-- The number of hexadecimal digits after the letter of an escape. -/
def escapeLength? : Char → Option Nat
  | 'x' => some 2
  | 'u' => some 4
  | 'U' => some 8
  | _ => none

/-- The character of an escape after its backslash, and the number of characters it takes. -/
def escape? : List Char → Option (Char × Nat)
  | [] => none
  | c :: rest =>
    match escapeLength? c with
    | none => (simpleEscape? c).map (·, 1)
    | some n => do
      let digits := rest.take n
      if digits.length < n then none
      let code ← hexNumber? digits
      if (0xD800 ≤ code ∧ code ≤ 0xDFFF) ∨ 0x10FFFF < code then none
      else some (Char.ofNat code, n + 1)

/-- A piece of a quoted scalar without blanks: its text, the cursor behind it, and whether it ends
with an escaped line break. -/
def quotedPiece (fuel : Nat) (single : Bool) (c : Cursor) : Option (List Char × Bool × Cursor) :=
  match fuel with
  | 0 => none
  | fuel + 1 =>
    match c.text with
    | [] => some ([], false, c)
    | d :: rest =>
      if isBlank d || isBreak d then some ([], false, c)
      else if single && d == '\'' && rest.head? == some '\'' then
        (quotedPiece fuel single (c.skip 2)).map fun (t, e, c) => ('\'' :: t, e, c)
      else if d == (if single then '\'' else '"') then some ([], false, c)
      else if !single && d == '\\' then
        if rest.head?.any isBreak then some ([], true, ((c.skip 1).takeBreak).2)
        else do
          let (e, n) ← escape? rest
          (quotedPiece fuel single (c.skip (n + 1))).map fun (t, b, c) => (e :: t, b, c)
      else (quotedPiece fuel single (c.skip 1)).map fun (t, e, c) => (d :: t, e, c)

/-- Reads a quoted scalar piece by piece up to its closing quote. -/
def quotedPieces (fuel : Nat) (single : Bool) (c : Cursor) : Option (List Char × Cursor) :=
  match fuel with
  | 0 => none
  | fuel + 1 =>
    if c.atDocumentMark || c.atEnd then none
    else do
      let (piece, escaped, c) ← quotedPiece c.steps single c
      if c.sees (if single then '\'' else '"') then some (piece, c.skip 1)
      else
        let (gap, c) ← c.gap c.steps 0 { broken := escaped }
        let (more, c) ← quotedPieces fuel single c
        some (piece ++ (gap.text ++ more), c)

/-- A quoted scalar, with the cursor at its opening quote. -/
def quotedScalar (single : Bool) (c : Cursor) : Option (List Char × Cursor) :=
  quotedPieces c.steps single (c.skip 1)

/-! ## Block scalars -/

/-- What happens to the line breaks at the end of a block scalar. -/
inductive Chomping where
  | clip
  | strip
  | keep
  deriving DecidableEq

/-- The indentation and the chomping that the head of a block scalar gives. -/
def blockHead? (c : Cursor) : Option (Chomping × Nat × Cursor) :=
  let chomping (d : Char) : Option Chomping :=
    if d == '+' then some .keep else if d == '-' then some .strip else none
  let digit (d : Char) : Option Nat :=
    if '0' ≤ d ∧ d ≤ '9' then some (d.toNat - '0'.toNat) else none
  match c.next?.bind chomping with
  | some ch =>
    let c := c.skip 1
    match c.next?.bind digit with
    | some 0 => none
    | some n => some (ch, n, c.skip 1)
    | none => some (ch, 0, c)
  | none =>
    match c.next?.bind digit with
    | some 0 => none
    | some n =>
      let c := c.skip 1
      match c.next?.bind chomping with
      | some ch => some (ch, n, c.skip 1)
      | none => some (.clip, n, c)
    | none => some (.clip, 0, c)

/-- Reads the blank lines before a line of a block scalar.  With `indent` zero the indentation is
not known yet, and all spaces are read; `widest` is the greatest column reached. -/
def blockBreaks (fuel : Nat) (indent widest : Nat) (c : Cursor) :
    Option (List Char × Nat × Cursor) :=
  match fuel with
  | 0 => none
  | fuel + 1 =>
    let spaces := (c.text.takeWhile (· == ' ')).length
    let c := c.skip (if indent = 0 then spaces else min spaces (indent - c.column))
    let widest := max widest c.column
    if (indent = 0 ∨ c.column < indent) ∧ c.sees '\t' then none
    else if c.atBreak then
      let (text, c) := c.takeBreak
      (blockBreaks fuel indent widest c).map fun (more, widest, c) => (text ++ more, widest, c)
    else some ([], widest, c)

/-- Reads the lines of a block scalar.  `first` is what the last line break stands for, `more` the
blank lines after it, and `blank` tells whether the line before began with a blank.  The result is
the text of the lines, the last line break and the blank lines after it. -/
def blockLines (fuel : Nat) (literal : Bool) (indent : Nat) (first more : List Char)
    (blank : Bool) (c : Cursor) : Option (List Char × List Char × List Char × Cursor) :=
  match fuel with
  | 0 => none
  | fuel + 1 =>
    if c.column = indent ∧ !c.atEnd then do
      let starts := c.atBlank
      let joined :=
        if !literal && first == ['\n'] && !blank && !starts then
          (if more.isEmpty then [' '] else []) ++ more
        else first ++ more
      let (line, c) := c.span fun d => !isBreak d
      let (first, c) := c.takeBreak
      let (more, _, c) ← blockBreaks c.steps indent 0 c
      let (text, last) ← blockLines fuel literal indent first more starts c
      some (joined ++ (line ++ text), last)
    else some ([], first, more, c)

/-- A block scalar inside a collection with indentation `parent`, with the cursor at its
indicator. -/
def blockScalar (literal : Bool) (parent : Int) (c : Cursor) : Option (List Char × Cursor) := do
  let (chomping, increment, c) ← blockHead? (c.skip 1)
  let c := (c.span isBlank).2
  let c := if c.sees '#' then c.skipLine else c
  if !c.atLineEnd then none
  let c := c.takeBreak.2
  let given : Nat :=
    if increment = 0 then 0 else if 0 ≤ parent then parent.toNat + increment else increment
  let (more, widest, c) ← blockBreaks c.steps given 0 c
  let indent := if given = 0 then max widest (max (parent + 1).toNat 1) else given
  let (text, first, more, c) ← blockLines c.steps literal indent [] more false c
  let text := if chomping = .strip then text else text ++ first
  let text := if chomping = .keep then text ++ more else text
  some (text, c)

/-! ## Names and tags -/

/-- The name of an anchor or an alias, with the cursor at its indicator. -/
def anchorName (c : Cursor) : Option (List Char × Cursor) :=
  let (name, c) := (c.skip 1).span isWordChar
  let ends := c.gapAhead 0 || c.next?.any fun d =>
    d == '?' || d == ':' || d == ',' || d == ']' || d == '}' || d == '%' || d == '@' || d == '\x60'
  if name.isEmpty || !ends then none else some (name, c)

/-- The handle of a tag: `!`, `!!`, `!word!`, or a `!` and a word that no `!` follows. -/
def tagHandle (c : Cursor) : Option (List Char × Cursor) :=
  if c.sees '!' then
    let (word, c) := (c.skip 1).span isWordChar
    if c.sees '!' then some ('!' :: word ++ ['!'], c.skip 1) else some ('!' :: word, c)
  else none

/-- A character of a tag; `verbatim` inside angle brackets. -/
def isTagChar (verbatim : Bool) (c : Char) : Bool :=
  isWordChar c || c == ';' || c == '/' || c == '?' || c == ':' || c == '@' || c == '&' ||
    c == '=' || c == '+' || c == '$' || c == '.' || c == '%' || c == '!' || c == '~' ||
    c == '*' || c == '\'' || c == '(' || c == ')' ||
    (verbatim && (c == ',' || c == '[' || c == ']'))

/-- The number of octets of a character, which its first octet tells. -/
def octetCount? (first : Nat) : Option Nat :=
  if first < 0x80 then some 1
  else if first < 0xC0 then none
  else if first < 0xE0 then some 2
  else if first < 0xF0 then some 3
  else if first < 0xF8 then some 4
  else none

/-- The octets of `n` escapes `%hh` that go on with a character. -/
def laterOctets? : (n : Nat) → List Char → Option (List UInt8)
  | 0, _ => some []
  | n + 1, '%' :: a :: b :: rest => do
    let octet ← hexNumber? [a, b]
    if octet < 0x80 ∨ 0xC0 ≤ octet then none
    some (octet.toUInt8 :: (← laterOctets? n rest))
  | _ + 1, _ => none

/-- The octets of a character written as escapes `%hh`.  Its first octet tells their number, and
the others must be such as go on with a character; nothing else is asked of them. -/
def escapedOctets? : List Char → Option (List UInt8)
  | '%' :: a :: b :: rest => do
    let first ← hexNumber? [a, b]
    let n ← octetCount? first
    some (first.toUInt8 :: (← laterOctets? (n - 1) rest))
  | _ => none

/-- The octets of the rest of a tag, with its escapes replaced. -/
def tagOctets? (fuel : Nat) (verbatim : Bool) (c : Cursor) : Option (List UInt8 × Cursor) :=
  match fuel, c.next? with
  | 0, _ | _ + 1, none => some ([], c)
  | fuel + 1, some d =>
    if d == '%' then do
      let octets ← escapedOctets? c.text
      let (more, c) ← tagOctets? fuel verbatim (c.skip (3 * octets.length))
      some (octets ++ more, c)
    else if isTagChar verbatim d then do
      let (more, c) ← tagOctets? fuel verbatim (c.skip 1)
      some (d.toNat.toUInt8 :: more, c)
    else some ([], c)

/-- A tag, with the cursor at its `!`: its handle and its suffix.  A lone `!` has no handle, and
its suffix is `!`. -/
def tagName (flow : Bool) (c : Cursor) : Option (List Char × Tag × Cursor) := do
  let (handle, suffix, c) ←
    if c.ahead? 1 == some '<' then do
      let (octets, c) ← tagOctets? c.steps true (c.skip 2)
      if octets.isEmpty || !c.sees '>' then none
      some (([] : List Char), Tag.ofOctets octets, c.skip 1)
    else do
      let (handle, c) ← tagHandle c
      let (octets, c) ← tagOctets? c.steps false c
      if handle.length ≠ 1 && handle.getLast? == some '!' then
        if octets.isEmpty then none
        some (handle, Tag.ofOctets octets, c)
      else
        let suffix := Tag.ofOctets (Text.octets (String.ofList (handle.drop 1)) ++ octets)
        if suffix.octets.isEmpty then some (([] : List Char), Tag.bare, c)
        else some (['!'], suffix, c)
  if c.gapAhead 0 || (flow && c.sees ',') then some (handle, suffix, c) else none

end Yaml
end LintRules
