/-!
# A place in a YAML text

A `Cursor` is what is left of a text together with the place reached: the number of octets read,
the line and the column.  Indentation is read off columns, which count characters, and a mapping
key must stay on one line and within 1024 octets, so the tokens need all three.

Line breaks are a line feed, a carriage return, the two together, U+0085, U+2028 and U+2029.
Inside a scalar the first four count as a line feed; the last two stand for themselves.
-/

namespace LintRules
namespace Yaml

/-- A character that breaks lines. -/
def isBreak (c : Char) : Bool :=
  c == '\n' || c == '\r' || c == '\u0085' || c == '\u2028' || c == '\u2029'

/-- A space or a tab. -/
def isBlank (c : Char) : Bool := c == ' ' || c == '\t'

/-- A character of a name: a letter or a digit of ASCII, `-` or `_`. -/
def isWordChar (c : Char) : Bool := c.isAlphanum || c == '-' || c == '_'

/-- A character that may stand in a YAML text. -/
def isAllowed (c : Char) : Bool :=
  let n := c.toNat
  n == 0x09 || n == 0x0A || n == 0x0D || (0x20 ≤ n && n ≤ 0x7E) || n == 0x85 ||
    (0xA0 ≤ n && n ≤ 0xD7FF) || (0xE000 ≤ n && n ≤ 0xFFFD) || 0x10000 ≤ n

/-- What is left of a text, and the place reached in it. -/
structure Cursor where
  text : List Char
  /-- The number of characters of the whole text. -/
  length : Nat
  index : Nat := 0
  line : Nat := 0
  column : Nat := 0
  deriving Repr

namespace Cursor

/-- The beginning of a text. -/
def ofText (text : List Char) : Cursor := { text, length := text.length }

/-- More steps than reading any piece of the text takes, when each step takes a character. -/
def steps (c : Cursor) : Nat := c.length + 2

/-- The character `n` places ahead. -/
def ahead? (c : Cursor) (n : Nat) : Option Char := c.text[n]?

/-- The next character. -/
def next? (c : Cursor) : Option Char := c.text.head?

/-- Whether the text has ended. -/
def atEnd (c : Cursor) : Bool := c.text.isEmpty

/-- Whether the next character is `d`. -/
def sees (c : Cursor) (d : Char) : Bool := c.next? == some d

/-- Whether a line ends here. -/
def atBreak (c : Cursor) : Bool := c.next?.any isBreak

/-- Whether a space or a tab follows. -/
def atBlank (c : Cursor) : Bool := c.next?.any isBlank

/-- Whether the character `n` places ahead is a blank, a line break or the end. -/
def gapAhead (c : Cursor) (n : Nat) : Bool :=
  match c.ahead? n with
  | none => true
  | some d => isBlank d || isBreak d

/-- Whether a line break or the end follows. -/
def atLineEnd (c : Cursor) : Bool := c.atEnd || c.atBreak

/-- Moves over `n` characters of a line. -/
def skip (c : Cursor) (n : Nat) : Cursor :=
  match n, c.text with
  | n + 1, d :: rest =>
    skip { c with text := rest, index := c.index + d.utf8Size, column := c.column + 1 } n
  | _, _ => c

/-- Moves over a run of characters of a line. -/
def span (p : Char → Bool) (c : Cursor) : List Char × Cursor :=
  let run := c.text.takeWhile p
  (run, c.skip run.length)

/-- Moves over a line break and returns what it stands for. -/
def takeBreak (c : Cursor) : List Char × Cursor :=
  match c.text with
  | '\r' :: '\n' :: rest =>
    (['\n'], { c with text := rest, index := c.index + 2, line := c.line + 1, column := 0 })
  | d :: rest =>
    if isBreak d then
      (if d == '\u2028' || d == '\u2029' then [d] else ['\n'],
        { c with text := rest, index := c.index + d.utf8Size, line := c.line + 1, column := 0 })
    else ([], c)
  | [] => ([], c)

/-- Moves over the rest of a line. -/
def skipLine (c : Cursor) : Cursor := (c.span fun d => !isBreak d).2

/-- Whether a line begins here with `---` or `...` and a blank, a line break or the end. -/
def atDocumentMark (c : Cursor) : Bool :=
  c.column == 0 && (c.text.take 3 == ['-', '-', '-'] || c.text.take 3 == ['.', '.', '.']) &&
    c.gapAhead 3

end Cursor
end Yaml
end LintRules
