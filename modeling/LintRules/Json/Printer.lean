import LintRules.Json.Basic
import LintRules.Decimal.Layout
import LintRules.Text.Quoted

/-!
# Writing JSON

`Json.compact` writes a value without any blanks, `Json.pretty` with one member or item on a line
and two blanks for each level.  Both write the same strings and numbers.

In a string the quote, the backslash and the control characters below U+0020 are escaped, and
nothing else.  A floating point number has the fewest digits that read back, always with a point
or an exponent.
-/

namespace LintRules
namespace Json

/-- Floating point numbers from `1e-5` up to `1e16` are written without an exponent. -/
def numberLayout : Decimal.Layout := { Decimal.Layout.between (-5) 15 with plus := true }

/-- One character inside a JSON string. -/
def escapeChar (c : Char) : List Char :=
  match c with
  | '"' => ['\\', '"']
  | '\\' => ['\\', '\\']
  | '\n' => ['\\', 'n']
  | '\r' => ['\\', 'r']
  | '\t' => ['\\', 't']
  | '\x08' => ['\\', 'b']
  | '\x0c' => ['\\', 'f']
  | c =>
    if c.toNat < 0x20 then
      ['\\', 'u', '0', '0'] ++ (if c.toNat < 0x10 then ['0'] else []) ++ Text.hexDigits c.toNat
    else [c]

/-- A JSON string. -/
def stringText (s : String) : String :=
  String.ofList ('"' :: s.toList.flatMap escapeChar ++ ['"'])

/-- A value that is not a collection. -/
def atomText : Json → String
  | .null => "null"
  | .bool true => "true"
  | .bool false => "false"
  | .int n => toString n
  | .float x => numberLayout.text x
  | .str s => stringText s
  | .arr _ | .obj _ => ""

mutual

/-- The value without blanks. -/
def compact : Json → String
  | .arr items => "[" ++ compactItems items ++ "]"
  | .obj members => "\x7b" ++ compactMembers members ++ "\x7d"
  | .null => atomText .null
  | .bool b => atomText (.bool b)
  | .int n => atomText (.int n)
  | .float x => atomText (.float x)
  | .str s => atomText (.str s)

/-- Items with commas between them. -/
def compactItems : List Json → String
  | [] => ""
  | [v] => v.compact
  | v :: rest => v.compact ++ "," ++ compactItems rest

/-- Members with commas between them. -/
def compactMembers : List (String × Json) → String
  | [] => ""
  | [(name, v)] => stringText name ++ ":" ++ v.compact
  | (name, v) :: rest => stringText name ++ ":" ++ v.compact ++ "," ++ compactMembers rest

end

/-- A line break and the blanks of a level. -/
def newline (level : Nat) : String :=
  String.ofList ('\n' :: List.replicate (2 * level) ' ')

mutual

/-- The value over several lines, as part of a text at the given level. -/
def prettyAt (level : Nat) : Json → String
  | .arr [] => "[]"
  | .arr (v :: rest) =>
    "[" ++ prettyItems (level + 1) (v :: rest) ++ newline level ++ "]"
  | .obj [] => "\x7b\x7d"
  | .obj (m :: rest) =>
    "\x7b" ++ prettyMembers (level + 1) (m :: rest) ++ newline level ++ "\x7d"
  | .null => atomText .null
  | .bool b => atomText (.bool b)
  | .int n => atomText (.int n)
  | .float x => atomText (.float x)
  | .str s => atomText (.str s)

/-- Items, each on lines of its own. -/
def prettyItems (level : Nat) : List Json → String
  | [] => ""
  | [v] => newline level ++ v.prettyAt level
  | v :: rest => newline level ++ v.prettyAt level ++ "," ++ prettyItems level rest

/-- Members, each on lines of its own. -/
def prettyMembers (level : Nat) : List (String × Json) → String
  | [] => ""
  | [(name, v)] => newline level ++ stringText name ++ ": " ++ v.prettyAt level
  | (name, v) :: rest =>
    newline level ++ stringText name ++ ": " ++ v.prettyAt level ++ "," ++
      prettyMembers level rest

end

/-- The value over several lines. -/
def pretty (v : Json) : String := v.prettyAt 0

end Json
end LintRules
