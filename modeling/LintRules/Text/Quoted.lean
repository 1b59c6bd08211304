import LintRules.Text.Printable

/-!
# Quoted texts in diagnostics

A diagnostic shows a text between double quotes.  The quote, the backslash, the tab and the line
breaks are written with a backslash, and any other character that cannot be shown as itself as
its hexadecimal code in braces.

`quotedList` writes a list between square brackets.
-/

namespace LintRules
namespace Text

/-- The hexadecimal digits of `n`, in lower case. -/
def hexDigits (n : Nat) : List Char := Nat.toDigits 16 n

/-- One character inside quotes. -/
def quoteChar (c : Char) : List Char :=
  match c with
  | '\x00' => ['\\', '0']
  | '\t' => ['\\', 't']
  | '\r' => ['\\', 'r']
  | '\n' => ['\\', 'n']
  | '\\' => ['\\', '\\']
  | '"' => ['\\', '"']
  | c => if isShown c then [c] else ['\\', 'u', '\x7b'] ++ hexDigits c.toNat ++ ['\x7d']

/-- A text between double quotes. -/
def quoted (text : String) : String :=
  String.ofList ('"' :: text.toList.flatMap quoteChar ++ ['"'])

/-- A list of texts, each quoted, between square brackets. -/
def quotedList (texts : List String) : String :=
  "[" ++ ", ".intercalate (texts.map quoted) ++ "]"

end Text
end LintRules
