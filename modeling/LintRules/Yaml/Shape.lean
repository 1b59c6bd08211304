import LintRules.Decimal.Layout
import LintRules.Text.Quoted
import LintRules.Yaml.Atom
import LintRules.Yaml.Node

/-!
# Why a YAML document has the wrong shape

A reader that expects a particular shape and finds another one reports a `ShapeError`: what is
wrong, and where.  The place is a path of steps from the root; an error that is found before its
place is known is placed at the mapping around it (`ShapeError.placedAt`).

`ShapeError.message` is the wording.
-/

namespace LintRules
namespace Yaml

/-! ## Places -/

/-- A step from a collection to one of its parts. -/
inductive Step where
  | field (name : String)
  | item (index : Nat)
  /-- The value of a key that is not written as a scalar. -/
  | unnamed
  deriving DecidableEq, Repr

/-- A place in a document: the steps to it, the last one first. -/
abbrev Location := List Step

/-- A place in words; the root is the empty text. -/
def Location.text : Location → String
  | [] => ""
  | .item index :: outer => text outer ++ "[" ++ toString index ++ "]"
  | .field name :: outer => (if outer = [] then "" else text outer ++ ".") ++ name
  | .unnamed :: outer => (if outer = [] then "" else text outer ++ ".") ++ "?"

/-- The step to the value of a key. -/
def Step.ofKey : Node → Step
  | .scalar text .. => .field text
  | _ => .unnamed

/-! ## What is found -/

/-- What stands where something else is expected. -/
inductive Found where
  | atom (a : Atom)
  | sequence
  | map
  deriving DecidableEq, Repr

/-- The whole numbers of 64 bits, with or without sign. -/
def isNarrow (n : Int) : Bool := -9223372036854775808 ≤ n && n ≤ 18446744073709551615

/-- A text between backquotes. -/
def ticked (text : String) : String := "\x60" ++ text ++ "\x60"

/-- What is found, in words. -/
def Found.text : Found → String
  | .sequence => "sequence"
  | .map => "map"
  | .atom .null => "unit value"
  | .atom (.bool b) => "boolean " ++ ticked (if b then "true" else "false")
  | .atom (.int n) =>
    "integer " ++ ticked (toString n) ++
      (if isNarrow n then "" else if n < 0 then " as i128" else " as u128")
  | .atom (.float x) => "floating point " ++ ticked (Decimal.Layout.plain.text x)
  | .atom (.text s) => "string " ++ Text.quoted s

/-- What a core tag wants its scalar to be. -/
def CoreTag.text : CoreTag → String
  | .bool => "a boolean"
  | .int => "an integer"
  | .float => "a float"
  | .null => "null"

/-! ## Errors -/

/-- What is wrong at a place. -/
inductive Misfit where
  /-- Something of another type than expected. -/
  | wrongType (found : Found) (expected : String)
  /-- A scalar that does not read as its tag says, or as the only value allowed. -/
  | wrongValue (text : String) (expected : String)
  | unknownField (name : String) (known : List String)
  | missingField (name : String)
  | duplicateField (name : String)
  | unknownVariant (name : String) (known : List String)
  /-- A key that occurs twice, in words. -/
  | duplicateKey (key : String)
  /-- A tag where the type of a value is told by the value alone. -/
  | tagRefused
  /-- A value that is none of the alternatives of a type. -/
  | noAlternative (type : String)
  deriving DecidableEq, Repr

/-- Alternatives in words. -/
def oneOf : List String → String
  | [] => "nothing"
  | [a] => ticked a
  | [a, b] => ticked a ++ " or " ++ ticked b
  | more => "one of " ++ ", ".intercalate (more.map ticked)

/-- What is wrong, in words. -/
def Misfit.message : Misfit → String
  | .wrongType found expected => "invalid type: " ++ found.text ++ ", expected " ++ expected
  | .wrongValue text expected =>
    "invalid value: string " ++ Text.quoted text ++ ", expected " ++ expected
  | .unknownField name known =>
    "unknown field " ++ ticked name ++ ", expected " ++ oneOf known
  | .missingField name => "missing field " ++ ticked name
  | .duplicateField name => "duplicate field " ++ ticked name
  | .unknownVariant name known =>
    "unknown variant " ++ ticked name ++ ", expected " ++ oneOf known
  | .duplicateKey key => "duplicate entry " ++ key
  | .tagRefused => "untagged and internally tagged enums do not support enum input"
  | .noAlternative type => "data did not match any variant of untagged enum " ++ type

/-- Why a document cannot be read. -/
inductive ShapeError where
  /-- Something is wrong; its place may not be known yet. -/
  | misfit (place : Option Location) (what : Misfit)
  /-- Collections nest too deep. -/
  | tooDeep
  /-- There are too many aliases. -/
  | tooManyAliases
  deriving DecidableEq, Repr

namespace ShapeError

/-- The error, placed if it has no place yet. -/
def placedAt (place : Location) : ShapeError → ShapeError
  | .misfit none what => .misfit (some place) what
  | e => e

/-- The error in words, after its place unless that is the root. -/
def message : ShapeError → String
  | .misfit none what | .misfit (some []) what => what.message
  | .misfit (some place) what => place.text ++ ": " ++ what.message
  | .tooDeep => "recursion limit exceeded"
  | .tooManyAliases => "repetition limit exceeded"

end ShapeError

/-- A misfit at a place. -/
def misfitAt {α : Type} (place : Location) (what : Misfit) : Except ShapeError α :=
  .error (.misfit (some place) what)

/-- The same result, with an error placed if it has no place yet. -/
def placing {α : Type} (place : Location) : Except ShapeError α → Except ShapeError α
  | .ok a => .ok a
  | .error e => .error (e.placedAt place)

end Yaml
end LintRules
