import LintRules.Decimal.Binary64
import LintRules.Text.Affix
import LintRules.Yaml.Tag

/-!
# What scalars stand for

A plain scalar is null, a truth value, a number or a text, depending on how it is written; a
scalar in quotes is a text.  A core tag says what a scalar is to be read as, however it is
written.

* `Atom.ofPlain`: what a plain scalar stands for.
* `Atom.ofCore?`: a scalar read as a core tag says, or `none` when it does not fit the tag.
* `Atom.ofScalar`: a scalar as it stands, with its tag.

Whole numbers have up to 128 bits; larger ones are floating point numbers, and a floating point
number that is too large is a text.
-/

namespace LintRules
namespace Yaml

open Decimal

/-- The value of a scalar. -/
inductive Atom where
  | null
  | bool (b : Bool)
  | int (n : Int)
  | float (x : Binary64)
  | text (s : String)
  deriving DecidableEq, Repr, Inhabited

/-- The tags that say what a scalar is read as. -/
inductive CoreTag where
  | bool
  | int
  | float
  | null
  deriving DecidableEq, Repr

/-- The core tag that a tag is. -/
def coreTag? (tag : Tag) : Option CoreTag :=
  if tag = .ofText "tag:yaml.org,2002:bool" then some .bool
  else if tag = .ofText "tag:yaml.org,2002:int" then some .int
  else if tag = .ofText "tag:yaml.org,2002:float" then some .float
  else if tag = .ofText "tag:yaml.org,2002:null" then some .null
  else none

namespace Atom

/-! ## Numbers -/

/-- The value of a digit in some base up to 36. -/
def digitValue? (base : Nat) (c : Char) : Option Nat :=
  let value :=
    if '0' ≤ c ∧ c ≤ '9' then some (c.toNat - '0'.toNat)
    else if 'a' ≤ c ∧ c ≤ 'z' then some (c.toNat - 'a'.toNat + 10)
    else if 'A' ≤ c ∧ c ≤ 'Z' then some (c.toNat - 'A'.toNat + 10)
    else none
  value.filter (· < base)

/-- The number of a text of digits; there is at least one. -/
def digits? (base : Nat) (text : List Char) : Option Nat :=
  if text.isEmpty then none
  else text.foldl (fun n c => do some ((← n) * base + (← digitValue? base c))) (some 0)

/-- The bases that are announced by letters. -/
def bases : List (List Char × Nat) := [(['0', 'x'], 16), (['0', 'o'], 8), (['0', 'b'], 2)]

/-- The number of a text without sign that announces its base. -/
def based? (text : List Char) : Option Nat :=
  bases.findSome? fun b => (Text.afterLead? b.1 text).bind (digits? b.2)

/-- Digits that begin with a needless zero. -/
def isPadded : List Char → Bool
  | '0' :: c :: rest => (c :: rest).all Char.isDigit
  | _ => false

/-- A whole number without sign. -/
def natural? (text : List Char) : Option Nat :=
  match based? text with
  | some n => some n
  | none => if isPadded text then none else digits? 10 text

/-- A whole number of up to 128 bits. -/
def int? (text : List Char) : Option Int :=
  match text with
  | '-' :: rest =>
    (natural? rest).bind fun n => if n ≤ Nat.pow 2 127 then some (-(n : Int)) else none
  | '+' :: rest => unsigned? rest
  | rest => unsigned? rest
where
  /-- A whole number from zero on. -/
  unsigned? (text : List Char) : Option Int :=
    (natural? text).bind fun n => if n < Nat.pow 2 128 then some (n : Int) else none

/-- The digits at the beginning of a text, and the rest. -/
def spanDigits (text : List Char) : List Char × List Char := text.span Char.isDigit

/-- An exponent after its letter. -/
def exponent? (text : List Char) : Option Int :=
  match text with
  | '-' :: rest => (digits? 10 rest).map fun n => -(n : Int)
  | '+' :: rest => (digits? 10 rest).map Int.ofNat
  | rest => (digits? 10 rest).map Int.ofNat

/-- A decimal number without sign; there is a digit before or after the point. -/
def decimal? (negative : Bool) (text : List Char) : Option Binary64 := do
  let (whole, rest) := spanDigits text
  let (places, rest) := match rest with
    | '.' :: rest => spanDigits rest
    | rest => ([], rest)
  if whole.isEmpty && places.isEmpty then none
  let exponent ← match rest with
    | [] => some 0
    | c :: rest => if c == 'e' || c == 'E' then exponent? rest else none
  let digits ← digits? 10 (whole ++ places)
  let x := Binary64.ofDecimal negative digits (exponent - places.length)
  if x.isFinite then some x else none

/-- A floating point number. -/
def float? (text : List Char) : Option Binary64 :=
  let infinity := [".inf".toList, ".Inf".toList, ".INF".toList]
  let undefined := [".nan".toList, ".NaN".toList, ".NAN".toList]
  if undefined.contains text then some .undefined
  else
    match text with
    | '+' :: rest => if infinity.contains rest then some (.infinite false) else decimal? false rest
    | '-' :: rest => if infinity.contains rest then some (.infinite true) else decimal? true rest
    | rest => if infinity.contains rest then some (.infinite false) else decimal? false rest

/-! ## Scalars -/

/-- The spellings of null. -/
def isNull (text : String) : Bool := ["~", "null", "Null", "NULL"].contains text

/-- The truth value with a spelling. -/
def bool? (text : String) : Option Bool :=
  if ["true", "True", "TRUE"].contains text then some true
  else if ["false", "False", "FALSE"].contains text then some false
  else none

/-- What a plain scalar stands for. -/
def ofPlain (text : String) : Atom :=
  let chars := text.toList
  if text = "" || isNull text then .null
  else
    match bool? text, int? chars with
    | some b, _ => .bool b
    | none, some n => .int n
    | none, none =>
      let unsigned := match chars with
        | '-' :: rest => rest
        | '+' :: rest => rest
        | rest => rest
      if isPadded unsigned then .text text
      else match float? chars with
        | some x => .float x
        | none => .text text

/-- A scalar read as a core tag says. -/
def ofCore? (tag : CoreTag) (text : String) : Option Atom :=
  match tag with
  | .bool => (bool? text).map .bool
  | .int => (int? text.toList).map .int
  | .float => (float? text.toList).map .float
  | .null => if isNull text then some .null else none

/-- A scalar with its tag; the error is the core tag that it does not fit.  A tag of the text's own
leaves a plain scalar as it is, and any other tag makes it a text. -/
def ofScalar (text : String) (plain : Bool) (tag : Option Tag) : Except CoreTag Atom :=
  match tag with
  | none => .ok (if plain then ofPlain text else .text text)
  | some tag =>
    match coreTag? tag with
    | some core =>
      match ofCore? core text with
      | some a => .ok a
      | none => .error core
    | none => .ok (if plain && tag.isLocal then ofPlain text else .text text)

end Atom
end Yaml
end LintRules
