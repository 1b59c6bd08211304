import LintRules.Decimal.Shortest

/-!
# Writing a decimal

A `Layout` says for which powers of ten of its first digit a number is written with all its
places; outside them it is written with one digit before the point and an exponent.  A number
written with all its places always has a point and a digit after it.

* `Layout.plain`: never an exponent.
* `Layout.between`: all places from `10 ^ least` up to the numbers below `10 ^ (greatest + 1)`.
-/

namespace LintRules
namespace Decimal

/-- Where a number is written without an exponent: the least and the greatest power of ten of its
first digit. -/
structure Layout where
  least : Option Int := none
  greatest : Option Int := none
  /-- Whether a plus sign stands before an exponent that is not negative. -/
  plus : Bool := false
  deriving DecidableEq, Repr

/-- Every number is written with all its places. -/
def Layout.plain : Layout := {}

/-- Numbers whose first digit stands for `10 ^ least` to `10 ^ greatest` have all their places. -/
def Layout.between (least greatest : Int) : Layout :=
  { least := some least, greatest := some greatest }

/-- Whether a number with this leading power of ten is written with all its places. -/
def Layout.isPositional (layout : Layout) (leading : Int) : Bool :=
  layout.least.all (· ≤ leading) && layout.greatest.all (leading ≤ ·)

/-- All the places of `digits * 10 ^ exponent`. -/
def positional (digits : List Char) (exponent : Int) : List Char :=
  if 0 ≤ exponent then digits ++ List.replicate exponent.toNat '0' ++ ['.', '0']
  else
    let places := (-exponent).toNat
    if places < digits.length then
      digits.take (digits.length - places) ++ '.' :: digits.drop (digits.length - places)
    else ['0', '.'] ++ List.replicate (places - digits.length) '0' ++ digits

/-- One digit before the point, and the power of ten `leading`. -/
def exponential (plus : Bool) (digits : List Char) (leading : Int) : List Char :=
  digits.take 1 ++ (if digits.length ≤ 1 then [] else '.' :: digits.drop 1) ++
    'e' :: (if leading < 0 then ['-'] else if plus then ['+'] else []) ++
    Nat.toDigits 10 leading.natAbs

/-- The absolute value of a finite number. -/
def Layout.magnitude (layout : Layout) (significand : Nat) (exponent : Int) : List Char :=
  let s := shortest significand exponent
  let digits := Nat.toDigits 10 s.digits
  let leading := s.exponent + digits.length - 1
  if significand = 0 || layout.isPositional leading then positional digits s.exponent
  else exponential layout.plus digits leading

/-- The text of a finite number; the other numbers are given as `inf`, `-inf` and `NaN`. -/
def Layout.text (layout : Layout) : Binary64 → String
  | .finite negative m q =>
    String.ofList ((if negative then ['-'] else []) ++ layout.magnitude m q)
  | .infinite false => "inf"
  | .infinite true => "-inf"
  | .undefined => "NaN"

end Decimal
end LintRules
