import LintRules.Decimal.Binary64

/-!
# The fewest digits that read back

Among the decimal numbers that lie nearer to a given binary number than to any other, those with
the fewest digits are the ones to print; of several with that few digits the nearest to the
number is taken.

The numbers that read back form an interval around the number.  Its ends are half way to the
neighbours, and belong to it when the significand is even.  A grid of `n` digits has a point in
the interval exactly when one of the two grid points next to the number does, so it is enough to
test those two, for one digit, two digits, and so on; seventeen digits are always enough.
-/

namespace LintRules
namespace Decimal

/-- The number `digits * 10 ^ exponent`. -/
structure Scientific where
  digits : Nat
  exponent : Int
  deriving DecidableEq, Repr

/-- Moves the zeros at the end of the digits into the exponent; `fuel` bounds their number. -/
def Scientific.trim (fuel : Nat) (s : Scientific) : Scientific :=
  match fuel with
  | 0 => s
  | fuel + 1 =>
    if s.digits ≠ 0 ∧ s.digits % 10 = 0 then trim fuel ⟨s.digits / 10, s.exponent + 1⟩ else s

/-- A number between two others, all as numerators over one denominator. -/
structure Interval where
  low : Nat
  value : Nat
  high : Nat
  denominator : Nat
  /-- Whether the ends belong to the interval. -/
  closed : Bool

/-- The decimals that read back as `significand * 2 ^ exponent`. -/
def Interval.around (significand : Nat) (exponent : Int) : Interval :=
  let below := if significand = Nat.pow 2 52 ∧ -1074 < exponent then 1 else 2
  let unit := Binary64.ratio 1 (exponent - 2)
  { low := (4 * significand - below) * unit.1
    value := 4 * significand * unit.1
    high := (4 * significand + 2) * unit.1
    denominator := unit.2
    closed := significand % 2 = 0 }

/-- Whether the fraction `num / den` lies in the interval. -/
def Interval.contains (i : Interval) (num den : Nat) : Bool :=
  if i.closed then
    i.low * den ≤ num * i.denominator && num * i.denominator ≤ i.high * den
  else
    i.low * den < num * i.denominator && num * i.denominator < i.high * den

/-- The power of ten of the first digit of the value. -/
def Interval.leading (i : Interval) : Int :=
  ((Nat.toDigits 10 (i.value * Nat.pow 10 400 / i.denominator)).length : Int) - 401

/-- The nearest point of the grid with steps of `10 ^ unit`, if one lies in the interval. -/
def Interval.gridPoint? (i : Interval) (unit : Int) : Option Scientific :=
  let value := i.value * Nat.pow 10 (-unit).toNat
  let step := i.denominator * Nat.pow 10 unit.toNat
  let below := value / step
  let inside (d : Nat) := i.contains (d * Nat.pow 10 unit.toNat) (Nat.pow 10 (-unit).toNat)
  let nearest := roundHalfEven value step
  let other := if nearest = below then below + 1 else below
  if inside nearest then some ⟨nearest, unit⟩
  else if inside other then some ⟨other, unit⟩
  else none

/-- The first of the grids from `digits` digits on that has a point in the interval. -/
def Interval.shortest (i : Interval) (leading : Int) : (digits : Nat) → (more : Nat) → Scientific
  | digits, 0 =>
    ⟨i.value * Nat.pow 10 (digits - 1 - leading).toNat / i.denominator, leading - digits + 1⟩
  | digits, more + 1 =>
    match i.gridPoint? (leading - digits + 1) with
    | some s => s
    | none => i.shortest leading (digits + 1) more

/-- The shortest decimal that reads back as `significand * 2 ^ exponent`, without zeros at its
end; zero is `0 * 10 ^ 0`. -/
def shortest (significand : Nat) (exponent : Int) : Scientific :=
  if significand = 0 then ⟨0, 0⟩ else
    let i := Interval.around significand exponent
    (i.shortest i.leading 1 17).trim 20

end Decimal
end LintRules
