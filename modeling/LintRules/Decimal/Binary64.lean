/-!
# Binary floating point numbers of 64 bits

A finite number is kept as a sign, a whole `significand` and a binary exponent, so that its value
is `± significand * 2 ^ exponent` and every computation with it is one on natural numbers.  The
significand has at most 53 bits, and fewer only where the exponent is the least one, `-1074`.

* `Binary64.ofRatio`: the number nearest to a fraction, of two equally near ones the one with the
  even significand; beyond the largest finite number the result is infinite.
* `Binary64.ofDecimal`: the number nearest to `digits * 10 ^ exponent`.
* `Binary64.product`, `Binary64.quotient`: the nearest number to a product and to a quotient.
-/

namespace LintRules
namespace Decimal

/-- A binary floating point number of 64 bits. -/
inductive Binary64 where
  | finite (negative : Bool) (significand : Nat) (exponent : Int)
  | infinite (negative : Bool)
  | undefined
  deriving DecidableEq, Repr, Inhabited

/-- The whole number nearest to `num / den`; a half goes to the even neighbour. -/
def roundHalfEven (num den : Nat) : Nat :=
  let whole := num / den
  let rest := num % den
  if 2 * rest < den then whole
  else if den < 2 * rest then whole + 1
  else whole + whole % 2

/-- A rounded quotient is the whole part or the next number. -/
theorem roundHalfEven_mem (num den : Nat) :
    num / den ≤ roundHalfEven num den ∧ roundHalfEven num den ≤ num / den + 1 := by
  simp only [roundHalfEven]
  split
  · omega
  · split <;> omega

namespace Binary64

/-- Zero with a sign. -/
def zero (negative : Bool) : Binary64 := .finite negative 0 (-1074)

/-- Whether the number is finite. -/
def isFinite : Binary64 → Bool
  | .finite .. => true
  | _ => false

/-- The number with its sign changed. -/
def negate : Binary64 → Binary64
  | .finite n m q => .finite (!n) m q
  | .infinite n => .infinite (!n)
  | .undefined => .undefined

/-- Numerically equal; the two zeros are, and an undefined number equals itself. -/
def same : Binary64 → Binary64 → Bool
  | .finite n m q, .finite n' m' q' => (m == 0 && m' == 0) || (n == n' && m == m' && q == q')
  | a, b => a == b

/-- The fraction `num / den` divided by `2 ^ q`, again as a fraction. -/
def scaleDown (num den : Nat) (q : Int) : Nat × Nat :=
  if 0 ≤ q then (num, den * Nat.pow 2 q.toNat) else (num * Nat.pow 2 (-q).toNat, den)

/-- The number nearest to `num / den`. -/
def ofRatio (negative : Bool) (num den : Nat) : Binary64 :=
  if num = 0 then zero negative else
    let first : Int := (Nat.log2 num : Int) - Nat.log2 den - 53
    let s := scaleDown num den first
    let exponent := max (-1074) (if Nat.pow 2 53 ≤ s.1 / s.2 then first + 1 else first)
    let s := scaleDown num den exponent
    let m := roundHalfEven s.1 s.2
    let m' := if m = Nat.pow 2 53 then Nat.pow 2 52 else m
    let q := if m = Nat.pow 2 53 then exponent + 1 else exponent
    if 971 < q then .infinite negative else .finite negative m' q

/-- The number nearest to `digits * 10 ^ exponent`.  Beyond the exponents that 64 bits reach, the
result is zero or infinite without the power being computed. -/
def ofDecimal (negative : Bool) (digits : Nat) (exponent : Int) : Binary64 :=
  if digits = 0 then zero negative else
    let magnitude := ((Nat.toDigits 10 digits).length : Int) + exponent
    if magnitude < -330 then zero negative
    else if 330 < magnitude then .infinite negative
    else if 0 ≤ exponent then ofRatio negative (digits * Nat.pow 10 exponent.toNat) 1
    else ofRatio negative digits (Nat.pow 10 (-exponent).toNat)

/-- The absolute value of a finite number as a fraction. -/
def ratio (significand : Nat) (exponent : Int) : Nat × Nat :=
  if 0 ≤ exponent then (significand * Nat.pow 2 exponent.toNat, 1)
  else (significand, Nat.pow 2 (-exponent).toNat)

/-- The nearest number to the product of two finite numbers. -/
def product : Binary64 → Binary64 → Binary64
  | .finite n m q, .finite n' m' q' =>
    let a := ratio m q
    let b := ratio m' q'
    ofRatio (n != n') (a.1 * b.1) (a.2 * b.2)
  | _, _ => .undefined

/-- The nearest number to the quotient of two finite numbers; the divisor is not zero. -/
def quotient : Binary64 → Binary64 → Binary64
  | .finite n m q, .finite n' m' q' =>
    let a := ratio m q
    let b := ratio m' q'
    ofRatio (n != n') (a.1 * b.2) (a.2 * b.1)
  | _, _ => .undefined

end Binary64
end Decimal
end LintRules
