/-
**Binary64 numbers, exactly.**

A finite number is a sign, a significand and a power of two, and every operation goes through the
exact rational value followed by one rounding to the nearest number, ties to the even significand.
No machine floating point is involved, so equalities and orders between numbers are statements
about `Rat`.

* `Binary64.ofRatio` is the one rounding: it turns a ratio of natural numbers into a number.
* `Binary64.toRat` is the exact value of a finite number.
* `ExtendedRat` is the ordered line that numbers are compared on, both infinities included.
-/

namespace Specimen

/-! ### Rounding a quotient -/

/-- The natural number nearest to `num / den`; of two equally near ones, the even one. -/
def roundDiv (num den : Nat) : Nat :=
  let quotient := num / den
  let rest := num % den
  if 2 * rest < den ∨ (2 * rest = den ∧ quotient % 2 = 0) then quotient else quotient + 1

/-- The integer nearest to a rational; of two equally near ones, the even one. -/
def roundRat (value : Rat) : Int :=
  let size := roundDiv value.num.natAbs value.den
  if value.num < 0 then -(size : Int) else size

/-- Truncation of a rational toward zero. -/
def truncateRat (value : Rat) : Int := value.num.tdiv value.den

/-! ### The ordered line -/

/-- A rational number or one of the two infinities. -/
inductive ExtendedRat where
  | negativeInfinity
  | rational (value : Rat)
  | positiveInfinity
  deriving DecidableEq

namespace ExtendedRat

/-- The order of the extended line. -/
def order : ExtendedRat → ExtendedRat → Ordering
  | .negativeInfinity, .negativeInfinity => .eq
  | .negativeInfinity, _ => .lt
  | .positiveInfinity, .positiveInfinity => .eq
  | .positiveInfinity, _ => .gt
  | .rational _, .negativeInfinity => .gt
  | .rational _, .positiveInfinity => .lt
  | .rational first, .rational second =>
    if first < second then .lt else if first = second then .eq else .gt

end ExtendedRat

/-! ### Numbers -/

/-- A binary64 number: `± significand · 2 ^ exponent`, an infinity, or not a number. The payload
tells one not-a-number from another; it never takes part in arithmetic. -/
inductive Binary64 where
  | finite (negative : Bool) (significand : Nat) (exponent : Int)
  | infinite (negative : Bool)
  | nan (payload : Nat)
  deriving DecidableEq

namespace Binary64

/-- The smallest exponent: the exponent of zero and of every subnormal number. -/
def minExponent : Int := -1074

/-- The largest exponent of a finite number. -/
def maxExponent : Int := 971

/-- Significands stay below this bound. -/
def significandBound : Nat := Nat.pow 2 53

/-- Zero with the given sign. -/
def zero (negative : Bool) : Binary64 := .finite negative 0 minExponent

/-- The ratio `num / den / 2 ^ exponent`, again as a ratio of natural numbers. -/
def rescale (num den : Nat) (exponent : Int) : Nat × Nat :=
  if exponent < 0 then (num * Nat.pow 2 (-exponent).toNat, den)
  else (num, den * Nat.pow 2 exponent.toNat)

/-- The exponent at which `num / den` has a significand of full width, or the smallest exponent. -/
def exponentOf (num den : Nat) : Int :=
  let guess : Int := (num.log2 : Int) - den.log2 - 53
  let scaled := rescale num den guess
  max minExponent (if scaled.1 / scaled.2 < significandBound then guess else guess + 1)

/-- The number nearest to `num / den` with the given sign, ties to the even significand; past the
largest finite number it is an infinity. -/
def ofRatio (negative : Bool) (num den : Nat) : Binary64 :=
  if num = 0 then zero negative
  else
    let exponent := exponentOf num den
    let scaled := rescale num den exponent
    let significand := roundDiv scaled.1 scaled.2
    let carried := significand = significandBound
    let exponent := if carried then exponent + 1 else exponent
    if maxExponent < exponent then .infinite negative
    else .finite negative (if carried then significandBound / 2 else significand) exponent

/-- The number nearest to a rational. -/
def ofRat (value : Rat) : Binary64 := ofRatio (value.num < 0) value.num.natAbs value.den

/-- The number nearest to an integer, or nothing if the integer is past the largest number. -/
def ofInt? (value : Int) : Option Binary64 :=
  match ofRatio (value < 0) value.natAbs 1 with
  | .infinite _ => none
  | number => some number

/-- The exact value of a finite number; zero for the others. -/
def toRat : Binary64 → Rat
  | .finite negative significand exponent =>
    let size : Rat :=
      if exponent < 0 then mkRat significand (Nat.pow 2 (-exponent).toNat)
      else mkRat (significand * Nat.pow 2 exponent.toNat : Nat) 1
    if negative then -size else size
  | _ => 0

/-- Where a number stands on the extended line; not-a-number stands nowhere. -/
def toExtended? : Binary64 → Option ExtendedRat
  | .infinite true => some .negativeInfinity
  | .infinite false => some .positiveInfinity
  | .nan _ => none
  | number => some (.rational number.toRat)

/-- Is this not a number? -/
def isNan : Binary64 → Bool
  | .nan _ => true
  | _ => false

/-- Is this a zero of either sign? -/
def isZero : Binary64 → Bool
  | .finite _ 0 _ => true
  | _ => false

/-- The sign bit. -/
def isNegative : Binary64 → Bool
  | .finite negative _ _ => negative
  | .infinite negative => negative
  | .nan _ => false

/-! ### Arithmetic -/

/-- The number with the opposite sign. -/
def negate : Binary64 → Binary64
  | .finite negative significand exponent => .finite (!negative) significand exponent
  | .infinite negative => .infinite (!negative)
  | .nan payload => .nan payload

/-- The rounded sum. A sum that is exactly zero is negative only when both terms are. -/
def add : Binary64 → Binary64 → Binary64
  | .nan payload, _ => .nan payload
  | _, .nan payload => .nan payload
  | .infinite first, .infinite second => if first = second then .infinite first else .nan 0
  | .infinite negative, _ => .infinite negative
  | _, .infinite negative => .infinite negative
  | first, second =>
    let total := first.toRat + second.toRat
    if total = 0 then zero (first.isNegative && second.isNegative) else ofRat total

/-- The rounded difference. -/
def subtract (first second : Binary64) : Binary64 := add first second.negate

/-- The rounded product. -/
def multiply : Binary64 → Binary64 → Binary64
  | .nan payload, _ => .nan payload
  | _, .nan payload => .nan payload
  | first, second =>
    let negative := first.isNegative != second.isNegative
    match first, second with
    | .finite _ _ _, .finite _ _ _ =>
      let product := first.toRat * second.toRat
      ofRatio negative product.num.natAbs product.den
    | _, _ => if first.isZero || second.isZero then .nan 0 else .infinite negative

/-- The rounded quotient by a positive natural number. -/
def divideNat : Binary64 → Nat → Binary64
  | .finite negative significand exponent, divisor =>
    let value := (Binary64.finite false significand exponent).toRat / (divisor : Rat)
    ofRatio negative value.num.natAbs value.den
  | number, _ => number

/-- Does the number have no fractional part? Infinities and not-a-number do not count. -/
def isIntegral : Binary64 → Bool
  | .finite negative significand exponent =>
    (Binary64.finite negative significand exponent).toRat.den == 1
  | _ => false

end Binary64

end Specimen
