/-
**Integers among values.**

Depths, lengths and bounds are values, and most of them are integers, as which booleans count too.
On integers the comparisons of values are those of integers.
-/

import Specimen.Context

namespace Specimen

theorem ExtendedRat.order_intCast (first second : Int) :
    order (.rational first) (.rational second) = compare first second := by
  simp only [order, Rat.intCast_lt_intCast, Rat.intCast_inj]
  rfl

namespace Value

theorem toExtended_of_toInt {value : Value} {number : Int} (found : value.toInt? = some number) :
    value.toExtended? = some (.rational number) := by
  cases value with
  | bool truth =>
    cases found
    cases truth <;> rfl
  | int given =>
    cases found
    rfl
  | _ => cases found

theorem increment_of_toInt {value : Value} {number : Int} (found : value.toInt? = some number) :
    value.increment = .ok (.int (number + 1)) := by
  cases value with
  | bool _ | int _ =>
    cases found
    rfl
  | _ => cases found

theorem toIndex_of_toInt {value : Value} {number : Int} (found : value.toInt? = some number) :
    value.toIndex = .ok number := by
  cases value with
  | bool _ | int _ =>
    cases found
    rfl
  | _ => cases found

theorem toInteger_of_toInt {value : Value} {number : Int} (found : value.toInt? = some number) :
    value.toInteger = .ok number := by
  cases value with
  | bool _ | int _ =>
    cases found
    rfl
  | _ => cases found

theorem nonNull_of_toInt {value : Value} {number : Int} (found : value.toInt? = some number) :
    value.nonNull? = some value := by
  cases value with
  | null => cases found
  | _ => rfl

/-- Numbers compare by value. -/
theorem holds_of_rational (comparison : Comparison) {first second : Value} {left right : Rat}
    (ofFirst : first.toExtended? = some (.rational left))
    (ofSecond : second.toExtended? = some (.rational right)) :
    first.holds comparison second =
      .ok (comparison.holdsOf (ExtendedRat.order (.rational left) (.rational right))) := by
  have numbers : numbersHold comparison first second =
      comparison.holdsOf (ExtendedRat.order (.rational left) (.rational right)) := by
    rw [numbersHold, ofFirst, ofSecond]
  rw [← numbers]
  cases first with
  | bool _ | int _ | float _ =>
    cases second with
    | bool _ | int _ | float _ => rfl
    | _ => cases ofSecond
  | _ => cases ofFirst

/-- Integers compare by value. -/
theorem compares_of_toInt (comparison : Comparison) {first second : Value} {left right : Int}
    (ofFirst : first.toInt? = some left) (ofSecond : second.toInt? = some right) :
    first.compares comparison second = .ok (comparison.holdsOf (compare left right)) := by
  rw [compares, holds_of_rational comparison (toExtended_of_toInt ofFirst)
    (toExtended_of_toInt ofSecond), ExtendedRat.order_intCast]

theorem less_of_toInt {first second : Value} {left right : Int}
    (ofFirst : first.toInt? = some left) (ofSecond : second.toInt? = some right) :
    first.compares .less second = .ok (decide (left < right)) := by
  rw [compares_of_toInt _ ofFirst ofSecond, Comparison.holdsOf]
  by_cases below : left < right
  · rw [Int.compare_eq_lt.2 below, decide_eq_true below]
    rfl
  · have other := mt Int.compare_eq_lt.1 below
    rw [decide_eq_false below, beq_eq_false_iff_ne.2 other]

theorem greater_of_toInt {first second : Value} {left right : Int}
    (ofFirst : first.toInt? = some left) (ofSecond : second.toInt? = some right) :
    first.compares .greater second = .ok (decide (right < left)) := by
  rw [compares_of_toInt _ ofFirst ofSecond, Comparison.holdsOf]
  by_cases above : right < left
  · rw [Int.compare_eq_gt.2 above, decide_eq_true above]
    rfl
  · have other := mt Int.compare_eq_gt.1 above
    rw [decide_eq_false above, beq_eq_false_iff_ne.2 other]

theorem greaterEqual_of_toInt {first second : Value} {left right : Int}
    (ofFirst : first.toInt? = some left) (ofSecond : second.toInt? = some right) :
    first.compares .greaterEqual second = .ok (decide (right ≤ left)) := by
  rw [compares_of_toInt _ ofFirst ofSecond, Comparison.holdsOf]
  by_cases above : right ≤ left
  · have other := Int.compare_ne_lt.2 above
    rw [decide_eq_true above, bne_iff_ne.2 other]
  · rw [Int.compare_eq_lt.2 (by omega), decide_eq_false above]
    rfl

end Value

end Specimen
