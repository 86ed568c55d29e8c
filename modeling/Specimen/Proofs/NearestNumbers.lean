/-
**What is close to a number is rounded to it.**

The exponent and the significand of a ratio depend on its value (`Binary64.ofRatio_congr`). A ratio
that differs from a number by less than a part in `2 ^ 54` of it is rounded to that number
(`Binary64.ofRatio_near`): where the significand is the least one of full width, numbers are closer
together below it than above, and a ratio below it is carried over.
-/

import Mathlib.Data.Int.Log
import Mathlib.Data.Rat.Floor
import Specimen.Proofs.Grids

namespace Specimen

/-! ### Quotients -/

section Quotients

variable {num den other more whole : Nat}

/-- Rounding moves a quotient by half at most. -/
theorem roundDiv_near (num : Nat) (positive : 0 < den) :
    |(roundDiv num den : Rat) - num / den| ≤ 1 / 2 := by
  have isPositive : (0 : Rat) < den := Nat.cast_pos.2 positive
  have parts : (num : Rat) / den = (num / den : Nat) + (num % den : Nat) / den := by
    rw [div_eq_iff isPositive.ne', add_mul, div_mul_cancel₀ _ isPositive.ne']
    exact_mod_cast (Nat.div_add_mod' num den).symm
  have low : (0 : Rat) ≤ (num % den : Nat) / den := by positivity
  have high : ((num % den : Nat) : Rat) / den < 1 :=
    (div_lt_one isPositive).2 (Nat.cast_lt.2 (Nat.mod_lt num positive))
  have half {rest : Nat} (less : 2 * rest ≤ den) : (rest : Rat) / den ≤ 1 / 2 := by
    rw [div_le_div_iff₀ isPositive two_pos, one_mul, mul_comm]
    exact_mod_cast less
  have halfUp {rest : Nat} (more : den ≤ 2 * rest) : 1 / 2 ≤ (rest : Rat) / den := by
    rw [div_le_div_iff₀ two_pos isPositive, one_mul, mul_comm]
    exact_mod_cast more
  rw [parts, abs_le]
  unfold roundDiv
  simp only
  split
  · next down =>
    have := half (show 2 * (num % den) ≤ den by omega)
    constructor <;> linarith
  · next up =>
    have := halfUp (show den ≤ 2 * (num % den) by omega)
    push_cast
    constructor <;> linarith

/-- A quotient is rounded to the integer that is less than half away. -/
theorem roundDiv_eq_of_near (positive : 0 < den) (near : |(num : Rat) / den - whole| < 1 / 2) :
    roundDiv num den = whole := by
  have rounded := abs_le.1 (roundDiv_near num positive)
  rw [abs_lt] at near
  have below : (roundDiv num den : Rat) < whole + 1 := by linarith
  have above : (whole : Rat) < roundDiv num den + 1 := by linarith
  have isBelow : roundDiv num den < whole + 1 := by exact_mod_cast below
  have isAbove : whole < roundDiv num den + 1 := by exact_mod_cast above
  omega

theorem roundDiv_mul_right (positive : 0 < more) :
    roundDiv (num * more) (den * more) = roundDiv num den := by
  unfold roundDiv
  rw [Nat.mul_div_mul_right _ _ positive, Nat.mul_mod_mul_right]
  simp only [← Nat.mul_assoc, Nat.mul_lt_mul_right positive, Nat.mul_left_inj positive.ne']

/-- A quotient is rounded by its value. -/
theorem roundDiv_congr (positive : 0 < den) (alsoPositive : 0 < more)
    (same : (num : Rat) / den = other / more) : roundDiv num den = roundDiv other more := by
  rw [div_eq_div_iff (Nat.cast_pos.2 positive).ne' (Nat.cast_pos.2 alsoPositive).ne'] at same
  have cross : num * more = other * den := by exact_mod_cast same
  rw [← roundDiv_mul_right alsoPositive, cross, Nat.mul_comm den more, roundDiv_mul_right positive]

end Quotients

namespace Binary64

variable {num den other more : Nat}

theorem rescale_pos (positive : 0 < den) (exponent : Int) : 0 < (rescale num den exponent).2 := by
  unfold rescale
  split
  · exact positive
  · exact Nat.mul_pos positive (Nat.pow_pos two_pos)

theorem rescale_div (num den : Nat) (exponent : Int) :
    ((rescale num den exponent).1 : Rat) / (rescale num den exponent).2 =
      num / den / (2 : Rat) ^ exponent := by
  unfold rescale
  split
  · obtain ⟨size, rfl⟩ : ∃ size : Nat, exponent = -size := ⟨(-exponent).toNat, by omega⟩
    simp [div_eq_mul_inv, mul_right_comm]
  · obtain ⟨size, rfl⟩ : ∃ size : Nat, exponent = size := ⟨exponent.toNat, by omega⟩
    simp [div_div]

/-- A power of two as a factor moves the logarithm. -/
theorem log_mul_zpow {size : Rat} (positive : 0 < size) (power : Int) :
    Int.log 2 (size * (2 : Rat) ^ power) = Int.log 2 size + power := by
  have unit : (0 : Rat) < (2 : Rat) ^ power := zpow_pos two_pos power
  have scaled : 0 < size * (2 : Rat) ^ power := mul_pos positive unit
  have low : Int.log 2 size + power ≤ Int.log 2 (size * (2 : Rat) ^ power) := by
    rw [← Int.zpow_le_iff_le_log one_lt_two scaled, Nat.cast_ofNat, zpow_add₀ two_ne_zero]
    exact mul_le_mul_of_nonneg_right (Int.zpow_log_le_self one_lt_two positive) unit.le
  have high : Int.log 2 (size * (2 : Rat) ^ power) < Int.log 2 size + 1 + power := by
    rw [← Int.lt_zpow_iff_log_lt one_lt_two scaled, Nat.cast_ofNat, zpow_add₀ two_ne_zero]
    exact mul_lt_mul_of_pos_right (Int.lt_zpow_succ_log_self one_lt_two size) unit
  omega

/-- The exponent of a ratio depends on its value. -/
theorem exponentOf_eq (nonzero : num ≠ 0) (positive : 0 < den) :
    exponentOf num den = max minExponent (Int.log 2 ((num : Rat) / den) - 52) := by
  have isPositive : (0 : Rat) < num / den :=
    div_pos (Nat.cast_pos.2 (Nat.pos_of_ne_zero nonzero)) (Nat.cast_pos.2 positive)
  have denPos : (0 : Rat) < den := Nat.cast_pos.2 positive
  have numLow : (2 : Rat) ^ num.log2 ≤ num := by exact_mod_cast Nat.log2_self_le nonzero
  have numHigh : (num : Rat) < 2 ^ (num.log2 + 1) := by exact_mod_cast Nat.lt_log2_self
  have denLow : (2 : Rat) ^ den.log2 ≤ den := by exact_mod_cast Nat.log2_self_le positive.ne'
  have denHigh : (den : Rat) < 2 ^ (den.log2 + 1) := by exact_mod_cast Nat.lt_log2_self
  have below : (num : Rat) / den <
      ((2 : Nat) : Rat) ^ (((num.log2 + 1 : Nat) : Int) - den.log2) := by
    rw [Nat.cast_ofNat, zpow_sub₀ two_ne_zero, zpow_natCast, zpow_natCast,
      div_lt_div_iff₀ denPos (by positivity)]
    exact mul_lt_mul numHigh denLow (by positivity) (by positivity)
  have above : ((2 : Nat) : Rat) ^ ((num.log2 : Int) - (den.log2 + 1 : Nat)) ≤
      (num : Rat) / den := by
    rw [Nat.cast_ofNat, zpow_sub₀ two_ne_zero, zpow_natCast, zpow_natCast,
      div_le_div_iff₀ (by positivity) denPos]
    exact mul_le_mul numLow denHigh.le (by positivity) (by positivity)
  have low := (Int.zpow_le_iff_le_log one_lt_two isPositive).1 above
  have high := (Int.lt_zpow_iff_log_lt one_lt_two isPositive).1 below
  obtain ⟨guess, isGuess⟩ : ∃ guess : Int, guess = (num.log2 : Int) - den.log2 - 53 := ⟨_, rfl⟩
  have fits : (rescale num den guess).1 / (rescale num den guess).2 < significandBound ↔
      Int.log 2 ((num : Rat) / den) < guess + 53 := by
    have scaled : (0 : Rat) < (rescale num den guess).2 :=
      Nat.cast_pos.2 (rescale_pos positive guess)
    rw [Nat.div_lt_iff_lt_mul (rescale_pos positive guess), ← Int.lt_zpow_iff_log_lt one_lt_two
      isPositive, Nat.cast_ofNat, zpow_add₀ two_ne_zero, ← div_lt_iff₀' (by positivity),
      ← rescale_div, div_lt_iff₀ scaled, significandBound_eq]
    exact_mod_cast Iff.rfl
  unfold exponentOf
  simp only [← isGuess, fits]
  split <;> congr 1 <;> omega

/-- A ratio is rounded by its value. -/
theorem ofRatio_congr (negative : Bool) (positive : 0 < den) (alsoPositive : 0 < more)
    (same : (num : Rat) / den = other / more) :
    ofRatio negative num den = ofRatio negative other more := by
  have denNe : (den : Rat) ≠ 0 := (Nat.cast_pos.2 positive).ne'
  have moreNe : (more : Rat) ≠ 0 := (Nat.cast_pos.2 alsoPositive).ne'
  have zero : num = 0 ↔ other = 0 := by
    rw [← Nat.cast_eq_zero (R := Rat), ← div_eq_zero_iff.trans (or_iff_left denNe), same,
      div_eq_zero_iff, or_iff_left moreNe, Nat.cast_eq_zero]
  by_cases none : num = 0
  · rw [ofRatio, ofRatio, if_pos none, if_pos (zero.1 none)]
  have exponents : exponentOf num den = exponentOf other more := by
    rw [exponentOf_eq none positive,
      exponentOf_eq (fun isZero => none (zero.2 isZero)) alsoPositive, same]
  have significands (exponent : Int) : roundDiv (rescale num den exponent).1
      (rescale num den exponent).2 = roundDiv (rescale other more exponent).1
        (rescale other more exponent).2 := by
    refine roundDiv_congr (rescale_pos positive _) (rescale_pos alsoPositive _) ?_
    rw [rescale_div, rescale_div, same]
  unfold ofRatio
  simp only [if_neg none, if_neg fun isZero => none (zero.2 isZero), exponents, significands]

/-- A significand at an exponent, as numbers have them: the significand has full width, unless the
exponent is the smallest one. -/
structure IsCanonical (significand : Nat) (exponent : Int) : Prop where
  bounded : significand < significandBound
  least : minExponent ≤ exponent
  most : exponent ≤ maxExponent
  full : 2 ^ 52 ≤ significand ∨ exponent = minExponent

section Near

variable {significand : Nat} {exponent : Int}

/-- A significand that is rounded to at the exponent of the ratio. -/
theorem ofRatio_of_rounded (negative : Bool) (nonzero : num ≠ 0)
    (isExponent : exponentOf num den = exponent)
    (rounded : roundDiv (rescale num den exponent).1 (rescale num den exponent).2 = significand)
    (bounded : significand < significandBound) (most : exponent ≤ maxExponent) :
    ofRatio negative num den = finite negative significand exponent := by
  unfold ofRatio
  simp only [if_neg nonzero, isExponent, rounded, if_neg bounded.ne, if_neg (not_lt.2 most)]

/-- A significand that is rounded up to the next power of two is carried over. -/
theorem ofRatio_of_carried (negative : Bool) (nonzero : num ≠ 0)
    (isExponent : exponentOf num den = exponent)
    (rounded : roundDiv (rescale num den exponent).1 (rescale num den exponent).2 =
      significandBound) (most : exponent + 1 ≤ maxExponent) :
    ofRatio negative num den = finite negative (2 ^ 52) (exponent + 1) := by
  have half : significandBound / 2 = 2 ^ 52 := rfl
  unfold ofRatio
  simp only [if_neg nonzero, isExponent, rounded, if_true, if_neg (not_lt.2 most), half]

section Scaled

/-! #### A ratio in units of a power of two -/

variable {size : Rat} (isSize : (num : Rat) / den = size * (2 : Rat) ^ exponent)

include isSize

theorem ne_zero_of_scaled (sizePos : 0 < size) : num ≠ 0 := by
  rintro rfl
  rw [Nat.cast_zero, zero_div] at isSize
  exact (mul_pos sizePos (zpow_pos two_pos exponent)).ne isSize

theorem exponentOf_scaled (positive : 0 < den) (sizePos : 0 < size) :
    exponentOf num den = max minExponent (Int.log 2 size + exponent - 52) := by
  rw [exponentOf_eq (ne_zero_of_scaled isSize sizePos) positive, isSize, log_mul_zpow sizePos]

theorem roundDiv_scaled (positive : 0 < den) {whole : Nat} {power : Int}
    (half : |size * (2 : Rat) ^ (exponent - power) - whole| < 1 / 2) :
    roundDiv (rescale num den power).1 (rescale num den power).2 = whole := by
  refine roundDiv_eq_of_near (rescale_pos positive _) ?_
  rwa [rescale_div, isSize, mul_div_assoc, ← zpow_sub₀ two_ne_zero]

end Scaled

/-- **What is close to a number is rounded to it.** -/
theorem ofRatio_near (negative : Bool) (positive : 0 < den)
    (canonical : IsCanonical significand exponent)
    (near : |(num : Rat) / den - significand * (2 : Rat) ^ exponent| * 2 ^ 54 <
      significand * (2 : Rat) ^ exponent) :
    ofRatio negative num den = finite negative significand exponent := by
  have unit : (0 : Rat) < (2 : Rat) ^ exponent := zpow_pos two_pos exponent
  obtain ⟨size, isSize⟩ : ∃ size : Rat, (num : Rat) / den = size * (2 : Rat) ^ exponent :=
    ⟨num / den / (2 : Rat) ^ exponent, (div_mul_cancel₀ _ unit.ne').symm⟩
  have close : |size - significand| * 2 ^ 54 < significand := by
    rw [isSize, ← sub_mul, abs_mul, abs_of_pos unit, mul_right_comm] at near
    exact lt_of_mul_lt_mul_right near unit.le
  have bounded : (significand : Rat) + 1 ≤ 2 ^ 53 := by exact_mod_cast canonical.bounded
  have nonneg := abs_nonneg (size - significand)
  obtain ⟨below, above⟩ := abs_le.1 (le_refl |size - significand|)
  have sizePos : 0 < size := by linarith
  have nonzero := ne_zero_of_scaled isSize sizePos
  have isExponent := exponentOf_scaled isSize positive sizePos
  have low (places : Int) := Int.zpow_le_iff_le_log (x := places) one_lt_two sizePos
  have high (places : Int) := Int.lt_zpow_iff_log_lt (x := places) one_lt_two sizePos
  have narrow := (high 53).1 (by norm_num; linarith)
  have least := canonical.least
  by_cases wide : 2 ^ 52 ≤ size ∨ exponent = minExponent
  · have same : exponentOf num den = exponent := by
      rw [isExponent]
      rcases wide with wide | smallest
      · have := (low 52).1 (by exact_mod_cast wide)
        omega
      · omega
    refine ofRatio_of_rounded negative nonzero same (roundDiv_scaled isSize positive ?_)
      canonical.bounded canonical.most
    rw [sub_self, zpow_zero, mul_one]
    linarith
  · -- The ratio is less than a power of two, and is rounded up to that.
    obtain ⟨less, larger⟩ := not_or.1 wide
    have full := canonical.full.resolve_right larger
    have isPower : significand = 2 ^ 52 := by
      have small : (significand : Rat) < 2 ^ 52 + 1 := by linarith
      have isSmall : significand < 2 ^ 52 + 1 := by exact_mod_cast small
      omega
    rw [isPower] at below above close
    push_cast at below above close
    have lower : exponentOf num den = exponent - 1 := by
      have := (low 51).1 (by norm_num; linarith)
      have := (high 52).1 (by norm_num; linarith)
      rw [isExponent]
      omega
    have rounded : roundDiv (rescale num den (exponent - 1)).1 (rescale num den (exponent - 1)).2 =
        significandBound := by
      refine roundDiv_scaled isSize positive ?_
      rw [sub_sub_cancel, zpow_one, significandBound_eq, abs_lt]
      push_cast
      constructor <;> linarith
    have carried := ofRatio_of_carried negative nonzero lower rounded
      (by have := canonical.most; omega)
    rwa [sub_add_cancel, ← isPower] at carried

end Near

end Binary64

end Specimen
