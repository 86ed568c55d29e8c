/-
**Rounding keeps integers and bounds.**

A ratio is rounded to a significand at some exponent, and `Binary64.ofRatio_eq` says so for ratios
that are not too large. Two things follow: an integer is rounded to an integer, and a ratio up to a
small integer is rounded to a number up to that integer.
-/

import Mathlib.Algebra.Order.Field.Power
import Mathlib.Data.Rat.Lemmas
import Mathlib.Tactic.Linarith
import Mathlib.Tactic.NormNum
import Mathlib.Tactic.Ring
import Specimen.Value.Convert

namespace Specimen

/-! ### Quotients -/

/-- Rounding does not pass an integer. -/
theorem roundDiv_le {num den bound : Nat} (positive : 0 < den) (within : num ≤ bound * den) :
    roundDiv num den ≤ bound := by
  have quotient : num / den ≤ bound := Nat.div_le_of_le_mul (by rwa [Nat.mul_comm])
  have parts : den * (num / den) + num % den = num := Nat.div_add_mod num den
  unfold roundDiv
  simp only
  split
  · exact quotient
  · next up =>
    rcases Nat.lt_or_eq_of_le quotient with less | same
    · exact less
    · have exact : num % den = 0 := by
        rw [same, Nat.mul_comm] at parts
        omega
      rw [exact] at up
      omega

theorem roundDiv_one (num : Nat) : roundDiv num 1 = num := by
  unfold roundDiv
  simp [Nat.mod_one]

namespace Binary64

/-! ### The value of a number -/

theorem rescale_neg (num den places : Nat) :
    rescale num den (-places) = (num * 2 ^ places, den) := by
  cases places with
  | zero => simp [rescale]
  | succ places =>
    have fraction : -((places + 1 : Nat) : Int) < 0 := by omega
    simp only [rescale, if_pos fraction, neg_neg, Int.toNat_natCast]
    rfl

theorem toRat_finite (significand : Nat) (exponent : Int) :
    (finite false significand exponent).toRat = significand * (2 : Rat) ^ exponent := by
  unfold toRat
  by_cases fraction : exponent < 0
  · obtain ⟨size, rfl⟩ : ∃ size : Nat, exponent = -size := ⟨(-exponent).toNat, by omega⟩
    simp only [if_pos fraction, Rat.mkRat_eq_div, zpow_neg, div_eq_mul_inv, neg_neg]
    simp
  · obtain ⟨size, rfl⟩ : ∃ size : Nat, exponent = size := ⟨exponent.toNat, by omega⟩
    simp [Rat.mkRat_eq_div]

theorem toRat_negative (significand : Nat) (exponent : Int) :
    (finite true significand exponent).toRat = -(finite false significand exponent).toRat := rfl

/-- A ratio that is not too large is a rounded significand at its exponent. -/
theorem ofRatio_eq {num den : Nat} (negative : Bool) (nonzero : num ≠ 0)
    (small : exponentOf num den < maxExponent) :
    ∃ significand exponent, ofRatio negative num den = finite negative significand exponent ∧
      (finite false significand exponent).toRat =
        roundDiv (rescale num den (exponentOf num den)).1 (rescale num den (exponentOf num den)).2 *
          (2 : Rat) ^ exponentOf num den := by
  unfold ofRatio
  simp only [if_neg nonzero]
  by_cases carried : roundDiv (rescale num den (exponentOf num den)).1
      (rescale num den (exponentOf num den)).2 = significandBound
  · have within : ¬ maxExponent < exponentOf num den + 1 := by omega
    simp only [carried, if_true, if_neg within]
    refine ⟨_, _, rfl, ?_⟩
    have halved : ((significandBound / 2 : Nat) : Rat) * 2 = significandBound := by
      exact_mod_cast (rfl : significandBound / 2 * 2 = significandBound)
    rw [toRat_finite, zpow_add_one₀ (by norm_num), ← halved]
    ring
  · have within : ¬ maxExponent < exponentOf num den := by omega
    simp only [if_neg carried, if_neg within]
    exact ⟨_, _, rfl, toRat_finite _ _⟩

/-! ### Integers -/

theorem exponentOf_one_le (num : Nat) : exponentOf num 1 ≤ max minExponent (num.log2 - 52) := by
  unfold exponentOf
  have one : Nat.log2 1 = 0 := rfl
  simp only [one]
  split <;> omega

/-- An integer of moderate size is rounded to an integer. -/
theorem ofRatio_integral {num places : Nat} (negative : Bool) (moderate : num < 2 ^ places)
    (few : places ≤ 1001) :
    ∃ significand exponent, ofRatio negative num 1 = finite negative significand exponent ∧
      ∃ whole : Nat, (finite false significand exponent).toRat = whole := by
  by_cases zero : num = 0
  · rw [zero]
    exact ⟨0, minExponent, rfl, 0, by simp [toRat_finite]⟩
  have size : num.log2 < places := (Nat.log2_lt zero).2 moderate
  have small : exponentOf num 1 < maxExponent := by
    have bound := exponentOf_one_le num
    unfold maxExponent
    unfold minExponent at bound
    omega
  obtain ⟨significand, exponent, rounded, value⟩ := ofRatio_eq negative zero small
  refine ⟨significand, exponent, rounded, ?_⟩
  rw [value]
  by_cases fraction : exponentOf num 1 < 0
  · -- The significand is the integer shifted to the left, so nothing is lost.
    obtain ⟨places, shifted⟩ : ∃ places : Nat, exponentOf num 1 = -places :=
      ⟨(-exponentOf num 1).toNat, by omega⟩
    refine ⟨num, ?_⟩
    rw [shifted, rescale_neg, roundDiv_one]
    simp
  · obtain ⟨places, shifted⟩ : ∃ places : Nat, exponentOf num 1 = places :=
      ⟨(exponentOf num 1).toNat, by omega⟩
    rw [shifted, zpow_natCast]
    refine ⟨roundDiv (rescale num 1 places).1 (rescale num 1 places).2 * 2 ^ places, ?_⟩
    push_cast
    rfl

/-! ### Bounds -/

theorem exponentOf_nonpos {num den : Nat} (small : num < significandBound * den) :
    exponentOf num den ≤ 0 := by
  have positive : den ≠ 0 := by
    rintro rfl
    simp at small
  have close : num.log2 ≤ den.log2 + 53 := by
    by_cases zero : num = 0
    · simp [zero]
    · have above : num < 2 ^ (den.log2 + 54) := by
        have den_lt : den < 2 ^ (den.log2 + 1) := Nat.lt_log2_self
        calc num < significandBound * den := small
          _ ≤ 2 ^ 53 * 2 ^ (den.log2 + 1) := Nat.mul_le_mul (Nat.le_refl _) den_lt.le
          _ = 2 ^ (den.log2 + 54) := by rw [← Nat.pow_add, Nat.add_comm]
      have := (Nat.log2_lt zero).2 above
      omega
  unfold exponentOf minExponent
  simp only
  by_cases level : (num.log2 : Int) - den.log2 - 53 = 0
  · have less : num / den < significandBound :=
      (Nat.div_lt_iff_lt_mul (Nat.pos_of_ne_zero positive)).2 small
    have scaled : rescale num den 0 = (num, den) := by simp [rescale]
    rw [level, scaled]
    simp [less]
  · split <;> omega

/-- The number is not negative, and not above an integer. -/
def IsUpTo (number : Binary64) (bound : Nat) : Prop :=
  ∃ significand exponent, number = finite false significand exponent ∧ number.toRat ≤ bound

theorem IsUpTo.nonneg {number : Binary64} {bound : Nat} (within : number.IsUpTo bound) :
    0 ≤ number.toRat := by
  obtain ⟨significand, exponent, rfl, _⟩ := within
  rw [toRat_finite]
  positivity

theorem IsUpTo.le {number : Binary64} {bound : Nat} (within : number.IsUpTo bound) :
    number.toRat ≤ bound := by
  obtain ⟨_, _, _, upper⟩ := within
  exact upper

theorem zero_isUpTo (bound : Nat) : (zero false).IsUpTo bound := by
  refine ⟨0, minExponent, rfl, ?_⟩
  rw [zero, toRat_finite, Nat.cast_zero, zero_mul]
  exact Nat.cast_nonneg bound

/-- A ratio up to a small integer is rounded to a number up to that integer. -/
theorem ofRatio_isUpTo {num den bound : Nat} (positive : 0 < den) (small : bound < significandBound)
    (within : num ≤ bound * den) : (ofRatio false num den).IsUpTo bound := by
  by_cases nothing : num = 0
  · rw [nothing]
    exact zero_isUpTo bound
  have below : exponentOf num den ≤ 0 := exponentOf_nonpos
    (Nat.lt_of_le_of_lt within ((Nat.mul_lt_mul_right positive).2 small))
  have moderate : exponentOf num den < maxExponent := by
    unfold maxExponent
    omega
  obtain ⟨significand, exponent, rounded, value⟩ := ofRatio_eq false nothing moderate
  refine ⟨significand, exponent, rounded, ?_⟩
  obtain ⟨places, shifted⟩ : ∃ places : Nat, exponentOf num den = -places :=
    ⟨(-exponentOf num den).toNat, by omega⟩
  have limited : roundDiv (num * 2 ^ places) den ≤ bound * 2 ^ places :=
    roundDiv_le positive (by
      rw [Nat.mul_right_comm]
      exact Nat.mul_le_mul_right _ within)
  rw [rounded, value, shifted, rescale_neg, zpow_neg, zpow_natCast, ← div_eq_mul_inv,
    div_le_iff₀ (by positivity)]
  exact_mod_cast limited

theorem natAbs_num_le {value : Rat} {bound : Nat} (nonneg : 0 ≤ value) (within : value ≤ bound) :
    value.num.natAbs ≤ bound * value.den := by
  have positive : (0 : Rat) < value.den := by exact_mod_cast value.den_pos
  have scaled : (value.num : Rat) ≤ bound * value.den := by
    calc (value.num : Rat) = value * value.den := (Rat.mul_den_eq_num value).symm
      _ ≤ bound * value.den := mul_le_mul_of_nonneg_right within positive.le
  have whole : value.num ≤ (bound * value.den : Nat) := by exact_mod_cast scaled
  have := Rat.num_nonneg.2 nonneg
  omega

theorem ofRat_isUpTo {value : Rat} {bound : Nat} (nonneg : 0 ≤ value)
    (small : bound < significandBound) (within : value ≤ bound) :
    (ofRatio false value.num.natAbs value.den).IsUpTo bound ∧ (ofRat value).IsUpTo bound := by
  have rounded := ofRatio_isUpTo value.den_pos small (natAbs_num_le nonneg within)
  have notNegative : ¬ value.num < 0 := not_lt.2 (Rat.num_nonneg.2 nonneg)
  refine ⟨rounded, ?_⟩
  unfold ofRat
  rw [decide_eq_false notNegative]
  exact rounded

/-- A part of a number is not above it. -/
theorem multiply_isUpTo {number part : Binary64} {bound : Nat} (small : bound < significandBound)
    (whole : number.IsUpTo bound) (within : part.IsUpTo 1) :
    (number.multiply part).IsUpTo bound := by
  have product : number.toRat * part.toRat ≤ bound := by
    calc number.toRat * part.toRat ≤ number.toRat * 1 :=
          mul_le_mul_of_nonneg_left (by exact_mod_cast within.le) whole.nonneg
      _ ≤ bound := by rw [mul_one]; exact whole.le
  have rounded := (ofRat_isUpTo (mul_nonneg whole.nonneg within.nonneg) small product).1
  obtain ⟨significand, exponent, rfl, _⟩ := whole
  obtain ⟨other, place, rfl, _⟩ := within
  exact rounded

theorem zero_add_isUpTo {number : Binary64} {bound : Nat} (small : bound < significandBound)
    (within : number.IsUpTo bound) : ((zero false).add number).IsUpTo bound := by
  have rounded := (ofRat_isUpTo within.nonneg small within.le).2
  obtain ⟨significand, exponent, rfl, _⟩ := within
  have nothing : (zero false).toRat = 0 := by simp [zero, toRat_finite]
  unfold add
  simp only [zero]
  rw [zero] at nothing
  rw [nothing, zero_add]
  split
  · exact zero_isUpTo bound
  · exact rounded

end Binary64

/-! ### Numbers among values -/

/-- An integer of moderate size counts as a number without a fraction. -/
theorem Value.isIntegral_toBinary64 {value : Int} {places : Nat}
    (moderate : value.natAbs < 2 ^ places) (few : places ≤ 1001) :
    ∃ number, (Value.int value).toBinary64 = .ok number ∧ number.isIntegral = true := by
  obtain ⟨significand, exponent, rounded, whole, value_eq⟩ :=
    Binary64.ofRatio_integral (value < 0) moderate few
  refine ⟨.finite (value < 0) significand exponent, ?_, ?_⟩
  · simp only [Value.toBinary64, Value.toInt?, Binary64.ofInt?, rounded]
  · unfold Binary64.isIntegral
    by_cases negative : value < 0
    · simp [negative, Binary64.toRat_negative, value_eq]
    · simp [negative, value_eq]

end Specimen
