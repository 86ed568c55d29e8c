/-
**Rounding onto binary grids.**

The numbers with a significand of full width at some number of binary places are a grid, and what is
less than half a step above one of its points is rounded to that point at most
(`Binary64.ofRatio_le_grid`). So a sum, difference or product that does not pass a number of the
grid does not pass it once it is rounded (`Binary64.IsKept`).

A part of a ratio is drawn as a fraction that is at least a step below one. Though the ratio may
have been rounded up, the part never passes the ratio itself (`Binary64.exists_part`).
-/

import Mathlib.Tactic.FieldSimp
import Mathlib.Tactic.Positivity
import Specimen.Proofs.Draws

namespace Specimen

/-! ### Quotients -/

/-- What is less than half above an integer is rounded to that at most. -/
theorem roundDiv_le_of_half {num den bound : Nat} (below : 2 * num < (2 * bound + 1) * den) :
    roundDiv num den ≤ bound := by
  have positive : 0 < den := Nat.pos_of_ne_zero fun zero => by simp [zero] at below
  have parts : den * (num / den) + num % den = num := Nat.div_add_mod num den
  have wider : (2 * bound + 1) * den ≤ 2 * ((bound + 1) * den) := by
    rw [← Nat.mul_assoc]
    exact Nat.mul_le_mul_right den (by omega)
  have quotient : num / den < bound + 1 := (Nat.div_lt_iff_lt_mul positive).2 (by omega)
  unfold roundDiv
  simp only
  split
  · exact Nat.le_of_lt_succ quotient
  · next up =>
    rcases Nat.lt_or_eq_of_le (Nat.le_of_lt_succ quotient) with less | same
    · exact less
    · have twice : (2 * bound + 1) * den = 2 * (den * bound) + den := by ring
      rw [same] at parts
      omega

/-- Rounding is up by one at most. -/
theorem roundDiv_eq_or (num den : Nat) :
    roundDiv num den = num / den ∨ roundDiv num den = num / den + 1 := by
  unfold roundDiv
  simp only
  split
  · exact .inl rfl
  · exact .inr rfl

namespace Binary64

/-! ### Exponents -/

theorem significandBound_eq : significandBound = 2 ^ 53 := rfl

/-- A ratio has a significand of full width at some number of binary places, or of more than full
width at none. -/
theorem exists_full {num den : Nat} (positive : 0 < den) (nonzero : num ≠ 0)
    (small : num < significandBound * den) :
    ∃ places : Nat, exponentOf num den = max minExponent (-(places : Int)) ∧
      num * 2 ^ places < significandBound * den ∧ 2 ^ 52 * den ≤ num * 2 ^ places := by
  have numLow : 2 ^ num.log2 ≤ num := Nat.log2_self_le nonzero
  have numHigh : num < 2 ^ (num.log2 + 1) := Nat.lt_log2_self
  have denLow : 2 ^ den.log2 ≤ den := Nat.log2_self_le positive.ne'
  have denHigh : den < 2 ^ (den.log2 + 1) := Nat.lt_log2_self
  have close : num.log2 ≤ den.log2 + 53 := by
    have above : num < 2 ^ (den.log2 + 54) := by
      calc num < significandBound * den := small
        _ ≤ 2 ^ 53 * 2 ^ (den.log2 + 1) := Nat.mul_le_mul (Nat.le_refl _) denHigh.le
        _ = 2 ^ (den.log2 + 54) := by rw [← Nat.pow_add, Nat.add_comm]
    have := (Nat.log2_lt nonzero).2 above
    omega
  -- the first guess is the right exponent, or else there is one place fewer
  obtain ⟨guess, isGuess⟩ : ∃ guess : Nat, num.log2 + guess = den.log2 + 53 :=
    ⟨den.log2 + 53 - num.log2, by omega⟩
  have atGuess : (num.log2 : Int) - den.log2 - 53 = -(guess : Int) := by omega
  have full : 2 ^ 52 * den ≤ num * 2 ^ guess := by
    calc 2 ^ 52 * den ≤ 2 ^ 52 * 2 ^ (den.log2 + 1) := Nat.mul_le_mul_left _ denHigh.le
      _ = 2 ^ num.log2 * 2 ^ guess := by rw [← Nat.pow_add, ← Nat.pow_add, isGuess]; congr 1; omega
      _ ≤ num * 2 ^ guess := Nat.mul_le_mul_right _ numLow
  unfold exponentOf
  simp only [atGuess, rescale_neg]
  by_cases fits : num * 2 ^ guess / den < significandBound
  · rw [if_pos fits]
    exact ⟨guess, rfl, (Nat.div_lt_iff_lt_mul positive).1 fits, full⟩
  · rw [if_neg fits]
    have wide : significandBound * den ≤ num * 2 ^ guess :=
      Nat.le_of_not_lt fun less => fits ((Nat.div_lt_iff_lt_mul positive).2 less)
    obtain ⟨places, rfl⟩ : ∃ places, guess = places + 1 := by
      refine Nat.exists_eq_succ_of_ne_zero fun none => ?_
      rw [none, Nat.pow_zero, Nat.mul_one] at wide
      omega
    refine ⟨places, by congr 1; omega, ?_, ?_⟩
    · calc num * 2 ^ places < 2 ^ (num.log2 + 1) * 2 ^ places :=
            Nat.mul_lt_mul_of_pos_right numHigh (Nat.two_pow_pos _)
        _ = 2 ^ 53 * 2 ^ den.log2 := by
            rw [← Nat.pow_add, ← Nat.pow_add]
            congr 1
            omega
        _ ≤ significandBound * den := Nat.mul_le_mul_left _ denLow
    · have double : num * 2 ^ (places + 1) = 2 * (num * 2 ^ places) := by ring
      have bound : significandBound * den = 2 * (2 ^ 52 * den) := by
        rw [significandBound_eq]
        ring
      omega

/-- A ratio below the bound of significands is rounded at so many binary places that its significand
has full width there, unless there are no more places. -/
theorem exponentOf_places {num den : Nat} (positive : 0 < den) (nonzero : num ≠ 0)
    (small : num < significandBound * den) :
    ∃ places : Nat, exponentOf num den = -(places : Int) ∧
      num * 2 ^ places < significandBound * den ∧
        (2 ^ 52 * den ≤ num * 2 ^ places ∨ places = 1074) := by
  obtain ⟨places, isExponent, above, full⟩ := exists_full positive nonzero small
  by_cases few : places ≤ 1074
  · exact ⟨places, by rw [isExponent, minExponent]; omega, above, .inl full⟩
  · have lower : ∀ fewer ≤ places, num * 2 ^ fewer < significandBound * den := fun fewer less =>
      Nat.lt_of_le_of_lt (Nat.mul_le_mul_left num (Nat.pow_le_pow_right (by decide) less)) above
    exact ⟨1074, by rw [isExponent, minExponent]; omega, lower 1074 (by omega), .inr rfl⟩

/-! ### Limits that rounding keeps -/

/-- The number is not negative, and not above a limit. -/
def IsWithin (number : Binary64) (limit : Rat) : Prop :=
  ∃ significand exponent, number = finite false significand exponent ∧ number.toRat ≤ limit

/-- A ratio less than half a step above a number of full width is rounded to that at most. -/
theorem ofRatio_le_grid {num den grid places : Nat} (positive : 0 < den) (few : places ≤ 1074)
    (full : 2 ^ 52 ≤ grid) (bounded : grid < significandBound)
    (below : 2 * (num * 2 ^ places) < (2 * grid + 1) * den) :
    (ofRatio false num den).IsWithin (grid / 2 ^ places) := by
  have limit : (0 : Rat) ≤ grid / 2 ^ places :=
    div_nonneg (Nat.cast_nonneg _) (pow_nonneg (by norm_num) _)
  by_cases nothing : num = 0
  · rw [nothing]
    refine ⟨0, minExponent, rfl, ?_⟩
    rw [show (ofRatio false 0 den) = finite false 0 minExponent from rfl, toRat_finite]
    simpa using limit
  have less : num * 2 ^ places < significandBound * den := by
    have wider : (2 * grid + 1) * den ≤ 2 * (significandBound * den) := by
      rw [← Nat.mul_assoc]
      exact Nat.mul_le_mul_right den (by omega)
    omega
  have small : num < significandBound * den :=
    Nat.lt_of_le_of_lt (Nat.le_mul_of_pos_right num (Nat.two_pow_pos places)) less
  obtain ⟨own, isExponent, above, width⟩ := exponentOf_places positive nothing small
  have moderate : exponentOf num den < maxExponent := by
    rw [isExponent, maxExponent]
    omega
  obtain ⟨significand, exponent, rounded, value⟩ := ofRatio_eq false nothing moderate
  refine ⟨significand, exponent, rounded, ?_⟩
  rw [rounded, value, isExponent, rescale_neg, zpow_neg, zpow_natCast, ← div_eq_mul_inv,
    div_le_div_iff₀ (by positivity) (by positivity)]
  norm_cast
  rcases Nat.lt_trichotomy own places with fewer | rfl | more
  · -- at fewer places the ratio would have more than full width at the grid's
    exfalso
    have wide := width.resolve_right (by omega)
    obtain ⟨extra, rfl⟩ := Nat.exists_eq_add_of_lt fewer
    have double : num * 2 ^ (own + extra + 1) = 2 * (num * 2 ^ own) * 2 ^ extra := by ring
    have grows := Nat.le_mul_of_pos_right (2 * (num * 2 ^ own)) (Nat.two_pow_pos extra)
    have bound : significandBound * den = 2 * (2 ^ 52 * den) := by
      rw [significandBound_eq]
      ring
    omega
  · exact Nat.mul_le_mul_right _ (roundDiv_le_of_half below)
  · -- at more places the whole width ends before the point of the grid
    obtain ⟨extra, rfl⟩ := Nat.exists_eq_add_of_lt more
    have most : roundDiv (num * 2 ^ (places + extra + 1)) den ≤ significandBound :=
      roundDiv_le positive above.le
    have wide : significandBound ≤ grid * 2 ^ (extra + 1) := by
      calc significandBound = 2 ^ 52 * 2 ^ 1 := rfl
        _ ≤ grid * 2 ^ (extra + 1) :=
          Nat.mul_le_mul full (Nat.pow_le_pow_right (by decide) (by omega))
    calc roundDiv (num * 2 ^ (places + extra + 1)) den * 2 ^ places
        ≤ grid * 2 ^ (extra + 1) * 2 ^ places := Nat.mul_le_mul_right _ (most.trans wide)
      _ = grid * 2 ^ (places + extra + 1) := by ring

/-- A ratio that does not pass the limit does not pass it once it is rounded. -/
def IsKept (limit : Rat) : Prop :=
  ∀ num den : Nat, 0 < den → (num : Rat) ≤ limit * den → (ofRatio false num den).IsWithin limit

theorem isKept_natCast {bound : Nat} (small : bound < significandBound) : IsKept bound :=
  fun _ _ positive within => ofRatio_isUpTo positive small (by exact_mod_cast within)

theorem isKept_grid {grid places : Nat} (few : places ≤ 1074) (full : 2 ^ 52 ≤ grid)
    (bounded : grid < significandBound) : IsKept (grid / 2 ^ places) := by
  intro num den positive within
  refine ofRatio_le_grid positive few full bounded ?_
  rw [div_mul_eq_mul_div, le_div_iff₀ (by positivity)] at within
  have whole : num * 2 ^ places ≤ grid * den := by exact_mod_cast within
  have twice : (2 * grid + 1) * den = 2 * (grid * den) + den := by ring
  omega

namespace IsWithin

variable {number part : Binary64} {limit : Rat}

theorem nonneg (within : number.IsWithin limit) : 0 ≤ number.toRat := by
  obtain ⟨significand, exponent, rfl, _⟩ := within
  rw [toRat_finite]
  positivity

theorem le (within : number.IsWithin limit) : number.toRat ≤ limit := by
  obtain ⟨_, _, _, upper⟩ := within
  exact upper

theorem zero (nonneg : 0 ≤ limit) : (Binary64.zero false).IsWithin limit := by
  refine ⟨0, minExponent, rfl, ?_⟩
  rw [Binary64.zero, toRat_finite, Nat.cast_zero, zero_mul]
  exact nonneg

end IsWithin

namespace IsKept

variable {number part : Binary64} {limit : Rat}

theorem ofRat (kept : IsKept limit) {value : Rat} (nonneg : 0 ≤ value) (within : value ≤ limit) :
    (Binary64.ofRat value).IsWithin limit := by
  have positive : (0 : Rat) < value.den := by exact_mod_cast value.den_pos
  have size : (value.num.natAbs : Rat) = value.num := by
    rw [Nat.cast_natAbs, abs_of_nonneg (Rat.num_nonneg.2 nonneg)]
  have rounded := kept value.num.natAbs value.den value.den_pos (by
    rw [size, ← Rat.mul_den_eq_num]
    exact mul_le_mul_of_nonneg_right within positive.le)
  unfold Binary64.ofRat
  rw [decide_eq_false (not_lt.2 (Rat.num_nonneg.2 nonneg))]
  exact rounded

/-- A rounded sum passes no number that is kept and that the sum does not pass. -/
theorem ofSum (kept : IsKept limit) {sum : Rat} (nonneg : 0 ≤ sum) (within : sum ≤ limit) :
    (if sum = 0 then zero false else Binary64.ofRat sum).IsWithin limit := by
  split
  · exact .zero (nonneg.trans within)
  · exact kept.ofRat nonneg within

/-- Taking zero away makes no number larger. -/
theorem subtract_zero (kept : IsKept limit) (within : number.IsWithin limit) :
    (number.subtract (zero false)).IsWithin limit := by
  have rounded := kept.ofSum within.nonneg within.le
  obtain ⟨significand, exponent, rfl, _⟩ := within
  have nothing : (zero true).toRat = 0 := by simp [zero, toRat_negative, toRat_finite]
  show (if (finite false significand exponent).toRat + (zero true).toRat = 0 then zero false
    else Binary64.ofRat ((finite false significand exponent).toRat + (zero true).toRat)).IsWithin limit
  rw [nothing, add_zero]
  exact rounded

/-- Adding to zero makes no number larger. -/
theorem of_zero_add (kept : IsKept limit) (within : number.IsWithin limit) :
    ((zero false).add number).IsWithin limit := by
  have rounded := kept.ofSum within.nonneg within.le
  obtain ⟨significand, exponent, rfl, _⟩ := within
  have nothing : (zero false).toRat = 0 := by simp [zero, toRat_finite]
  show (if (zero false).toRat + (finite false significand exponent).toRat = 0 then zero false
    else Binary64.ofRat ((zero false).toRat + (finite false significand exponent).toRat)).IsWithin limit
  rw [nothing, zero_add]
  exact rounded

end IsKept

/-! ### Parts of rounded ratios -/

/-- What is drawn is a fraction of one, and at least a step below it. -/
theorem fraction_isWithin {drawn : Nat} (less : drawn < significandBound) :
    (ofRatio false drawn significandBound).IsWithin ((significandBound - 1 : Nat) / 2 ^ 53) := by
  refine isKept_grid (by decide) (by decide) (by decide) _ _ (by decide) ?_
  rw [div_mul_eq_mul_div, le_div_iff₀ (by norm_num)]
  exact_mod_cast Nat.mul_le_mul_right _ (Nat.le_sub_one_of_lt less)

/-- Between half of its bound and its bound, a significand and the next one are kept. -/
theorem isKept_next {grid significand places : Nat} (few : places < 1074) (full : 2 ^ 52 ≤ grid)
    (bounded : grid < significandBound) (next : significand = grid ∨ significand = grid + 1) :
    IsKept (significand / 2 ^ (places + 1)) := by
  by_cases carried : significand = significandBound
  · -- a carried significand has full width at one place fewer
    have halved : (significand : Rat) / 2 ^ (places + 1) = (2 ^ 52 : Nat) / 2 ^ places := by
      rw [carried, significandBound_eq, pow_succ, div_eq_div_iff (by positivity) (by positivity)]
      push_cast
      ring
    rw [halved]
    exact isKept_grid few.le (Nat.le_refl _) (by decide)
  · exact isKept_grid few (by omega) (by omega)

/-- A part of a number at most one step above a point of the grid is rounded to that point at most.
-/
theorem multiply_le_grid {number part : Binary64} {grid places : Nat} (few : places ≤ 1074)
    (full : 2 ^ 52 ≤ grid) (bounded : grid < significandBound)
    (whole : number.IsWithin ((grid + 1 : Nat) / 2 ^ places))
    (within : part.IsWithin ((significandBound - 1 : Nat) / 2 ^ 53)) :
    (number.multiply part).IsWithin (grid / 2 ^ places) := by
  have nonneg := mul_nonneg whole.nonneg within.nonneg
  -- the last step of the fraction is worth more than half a step of the grid
  have below : number.toRat * part.toRat * 2 ^ places < grid + 1 / 2 := by
    have wide : (4503599627370496 : Rat) ≤ grid := by exact_mod_cast full
    have most := mul_le_mul whole.le within.le within.nonneg (by positivity)
    have fraction : ((significandBound - 1 : Nat) : Rat) = 2 ^ 53 - 1 := by
      rw [significandBound_eq]
      norm_num
    calc number.toRat * part.toRat * 2 ^ places
        ≤ (grid + 1 : Nat) / 2 ^ places * ((significandBound - 1 : Nat) / 2 ^ 53) * 2 ^ places :=
          mul_le_mul_of_nonneg_right most (by positivity)
      _ = (grid + 1) * (1 - 1 / 2 ^ 53) := by
          rw [fraction]
          push_cast
          field_simp
      _ < grid + 1 / 2 := by
          norm_num
          linarith
  generalize product : number.toRat * part.toRat = value at nonneg below
  have rounded : (ofRatio false value.num.natAbs value.den).IsWithin (grid / 2 ^ places) := by
    refine ofRatio_le_grid value.den_pos few full bounded ?_
    have positive : (0 : Rat) < value.den := by exact_mod_cast value.den_pos
    have size : (value.num.natAbs : Rat) = value * value.den := by
      rw [Nat.cast_natAbs, abs_of_nonneg (Rat.num_nonneg.2 nonneg), Rat.mul_den_eq_num]
    have scaled : (2 : Rat) * (value.num.natAbs * 2 ^ places) < (2 * grid + 1) * value.den := by
      calc (2 : Rat) * (value.num.natAbs * 2 ^ places)
          = value * 2 ^ places * (2 * value.den) := by rw [size]; ring
        _ < (grid + 1 / 2) * (2 * value.den) :=
            mul_lt_mul_of_pos_right below (by positivity)
        _ = (2 * grid + 1) * value.den := by ring
    exact_mod_cast scaled
  obtain ⟨significand, exponent, rfl, _⟩ := whole
  obtain ⟨other, place, rfl, _⟩ := within
  show (ofRatio false _ _).IsWithin _
  rw [product]
  exact rounded

/-- A ratio of less than half the bound of significands, but not too small, has a significand of
full width at some number of binary places. -/
theorem exists_places {num den : Nat} (positive : 0 < den) (small : num < 2 ^ 52 * den)
    (large : den ≤ num * 2 ^ 20) : ∃ less < 73, exponentOf num den = -((less + 1 : Nat) : Int) ∧
      num * 2 ^ (less + 1) < significandBound * den ∧ 2 ^ 52 * den ≤ num * 2 ^ (less + 1) := by
  have nonzero : num ≠ 0 := by
    rintro rfl
    omega
  have below : num < significandBound * den :=
    Nat.lt_of_lt_of_le small (Nat.mul_le_mul_right den (by decide))
  obtain ⟨places, isExponent, above, width⟩ := exponentOf_places positive nonzero below
  have few : places < 73 := by
    by_contra more
    have wide : significandBound * den ≤ num * 2 ^ places := by
      calc significandBound * den = den * 2 ^ 53 := Nat.mul_comm _ _
        _ ≤ num * 2 ^ 20 * 2 ^ 53 := Nat.mul_le_mul_right _ large
        _ = num * 2 ^ 73 := by rw [Nat.mul_assoc, ← Nat.pow_add]
        _ ≤ num * 2 ^ places :=
          Nat.mul_le_mul_left _ (Nat.pow_le_pow_right (by decide) (Nat.le_of_not_lt more))
    exact Nat.not_lt.2 wide above
  have width : 2 ^ 52 * den ≤ num * 2 ^ places := width.resolve_right (by omega)
  obtain ⟨less, rfl⟩ : ∃ less, places = less + 1 := by
    refine Nat.exists_eq_succ_of_ne_zero fun none => ?_
    rw [none, Nat.pow_zero, Nat.mul_one] at width
    omega
  exact ⟨less, by omega, isExponent, above, width⟩

/-- A ratio is rounded to a number that is kept. No part of that number, drawn below one, passes a
number that is kept and not above the ratio, though the ratio may have been rounded up. -/
theorem exists_part {num den : Nat} (positive : 0 < den) (small : num < 2 ^ 52 * den)
    (large : den ≤ num * 2 ^ 20) :
    ∃ limit whole : Rat, limit * den ≤ num ∧ IsKept limit ∧ IsKept whole ∧
      (ofRatio false num den).IsWithin whole ∧ ∀ number part : Binary64, number.IsWithin whole →
        part.IsWithin ((significandBound - 1 : Nat) / 2 ^ 53) →
          (number.multiply part).IsWithin limit := by
  have nonzero : num ≠ 0 := by
    rintro rfl
    omega
  obtain ⟨less, few, isExponent, above, width⟩ := exists_places positive small large
  obtain ⟨grid, isGrid⟩ : ∃ grid, grid = num * 2 ^ (less + 1) / den := ⟨_, rfl⟩
  have full : 2 ^ 52 ≤ grid := by
    rw [isGrid]
    exact (Nat.le_div_iff_mul_le positive).2 width
  have bounded : grid < significandBound := by
    rw [isGrid]
    exact (Nat.div_lt_iff_lt_mul positive).2 above
  have moderate : exponentOf num den < maxExponent := by
    rw [isExponent, maxExponent]
    omega
  obtain ⟨significand, exponent, rounded, value⟩ := ofRatio_eq false nonzero moderate
  rw [isExponent, rescale_neg, zpow_neg, zpow_natCast, ← div_eq_mul_inv] at value
  have next := roundDiv_eq_or (num * 2 ^ (less + 1)) den
  rw [← isGrid] at next
  refine ⟨grid / 2 ^ (less + 1), roundDiv (num * 2 ^ (less + 1)) den / 2 ^ (less + 1), ?_,
    isKept_grid (by omega) full bounded, isKept_next (by omega) full bounded next,
    ⟨significand, exponent, rounded, rounded ▸ value.le⟩, fun number part whole within => ?_⟩
  · have floor : grid * den ≤ num * 2 ^ (less + 1) := by
      rw [isGrid]
      exact Nat.div_mul_le_self _ _
    rw [div_mul_eq_mul_div, div_le_iff₀ (by positivity)]
    exact_mod_cast floor
  · refine multiply_le_grid (by omega) full bounded ?_ within
    obtain ⟨own, place, isFinite, upper⟩ := whole
    refine ⟨own, place, isFinite, upper.trans ?_⟩
    refine div_le_div_of_nonneg_right ?_ (by positivity)
    have most : roundDiv (num * 2 ^ (less + 1)) den ≤ grid + 1 := by omega
    exact_mod_cast most

end Binary64

end Specimen
