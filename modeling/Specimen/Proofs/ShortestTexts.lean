/-
**The shortest decimal of a number reads back as the number.**

A decimal is read by its value (`Binary64.ofDecimal_congr`), and one that differs from a number by
less than a part in `2 ^ 54` of it is read as the number (`Binary64.ofDecimal_near`). On the grid of
seventeen digits the decimal nearest to a number is that close, since `10 ^ 16 > 2 ^ 53`, so the
search for a shorter one ends there at the latest, and what it finds has been read back
(`Binary64.shortest_readsBack`).
-/

import Mathlib.Algebra.Order.Floor.Semifield
import Specimen.Binary64.Text
import Specimen.Proofs.NearestNumbers

namespace Specimen

namespace Binary64

variable {num den digits other : Nat} {power more : Int} {number : Binary64}

/-! ### Decimals by their values -/

theorem length_decimalDigits_le {size : Nat} (positive : 0 < size) :
    (decimalDigits num).length ≤ size ↔ num < 10 ^ size :=
  Nat.length_toDigits_le_iff (by decide) positive

theorem length_decimalDigits (num : Nat) : 0 < (decimalDigits num).length :=
  List.length_pos_iff.2 Nat.toDigits_ne_nil

/-- A number with some digits lies between two powers of ten. -/
theorem exists_size (nonzero : num ≠ 0) : ∃ size, (decimalDigits num).length = size + 1 ∧
    10 ^ size ≤ num ∧ num < 10 ^ (size + 1) := by
  obtain ⟨size, isSize⟩ : ∃ size, (decimalDigits num).length = size + 1 :=
    ⟨(decimalDigits num).length - 1, by have := length_decimalDigits num; omega⟩
  have above : num < 10 ^ (size + 1) := by
    rw [← length_decimalDigits_le (Nat.succ_pos size), isSize]
  refine ⟨size, isSize, ?_, above⟩
  rcases Nat.eq_zero_or_pos size with rfl | some
  · exact Nat.pos_of_ne_zero nonzero
  · by_contra less
    have short := (length_decimalDigits_le some).2 (not_le.1 less)
    omega

theorem log_eq_of_bounds {value : Rat} (point : Int) (positive : 0 < value)
    (low : (10 : Rat) ^ point ≤ value) (high : value < (10 : Rat) ^ (point + 1)) :
    Int.log 10 value = point := by
  have least := (Int.zpow_le_iff_le_log (b := 10) (by decide) positive).1 (by exact_mod_cast low)
  have most := (Int.lt_zpow_iff_log_lt (b := 10) (by decide) positive).1 (by exact_mod_cast high)
  omega

/-- A number has one digit more than its decimal logarithm. -/
theorem length_decimalDigits_eq (nonzero : num ≠ 0) :
    ((decimalDigits num).length : Int) = Int.log 10 (num : Rat) + 1 := by
  obtain ⟨size, isSize, below, above⟩ := exists_size nonzero
  rw [isSize, log_eq_of_bounds size (Nat.cast_pos.2 (Nat.pos_of_ne_zero nonzero)),
    Nat.cast_succ]
  · exact_mod_cast below
  · exact_mod_cast above

/-- The point of a ratio is one behind its decimal logarithm. -/
theorem decimalPoint_eq (nonzero : num ≠ 0) (positive : 0 < den) :
    decimalPoint num den = Int.log 10 ((num : Rat) / den) + 1 := by
  have denPos : (0 : Rat) < den := Nat.cast_pos.2 positive
  have numPos : 0 < num := Nat.pos_of_ne_zero nonzero
  have ratioPos : (0 : Rat) < num / den := div_pos (Nat.cast_pos.2 numPos) denPos
  unfold decimalPoint
  split
  · next large =>
    have some : num / den ≠ 0 := (Nat.div_pos large positive).ne'
    have least : (1 : Rat) ≤ num / den := by
      rw [one_le_div denPos]
      exact_mod_cast large
    rw [length_decimalDigits_eq some, Int.log_natCast, Int.log_of_one_le_right _ least,
      Nat.floor_div_eq_div]
  · next small =>
    have some : (den - 1) / num ≠ 0 := (Nat.div_pos (by omega) numPos).ne'
    obtain ⟨size, isSize, below, above⟩ := exists_size some
    have less : num * 10 ^ size < den := by
      have := (Nat.le_div_iff_mul_le numPos).1 below
      rw [Nat.mul_comm] at this
      omega
    have more : den ≤ num * 10 ^ (size + 1) := by
      have := (Nat.div_lt_iff_lt_mul numPos).1 above
      rw [Nat.mul_comm] at this
      omega
    rw [isSize, log_eq_of_bounds (-((size + 1 : Nat) : Int)) ratioPos]
    · push_cast
      omega
    · rw [zpow_neg, zpow_natCast, inv_le_iff_one_le_mul₀ (by positivity), div_mul_eq_mul_div,
        one_le_div denPos]
      exact_mod_cast more
    · have next : -((size + 1 : Nat) : Int) + 1 = -(size : Int) := by omega
      rw [next, zpow_neg, zpow_natCast, lt_inv_comm₀ ratioPos (by positivity), inv_div,
        lt_div_iff₀ (Nat.cast_pos.2 numPos), mul_comm]
      exact_mod_cast less

theorem decimalRatio_pos (digits : Nat) (power : Int) : 0 < (decimalRatio digits power).2 := by
  unfold decimalRatio
  split
  · exact Nat.pow_pos (by decide)
  · exact Nat.one_pos

theorem decimalRatio_div (digits : Nat) (power : Int) :
    ((decimalRatio digits power).1 : Rat) / (decimalRatio digits power).2 =
      digits * (10 : Rat) ^ power := by
  unfold decimalRatio
  split
  · obtain ⟨size, rfl⟩ : ∃ size : Nat, power = -size := ⟨(-power).toNat, by omega⟩
    simp [div_eq_mul_inv]
  · obtain ⟨size, rfl⟩ : ∃ size : Nat, power = size := ⟨power.toNat, by omega⟩
    simp

/-- Where the point of a decimal lies depends on its value. -/
theorem point_eq (nonzero : digits ≠ 0) :
    (decimalDigits digits).length + power =
      Int.log 10 ((digits : Rat) * (10 : Rat) ^ power) + 1 := by
  obtain ⟨size, isSize, below, above⟩ := exists_size nonzero
  have unit : (0 : Rat) < (10 : Rat) ^ power := zpow_pos (by norm_num) power
  have positive : (0 : Rat) < digits := Nat.cast_pos.2 (Nat.pos_of_ne_zero nonzero)
  rw [isSize, log_eq_of_bounds (size + power) (mul_pos positive unit)]
  · push_cast
    omega
  · rw [zpow_add₀ (by norm_num), zpow_natCast]
    exact mul_le_mul_of_nonneg_right (by exact_mod_cast below) unit.le
  · rw [add_right_comm, zpow_add₀ (by norm_num)]
    exact mul_lt_mul_of_pos_right (by exact_mod_cast above) unit

theorem ofDecimal_zero (negative : Bool) (power : Int) :
    ofDecimal negative 0 power = zero negative := if_pos rfl

/-- A decimal whose point is not too far away is rounded as a ratio. -/
theorem ofDecimal_eq (negative : Bool) (nonzero : digits ≠ 0) : ofDecimal negative digits power =
    if 400 < Int.log 10 ((digits : Rat) * (10 : Rat) ^ power) + 1 then .infinite negative
    else if Int.log 10 ((digits : Rat) * (10 : Rat) ^ power) + 1 < -400 then zero negative
    else ofRatio negative (decimalRatio digits power).1 (decimalRatio digits power).2 := by
  unfold ofDecimal
  simp only [if_neg nonzero, point_eq nonzero]

/-- A decimal is read by its value. -/
theorem ofDecimal_congr (negative : Bool)
    (same : (digits : Rat) * (10 : Rat) ^ power = other * (10 : Rat) ^ more) :
    ofDecimal negative digits power = ofDecimal negative other more := by
  have ne (exponent : Int) : (10 : Rat) ^ exponent ≠ 0 := zpow_ne_zero exponent (by norm_num)
  have zero : digits = 0 ↔ other = 0 := by
    rw [← Nat.cast_eq_zero (R := Rat), ← mul_eq_zero_iff_right (ne power), same,
      mul_eq_zero_iff_right (ne more), Nat.cast_eq_zero]
  by_cases none : digits = 0
  · rw [none, zero.1 none, ofDecimal_zero, ofDecimal_zero]
  · rw [ofDecimal_eq negative none, ofDecimal_eq negative fun isZero => none (zero.2 isZero), same,
      ofRatio_congr negative (decimalRatio_pos digits power) (decimalRatio_pos other more)]
    rw [decimalRatio_div, decimalRatio_div, same]

theorem two_pow_le_ten_pow (size : Nat) : (2 : Rat) ^ (3 * size) ≤ 10 ^ size := by
  rw [pow_mul]
  exact pow_le_pow_left₀ (by norm_num) (by norm_num) size

/-- Every number other than zero lies between two powers of ten. -/
theorem IsCanonical.bounds {significand : Nat} {exponent : Int}
    (canonical : IsCanonical significand exponent)
    (positive : 0 < (significand : Rat) * (2 : Rat) ^ exponent) :
    (10 : Rat) ^ (-400 : Int) ≤ significand * (2 : Rat) ^ exponent ∧
      (significand : Rat) * (2 : Rat) ^ exponent < 10 ^ (399 : Int) := by
  have some : significand ≠ 0 := by
    rintro rfl
    simp at positive
  have least : (2 : Rat) ^ minExponent ≤ (2 : Rat) ^ exponent :=
    zpow_le_zpow_right₀ one_le_two canonical.least
  have most : (2 : Rat) ^ exponent ≤ (2 : Rat) ^ 971 := by
    rw [← zpow_natCast]
    exact zpow_le_zpow_right₀ one_le_two canonical.most
  constructor
  · calc (10 : Rat) ^ (-400 : Int) = ((10 : Rat) ^ 400)⁻¹ := by rw [zpow_neg, zpow_ofNat]
      _ ≤ ((2 : Rat) ^ 1074)⁻¹ := by
        refine inv_anti₀ (by positivity) ((two_pow_le_ten_pow 400).trans' ?_)
        exact pow_le_pow_right₀ one_le_two (by norm_num)
      _ = (2 : Rat) ^ minExponent := by rw [minExponent, zpow_neg, zpow_ofNat]
      _ ≤ 1 * (2 : Rat) ^ exponent := least.trans_eq (one_mul _).symm
      _ ≤ significand * (2 : Rat) ^ exponent := by
        gcongr
        exact_mod_cast Nat.pos_of_ne_zero some
  · calc (significand : Rat) * (2 : Rat) ^ exponent ≤ 2 ^ 53 * 2 ^ 971 := by
          gcongr
          exact_mod_cast canonical.bounded.le
      _ = 2 ^ (53 + 971) := (pow_add 2 53 971).symm
      _ < 2 ^ (3 * 399) := pow_lt_pow_right₀ one_lt_two (by norm_num)
      _ ≤ 10 ^ 399 := two_pow_le_ten_pow 399
      _ = 10 ^ (399 : Int) := (zpow_ofNat _ _).symm

/-- A decimal close to a number is read as the number. -/
theorem ofDecimal_near {significand : Nat} {exponent : Int} (negative : Bool)
    (canonical : IsCanonical significand exponent)
    (near : |(digits : Rat) * (10 : Rat) ^ power - significand * (2 : Rat) ^ exponent| * 2 ^ 54 <
      significand * (2 : Rat) ^ exponent) :
    ofDecimal negative digits power = finite negative significand exponent := by
  have rounded : ofRatio negative (decimalRatio digits power).1 (decimalRatio digits power).2 =
      finite negative significand exponent := by
    refine ofRatio_near negative (decimalRatio_pos digits power) canonical ?_
    rwa [decimalRatio_div]
  have nonneg :=
    abs_nonneg ((digits : Rat) * (10 : Rat) ^ power - significand * (2 : Rat) ^ exponent)
  have valuePos : 0 < (significand : Rat) * (2 : Rat) ^ exponent := by linarith
  obtain ⟨least, most⟩ := canonical.bounds valuePos
  obtain ⟨below, above⟩ := abs_le.1 (le_refl
    |(digits : Rat) * (10 : Rat) ^ power - significand * (2 : Rat) ^ exponent|)
  have positive : 0 < (digits : Rat) * (10 : Rat) ^ power := by linarith
  have nonzero : digits ≠ 0 := by
    rintro rfl
    simp at positive
  have high : Int.log 10 ((digits : Rat) * (10 : Rat) ^ power) < 400 := by
    have tenfold : (10 : Rat) ^ (400 : Int) = 10 ^ (399 : Int) * 10 :=
      zpow_add_one₀ (by norm_num) 399
    rw [← Int.lt_zpow_iff_log_lt (by decide) positive, Nat.cast_ofNat, tenfold]
    generalize (10 : Rat) ^ (399 : Int) = limit at most ⊢
    linarith
  have low : -401 ≤ Int.log 10 ((digits : Rat) * (10 : Rat) ^ power) := by
    have tenfold : (10 : Rat) ^ (-400 : Int) = 10 ^ (-401 : Int) * 10 :=
      zpow_add_one₀ (by norm_num) (-401)
    have unit : (0 : Rat) < 10 ^ (-401 : Int) := zpow_pos (by norm_num) _
    rw [← Int.zpow_le_iff_le_log (by decide) positive, Nat.cast_ofNat]
    rw [tenfold] at least
    generalize (10 : Rat) ^ (-401 : Int) = limit at least unit ⊢
    linarith
  rw [ofDecimal_eq negative nonzero, if_neg (by omega), if_neg (by omega), rounded]

/-! ### The search -/

/-- A ratio in steps of a decimal grid. -/
def onGrid (num den : Nat) (power : Int) : Nat × Nat :=
  if power < 0 then (num * Nat.pow 10 (-power).toNat, den)
  else (num, den * Nat.pow 10 power.toNat)

theorem onGrid_pos (num : Nat) (positive : 0 < den) (power : Int) :
    0 < (onGrid num den power).2 := by
  unfold onGrid
  split
  · exact positive
  · exact Nat.mul_pos positive (Nat.pow_pos (by decide))

theorem onGrid_div (num den : Nat) (power : Int) :
    ((onGrid num den power).1 : Rat) / (onGrid num den power).2 =
      num / den / (10 : Rat) ^ power := by
  unfold onGrid
  split
  · obtain ⟨size, rfl⟩ : ∃ size : Nat, power = -size := ⟨(-power).toNat, by omega⟩
    simp [div_eq_mul_inv, mul_right_comm]
  · obtain ⟨size, rfl⟩ : ∃ size : Nat, power = size := ⟨power.toNat, by omega⟩
    simp [div_div]

theorem gridHit?_eq (number : Binary64) (num den : Nat) (power : Int) :
    gridHit? number num den power =
      let scaled := onGrid num den power
      let below := scaled.1 / scaled.2
      let nearest := roundDiv scaled.1 scaled.2
      let other := if nearest = below then below + 1 else below
      if ofDecimal false nearest power == number then some nearest
      else if ofDecimal false other power == number then some other
      else none := rfl

/-- What is found on a grid reads back. -/
theorem gridHit?_readsBack (hit : gridHit? number num den power = some digits) :
    ofDecimal false digits power = number := by
  rw [gridHit?_eq] at hit
  generalize onGrid num den power = scaled at hit
  simp only at hit
  split at hit
  · next reads =>
    cases hit
    exact eq_of_beq reads
  · next misses =>
    generalize (if roundDiv scaled.1 scaled.2 = scaled.1 / scaled.2 then scaled.1 / scaled.2 + 1
      else scaled.1 / scaled.2) = other at hit
    split at hit
    · next reads =>
      cases hit
      exact eq_of_beq reads
    · cases hit

/-- A grid has a hit if every point of it that is half a step away at most reads back. -/
theorem gridHit?_isSome (positive : 0 < den)
    (reads : ∀ digits : Nat, |(digits : Rat) - num / den / (10 : Rat) ^ power| ≤ 1 / 2 →
      ofDecimal false digits power = number) :
    (gridHit? number num den power).isSome = true := by
  have near := roundDiv_near (onGrid num den power).1 (onGrid_pos num positive power)
  rw [onGrid_div] at near
  rw [gridHit?_eq]
  simp only [beq_iff_eq.2 (reads _ near), if_true, Option.isSome_some]

theorem searchGrids_readsBack {point : Int} {fuel count : Nat}
    (reached : ∃ grid, count ≤ grid ∧ grid < count + fuel ∧
      (gridHit? number num den (point - grid)).isSome = true) :
    ofDecimal false (searchGrids number num den point fuel count).1
      (searchGrids number num den point fuel count).2 = number := by
  induction fuel generalizing count with
  | zero =>
    obtain ⟨grid, least, less, _⟩ := reached
    omega
  | succ fuel hypothesis =>
    rw [searchGrids]
    split
    · next digits hit => exact gridHit?_readsBack hit
    · next missed =>
      refine hypothesis ?_
      obtain ⟨grid, least, less, hits⟩ := reached
      refine ⟨grid, ?_, by omega, hits⟩
      rcases Nat.lt_or_eq_of_le least with later | rfl
      · exact later
      · rw [missed] at hits
        cases hits

/-- **The shortest decimal of a number reads back as the number**: at seventeen digits there is one
that does. -/
theorem shortest_readsBack {significand : Nat} {exponent : Int}
    (canonical : IsCanonical significand exponent) (nonzero : significand ≠ 0) :
    ofDecimal false (shortest significand exponent).1 (shortest significand exponent).2 =
      finite false significand exponent := by
  have value := toRat_finite significand exponent
  have positive : 0 < (finite false significand exponent).toRat := by
    rw [value]
    exact mul_pos (Nat.cast_pos.2 (Nat.pos_of_ne_zero nonzero)) (zpow_pos two_pos exponent)
  unfold shortest
  simp only
  generalize (finite false significand exponent).toRat = ratio at value positive
  have numPos : 0 < ratio.num := Rat.num_pos.2 positive
  have isRatio : ((ratio.num.natAbs : Nat) : Rat) / ratio.den = ratio := by
    rw [Nat.cast_natAbs, abs_of_pos numPos]
    exact ratio.num_div_den
  have some : ratio.num.natAbs ≠ 0 := by omega
  refine searchGrids_readsBack ⟨17, by omega, by omega, ?_⟩
  refine gridHit?_isSome ratio.den_pos fun digits near => ofDecimal_near false canonical ?_
  rw [decimalPoint_eq some ratio.den_pos, isRatio] at near ⊢
  rw [← value]
  obtain ⟨step, isStep⟩ : ∃ step : Rat,
      step = (10 : Rat) ^ (Int.log 10 ratio + 1 - ((17 : Nat) : Int)) := ⟨_, rfl⟩
  have stepPos : 0 < step := isStep ▸ zpow_pos (by norm_num) _
  have fine : step * 10 ^ 16 ≤ ratio := by
    have point : (10 : Rat) ^ Int.log 10 ratio ≤ ratio :=
      Int.zpow_log_le_self (by decide : 1 < 10) positive
    rw [isStep, ← zpow_ofNat, ← zpow_add₀ (by norm_num)]
    convert point using 2
    omega
  have spread : |(digits : Rat) * step - ratio| = |(digits : Rat) - ratio / step| * step := by
    rw [← abs_of_pos stepPos, ← abs_mul, abs_of_pos stepPos, sub_mul, div_mul_cancel₀ _ stepPos.ne']
  rw [← isStep] at near ⊢
  rw [spread]
  calc |(digits : Rat) - ratio / step| * step * 2 ^ 54 ≤ 1 / 2 * step * 2 ^ 54 := by gcongr
    _ < step * 10 ^ 16 := by linarith
    _ ≤ ratio := fine

end Binary64

end Specimen
