/-
**What is drawn.**

Where there is something to draw, a draw gives it: an integer of an interval that is not empty, a
member of a list that is not empty, a text of so many letters, and a date not long before another.
What was drawn lies within the bounds of the draw, whatever the random source holds.
-/

import Specimen.Proofs.Order
import Specimen.Proofs.Rounding
import Specimen.Proofs.Runs

namespace Specimen

open Run (Gives)

/-! ### The random source -/

namespace Twister

theorem rejectFrom_lt {bound : Nat} (positive : 0 < bound) (count fuel : Nat) (twister : Twister) :
    (rejectFrom bound count fuel twister).1 < bound := by
  induction fuel generalizing twister with
  | zero => exact Nat.mod_lt _ positive
  | succ fuel hypothesis =>
    unfold rejectFrom
    simp only
    split
    · next drawn => exact drawn
    · exact hypothesis _

theorem below_lt {bound : Nat} (positive : 0 < bound) (twister : Twister) :
    (twister.below bound).1 < bound := rejectFrom_lt positive _ _ twister

theorem unit_lt (twister : Twister) : twister.unit.1 < Binary64.significandBound := by
  have high : (twister.next.1 >>> 5).toNat < 134217728 := by
    have word := twister.next.1.toNat_lt
    rw [UInt32.toNat_shiftRight, Nat.shiftRight_eq_div_pow]
    exact (Nat.div_lt_iff_lt_mul (by decide)).2 word
  have low : (twister.next.2.next.1 >>> 6).toNat < 67108864 := by
    have word := twister.next.2.next.1.toNat_lt
    rw [UInt32.toNat_shiftRight, Nat.shiftRight_eq_div_pow]
    exact (Nat.div_lt_iff_lt_mul (by decide)).2 word
  have total : Binary64.significandBound = 9007199254740992 := rfl
  unfold unit
  simp only
  omega

end Twister

/-! ### Spans -/

theorem truncateRat_of_nonneg {value : Rat} (nonneg : 0 ≤ value) :
    truncateRat value = value.floor := by
  rw [truncateRat, Rat.floor_def, Int.tdiv_eq_ediv_of_nonneg (Rat.num_nonneg.2 nonneg)]

theorem roundRat_upTo {value : Rat} {bound : Nat} (nonneg : 0 ≤ value) (within : value ≤ bound) :
    0 ≤ roundRat value ∧ roundRat value ≤ bound := by
  have size : roundDiv value.num.natAbs value.den ≤ bound :=
    roundDiv_le value.den_pos (Binary64.natAbs_num_le nonneg within)
  have notNegative : ¬ value.num < 0 := not_lt.2 (Rat.num_nonneg.2 nonneg)
  unfold roundRat
  simp only [if_neg notNegative]
  omega

theorem roundRat_ofRat_upTo {value : Rat} {bound : Nat} (nonneg : 0 ≤ value)
    (small : bound < Binary64.significandBound) (within : value ≤ bound) :
    0 ≤ roundRat (Binary64.ofRat value).toRat ∧ roundRat (Binary64.ofRat value).toRat ≤ bound := by
  have rounded := (Binary64.ofRat_isUpTo nonneg small within).2
  exact roundRat_upTo rounded.nonneg rounded.le

/-- Whole seconds and the rounded fraction do not pass an integer that the seconds do not pass. -/
theorem microseconds_upTo {value : Rat} {bound : Nat} (nonneg : 0 ≤ value)
    (within : value ≤ bound) :
    0 ≤ value.floor * (microsPerSecond : Int) +
        roundRat (Binary64.ofRat ((value - value.floor) * microsPerSecond)).toRat ∧
      value.floor * (microsPerSecond : Int) +
        roundRat (Binary64.ofRat ((value - value.floor) * microsPerSecond)).toRat ≤
          bound * (microsPerSecond : Int) := by
  have second : (microsPerSecond : Int) = 1000000 := rfl
  have least : 0 ≤ value.floor := Rat.le_floor_iff.2 (by exact_mod_cast nonneg)
  have greatest : value.floor ≤ bound := by
    have : (value.floor : Rat) ≤ bound := (Rat.floor_le value).trans within
    exact_mod_cast this
  have start : (0 : Rat) ≤ (value - value.floor) * microsPerSecond :=
    mul_nonneg (sub_nonneg.2 (Rat.floor_le value)) (Nat.cast_nonneg _)
  rcases Int.lt_or_eq_of_le greatest with less | same
  · have part : value - value.floor ≤ 1 := by
      have next := Rat.lt_floor_add_one value
      push_cast at next
      linarith
    have micros : (value - value.floor) * microsPerSecond ≤ (microsPerSecond : Nat) :=
      (mul_le_mul_of_nonneg_right part (Nat.cast_nonneg _)).trans_eq (one_mul _)
    obtain ⟨fewest, most⟩ := roundRat_ofRat_upTo start (by decide) micros
    rw [second] at most ⊢
    omega
  · -- There is no fraction left to be rounded.
    have micros : (value - value.floor) * microsPerSecond ≤ (0 : Nat) := by
      have nothing : value - value.floor ≤ 0 := by
        rw [same]
        push_cast
        linarith
      rw [Nat.cast_zero]
      exact mul_nonpos_of_nonpos_of_nonneg nothing (Nat.cast_nonneg _)
    obtain ⟨fewest, most⟩ := roundRat_ofRat_upTo start (by decide) micros
    rw [second]
    omega

theorem isSpan_of_upTo {span : Int} {bound : Nat} (short : bound < spanDayLimit) (nonneg : 0 ≤ span)
    (within : span ≤ bound * (microsPerSecond : Int)) : isSpan span = true := by
  have day : (microsPerDay : Int) = 86400000000 := rfl
  have second : (microsPerSecond : Int) = 1000000 := rfl
  have days : spanDays span = span / 86400000000 := by
    rw [spanDays, day, Int.fdiv_eq_ediv_of_nonneg _ (by omega)]
  rw [second] at within
  unfold isSpan
  rw [days, decide_eq_true_eq]
  omega

/-- A number of seconds up to an integer is a span of up to as many seconds. -/
theorem spanOfSeconds_upTo {seconds : Binary64} {bound : Nat} (within : seconds.IsUpTo bound)
    (short : bound < spanDayLimit) :
    ∃ span, spanOfSeconds seconds = .ok span ∧ 0 ≤ span ∧
      span ≤ bound * (microsPerSecond : Int) := by
  obtain ⟨nonneg, limited⟩ := microseconds_upTo within.nonneg within.le
  have isShort := isSpan_of_upTo short nonneg limited
  have whole : truncateRat seconds.toRat = seconds.toRat.floor := truncateRat_of_nonneg within.nonneg
  refine ⟨_, ?_, nonneg, limited⟩
  obtain ⟨significand, exponent, rfl, _⟩ := within
  unfold spanOfSeconds
  simp only [whole, isShort, if_true]

namespace Draw

/-! ### Numbers and choices -/

/-- An integer is drawn from an interval that has one, whichever values the ends are. -/
theorem integer_gives_of_toInt {first last : Value} {low high : Int}
    (isLow : first.toInt? = some low) (isHigh : last.toInt? = some high) (ordered : low ≤ high) :
    Gives (integer first last) fun drawn => low ≤ drawn ∧ drawn ≤ high := by
  have drawn : ∀ twister : Twister, ∃ number : Int,
      (twister.between low (high + 1 - 1)).1 = .ok number ∧ low ≤ number ∧ number ≤ high := by
    intro twister
    have positive : 0 < (high + 1 - 1 - low + 1).toNat := by omega
    have below := Twister.below_lt positive twister
    refine ⟨low + (twister.below (high + 1 - 1 - low + 1).toNat).1, ?_, by omega, by omega⟩
    unfold Twister.between
    rw [if_pos (by omega)]
  have stop : (Value.int (high + 1)).toIndex = .ok (high + 1) := rfl
  unfold integer
  simp only [Value.increment_of_toInt isHigh, Value.toIndex_of_toInt isLow, stop, Run.lift_ok,
    pure_bind]
  have attempt : Gives (Run.draw fun twister => twister.between low (high + 1 - 1)) fun result =>
      ∃ number : Int, result = .ok number ∧ low ≤ number ∧ number ≤ high := Gives.draw drawn
  refine attempt.bind fun result found => ?_
  obtain ⟨number, isNumber, within⟩ := found
  exact Gives.lift isNumber within

/-- An integer is drawn from an interval that has one. -/
theorem integer_gives {low high : Int} (ordered : low ≤ high) :
    Gives (integer (.int low) (.int high)) fun drawn => low ≤ drawn ∧ drawn ≤ high :=
  integer_gives_of_toInt rfl rfl ordered

theorem boolean_gives : Gives boolean fun _ => True := by
  have bit : Gives (Run.draw fun twister => twister.bits 1) fun _ => True :=
    Gives.draw fun _ => True.intro
  exact bit.bind fun _ _ => Gives.pure True.intro

theorem place_gives {count : Nat} (positive : 0 < count) : Gives (place count) (· < count) := by
  unfold place
  rw [if_neg (Nat.ne_of_gt positive)]
  exact Gives.draw fun twister => Twister.below_lt positive twister

/-- A member is drawn from a list that has one. -/
theorem member_gives {α : Type} {members : List α} (nonempty : members ≠ []) :
    Gives (member members) (· ∈ members) := by
  refine Gives.bind (place_gives (List.length_pos_of_ne_nil nonempty)) fun index within => ?_
  rw [List.getElem?_eq_getElem within]
  exact Gives.pure (List.getElem_mem within)

/-! ### Texts -/

theorem lettersOf_gives (count : Nat) : Gives (lettersOf count) (·.length = count) := by
  induction count with
  | zero => exact Gives.pure rfl
  | succ count hypothesis =>
    refine Gives.bind (member_gives (by decide)) fun letter _ => ?_
    refine Gives.bind hypothesis fun others length => Gives.pure ?_
    rw [List.length_cons, length]

/-- As many letters are drawn as are wanted. -/
theorem alpha_gives (count : Nat) : Gives (alpha (.int count)) (·.length = count) := by
  unfold alpha
  rw [Value.greater_of_toInt rfl rfl, Run.lift_ok, pure_bind]
  by_cases wanted : (0 : Int) < count
  · rw [decide_eq_true wanted]
    refine Gives.bind (lettersOf_gives _) fun letters length => Gives.pure ?_
    rw [String.length_ofList, length]
    exact Int.toNat_natCast count
  · rw [decide_eq_false wanted]
    refine Gives.pure ?_
    have : count = 0 := by omega
    rw [this]
    rfl

/-! ### Dates -/

/-- A small natural number is rounded to a number up to it. -/
theorem toBinary64_upTo {count : Nat} (small : count < Binary64.significandBound) :
    ∃ number, (Value.int count).toBinary64 = .ok number ∧ number.IsUpTo count := by
  have rounded : (Binary64.ofRatio false count 1).IsUpTo count :=
    Binary64.ofRatio_isUpTo Nat.one_pos small (by rw [Nat.mul_one])
  refine ⟨_, ?_, rounded⟩
  obtain ⟨significand, exponent, isFinite, _⟩ := rounded
  have notNegative : ¬ (count : Int) < 0 := by omega
  simp only [Value.toBinary64, Value.toInt?, Binary64.ofInt?, decide_eq_false notNegative,
    Int.natAbs_natCast, isFinite]

/-- A number between zero and a small natural number is drawn. -/
theorem uniform_gives {count : Nat} (small : count < Binary64.significandBound) :
    Gives (uniform (.int 0) (.int count)) fun value =>
      ∃ number : Binary64, value = .float number ∧ number.IsUpTo count := by
  have gap : (Value.int 0).gap (.int count) = .ok (.integer count) := by
    simp only [Value.gap, Value.toInt?, Int.sub_zero]
  obtain ⟨size, isSize, within⟩ := toBinary64_upTo small
  unfold uniform
  rw [gap, Run.lift_ok, pure_bind]
  have fraction : Gives (Run.draw fun twister => twister.unit) (· < Binary64.significandBound) :=
    Gives.draw Twister.unit_lt
  refine fraction.bind fun drawn less => ?_
  have part : (Binary64.ofRatio false drawn Binary64.significandBound).IsUpTo 1 :=
    Binary64.ofRatio_isUpTo (by decide) (by decide) (by omega)
  have way := Binary64.zero_add_isUpTo small (Binary64.multiply_isUpTo small within part)
  refine Gives.lift ?_ ⟨_, rfl, way⟩
  unfold Value.through
  simp only
  rw [isSize]
  rfl

/-- A span of up to a number of seconds is drawn. -/
theorem span_gives {seconds : Nat} (short : seconds < spanDayLimit) :
    Gives (span (.int seconds)) fun way =>
      0 ≤ way ∧ way ≤ seconds * (microsPerSecond : Int) := by
  have small : seconds < Binary64.significandBound := Nat.lt_trans short (by decide)
  refine (uniform_gives small).bind fun value ⟨number, isNumber, within⟩ => ?_
  rw [isNumber]
  obtain ⟨way, isWay, bounds⟩ := spanOfSeconds_upTo within short
  exact Gives.lift isWay bounds

/-- A moment not long before another one is drawn, if the calendar goes back so far. -/
theorem recent_gives {reference : Moment} {days : Nat} (short : days * secondsPerDay < spanDayLimit)
    (late : days * microsPerDay ≤ reference.wall) (valid : reference.wall < Moment.limit) :
    Gives (recent (.moment reference) (.int days)) fun value =>
      ∃ moment, value = .moment moment := by
  have seconds : (Value.int days).daysInSeconds = .ok (.int (days * secondsPerDay : Nat)) := by
    rw [Nat.cast_mul]
    rfl
  unfold recent
  rw [seconds, Run.lift_ok, pure_bind]
  refine (span_gives short).bind fun way ⟨nonneg, within⟩ => ?_
  have day : microsPerDay = secondsPerDay * microsPerSecond := rfl
  have back : way ≤ (days * microsPerDay : Nat) := by
    rw [day, ← Nat.mul_assoc]
    exact_mod_cast within
  have inside : 0 ≤ (reference.wall : Int) + -way ∧
      (reference.wall : Int) + -way < Moment.limit := by omega
  have moved : (Value.moment reference).earlier way =
      .ok (.moment ⟨((reference.wall : Int) + -way).toNat, reference.offset⟩) := by
    simp only [Value.earlier, Value.moved, Moment.shift?, Moment.ofWall?, if_pos inside, if_true]
  exact Gives.lift moved ⟨_, rfl⟩

end Draw

end Specimen
