/-
**Numbers are drawn as the checks ask for.**

The bounds of a number are rationals, included or not, and the numbers that are made are integers.
The interval to draw from holds the integers within the bounds (`Check.Numbers.integers`), so a
drawn number passes every check. Bounds that are not too large lead to numbers that are not too
large, which the request for a number without a fraction relies on.
-/

import Specimen.Proofs.Sizes

namespace Specimen

open Run (Gives)

/-! ### Rational bounds -/

namespace Value

variable {bound : Value} {limit : Rat}

/-- A bound with a place among the rationals is rounded like its place. -/
theorem rounded_of_rational (isLimit : bound.toExtended? = some (.rational limit)) :
    bound.ceiling = .ok limit.ceil ∧ bound.floor = .ok limit.floor := by
  cases bound with
  | bool value =>
    cases isLimit
    cases value <;> exact ⟨rfl, rfl⟩
  | int value =>
    cases isLimit
    exact ⟨rfl, rfl⟩
  | float value =>
    cases value with
    | finite negative significand exponent =>
      cases isLimit
      exact ⟨rfl, rfl⟩
    | infinite negative => cases negative <;> cases isLimit
    | nan payload => cases isLimit
  | _ => cases isLimit

theorem nonNull_of_rational (isLimit : bound.toExtended? = some (.rational limit)) :
    bound.nonNull? = some bound := by
  cases bound with
  | null => cases isLimit
  | _ => rfl

theorem int_equals_rational (number : Int)
    (isLimit : bound.toExtended? = some (.rational limit)) :
    (Value.int number).equals bound = decide ((number : Rat) = limit) := by
  have compared : ∀ left right : Rat,
      (ExtendedRat.rational left == .rational right) = decide (left = right) := by
    intro left right
    by_cases equal : left = right <;> simp [equal]
  rw [← compared]
  cases bound with
  | bool value | int value =>
    cases isLimit
    rfl
  | float value =>
    cases value with
    | finite negative significand exponent =>
      cases isLimit
      rfl
    | infinite negative => cases negative <;> cases isLimit
    | nan payload => cases isLimit
  | _ => cases isLimit

end Value

namespace NumberBounds

variable {bound : Value} {limit : Rat}

/-- The least integer that a lower bound admits. -/
theorem lowest_of_rational (isLimit : bound.toExtended? = some (.rational limit))
    (inclusive : Bool) :
    ∃ low, lowest bound inclusive = .ok low ∧
      ∀ number : Int, low ≤ number ↔ Within inclusive limit number := by
  unfold lowest
  rw [(Value.rounded_of_rational isLimit).1]
  refine ⟨_, rfl, fun number => ?_⟩
  rw [Value.int_equals_rational _ isLimit]
  cases inclusive with
  | true => exact Rat.ceil_le_iff
  | false =>
    by_cases whole : (limit.ceil : Rat) = limit
    · rw [decide_eq_true whole]
      show limit.ceil + 1 ≤ number ↔ limit < number
      rw [Int.add_one_le_iff, ← whole, Rat.ceil_intCast]
      exact_mod_cast Iff.rfl
    · rw [decide_eq_false whole]
      show limit.ceil ≤ number ↔ limit < number
      rw [Rat.ceil_le_iff]
      refine ⟨fun within => lt_of_le_of_ne within ?_, le_of_lt⟩
      rintro rfl
      exact whole (by rw [Rat.ceil_intCast])

/-- The greatest integer that an upper bound admits. -/
theorem highest_of_rational (isLimit : bound.toExtended? = some (.rational limit))
    (inclusive : Bool) :
    ∃ high, highest bound inclusive = .ok high ∧
      ∀ number : Int, number ≤ high ↔ Within inclusive number limit := by
  unfold highest
  rw [(Value.rounded_of_rational isLimit).2]
  refine ⟨_, rfl, fun number => ?_⟩
  rw [Value.int_equals_rational _ isLimit]
  cases inclusive with
  | true => exact Rat.le_floor_iff
  | false =>
    by_cases whole : (limit.floor : Rat) = limit
    · rw [decide_eq_true whole]
      show number ≤ limit.floor - 1 ↔ (number : Rat) < limit
      rw [Int.le_sub_one_iff, ← whole, Rat.floor_intCast]
      exact_mod_cast Iff.rfl
    · rw [decide_eq_false whole]
      show number ≤ limit.floor ↔ (number : Rat) < limit
      rw [Rat.le_floor_iff]
      refine ⟨fun within => lt_of_le_of_ne within ?_, le_of_lt⟩
      rintro rfl
      exact whole (by rw [Rat.floor_intCast])

end NumberBounds

/-! ### Numbers -/

/-- The check admits the integer: it asks for an integer, or is a bound that the integer is within.
-/
inductive Check.Admits (number : Int) : Check → Prop
  | integer : Admits number .integer
  | min {bound : Value} {limit : Rat} {inclusive : Bool}
      (isLimit : bound.toExtended? = some (.rational limit)) (within : Within inclusive limit number) :
      Admits number (.min bound inclusive)
  | max {bound : Value} {limit : Rat} {inclusive : Bool}
      (isLimit : bound.toExtended? = some (.rational limit)) (within : Within inclusive number limit) :
      Admits number (.max bound inclusive)

/-- The checks are at most one lower and one upper bound, either of which may be repeated, and any
number of requests for an integer; some integer passes them. -/
structure Check.Numbers (checks : List Check) : Prop where
  oneLower : ∀ bound inclusive other otherInclusive, .min bound inclusive ∈ checks →
    .min other otherInclusive ∈ checks → other = bound ∧ otherInclusive = inclusive
  oneUpper : ∀ bound inclusive other otherInclusive, .max bound inclusive ∈ checks →
    .max other otherInclusive ∈ checks → other = bound ∧ otherInclusive = inclusive
  satisfiable : ∃ number : Int, ∀ check ∈ checks, check.Admits number

namespace NumberBounds

/-- The lower bound is one of the checks, if there is one among them. -/
theorem ofChecks_lower (checks : List Check) :
    ((ofChecks checks).min = none ∧ ∀ bound inclusive, .min bound inclusive ∉ checks) ∨
      ∃ bound, .min bound (ofChecks checks).minInclusive ∈ checks ∧
        (ofChecks checks).min = bound.nonNull? := by
  rw [ofChecks_min, ofChecks_minInclusive]
  cases found : Check.last? (·.name == "min") checks with
  | none =>
    refine .inl ⟨rfl, fun bound inclusive mem => ?_⟩
    cases Check.last?_eq_none found _ mem
  | some check =>
    have mem := Check.last?_mem found
    have named := Check.last?_concerns found
    cases check with
    | min bound inclusive => exact .inr ⟨bound, mem, rfl⟩
    | _ => cases named

/-- The upper bound is one of the checks, if there is one among them. -/
theorem ofChecks_upper (checks : List Check) :
    ((ofChecks checks).max = none ∧ ∀ bound inclusive, .max bound inclusive ∉ checks) ∨
      ∃ bound, .max bound (ofChecks checks).maxInclusive ∈ checks ∧
        (ofChecks checks).max = bound.nonNull? := by
  rw [ofChecks_max, ofChecks_maxInclusive]
  cases found : Check.last? (·.name == "max") checks with
  | none =>
    refine .inl ⟨rfl, fun bound inclusive mem => ?_⟩
    cases Check.last?_eq_none found _ mem
  | some check =>
    have mem := Check.last?_mem found
    have named := Check.last?_concerns found
    cases check with
    | max bound inclusive => exact .inr ⟨bound, mem, rfl⟩
    | _ => cases named

end NumberBounds

namespace Check.Numbers

variable {checks : List Check}

/-- The integers from the least one on are those that the lower bounds admit. -/
theorem least (numbers : Numbers checks) :
    ∃ least, (NumberBounds.ofChecks checks).min.mapM (fun bound =>
        NumberBounds.lowest bound (NumberBounds.ofChecks checks).minInclusive) = .ok least ∧
      ∀ number : Int, (∀ low, least = some low → low ≤ number) ↔
        ∀ bound inclusive, .min bound inclusive ∈ checks → Admits number (.min bound inclusive) := by
  rcases NumberBounds.ofChecks_lower checks with ⟨unbounded, absent⟩ | ⟨bound, mem, isBound⟩
  · rw [unbounded]
    exact ⟨none, rfl, fun number => ⟨fun _ bound inclusive mem => absurd mem (absent _ _), nofun⟩⟩
  · obtain ⟨found, passes⟩ := numbers.satisfiable
    obtain _ | ⟨isLimit, _⟩ := passes _ mem
    obtain ⟨low, isLow, admitted⟩ := NumberBounds.lowest_of_rational isLimit
      (NumberBounds.ofChecks checks).minInclusive
    rw [isBound, Value.nonNull_of_rational isLimit]
    refine ⟨some low, ?_, fun number => ⟨fun above other inclusive listed => ?_, ?_⟩⟩
    · rw [Option.mapM_some, isLow]
      rfl
    · obtain ⟨rfl, rfl⟩ := numbers.oneLower _ _ _ _ mem listed
      exact .min isLimit ((admitted number).1 (above low rfl))
    · intro each least same
      cases same
      obtain _ | ⟨limited, within⟩ := each _ _ mem
      rw [isLimit] at limited
      cases limited
      exact (admitted number).2 within

/-- The integers up to the greatest one are those that the upper bounds admit. -/
theorem greatest (numbers : Numbers checks) :
    ∃ greatest, (NumberBounds.ofChecks checks).max.mapM (fun bound =>
        NumberBounds.highest bound (NumberBounds.ofChecks checks).maxInclusive) = .ok greatest ∧
      ∀ number : Int, (∀ high, greatest = some high → number ≤ high) ↔
        ∀ bound inclusive, .max bound inclusive ∈ checks → Admits number (.max bound inclusive) := by
  rcases NumberBounds.ofChecks_upper checks with ⟨unbounded, absent⟩ | ⟨bound, mem, isBound⟩
  · rw [unbounded]
    exact ⟨none, rfl, fun number => ⟨fun _ bound inclusive mem => absurd mem (absent _ _), nofun⟩⟩
  · obtain ⟨found, passes⟩ := numbers.satisfiable
    obtain _ | _ | ⟨isLimit, _⟩ := passes _ mem
    obtain ⟨high, isHigh, admitted⟩ := NumberBounds.highest_of_rational isLimit
      (NumberBounds.ofChecks checks).maxInclusive
    rw [isBound, Value.nonNull_of_rational isLimit]
    refine ⟨some high, ?_, fun number => ⟨fun below other inclusive listed => ?_, ?_⟩⟩
    · rw [Option.mapM_some, isHigh]
      rfl
    · obtain ⟨rfl, rfl⟩ := numbers.oneUpper _ _ _ _ mem listed
      exact .max isLimit ((admitted number).1 (below high rfl))
    · intro each greatest same
      cases same
      obtain _ | _ | ⟨limited, within⟩ := each _ _ mem
      rw [isLimit] at limited
      cases limited
      exact (admitted number).2 within

/-- The magnitude of every bound is below a number. -/
def AreBelow (size : Nat) (checks : List Check) : Prop :=
  ∀ check ∈ checks, ∀ limit, check.argument.toExtended? = some (.rational limit) → |limit| < size

/-- The least integer that lower bounds admit is as small as the bounds. -/
theorem least_small {size : Nat} (small : AreBelow size checks) {least : Option Int}
    (above : ∀ number : Int, (∀ low, least = some low → low ≤ number) ↔
      ∀ bound inclusive, .min bound inclusive ∈ checks → Admits number (.min bound inclusive))
    {low : Int} (isLeast : least = some low) : |low| ≤ size := by
  have admits := (above low).1 fun other same => by
    rw [isLeast] at same
    cases same
    exact Int.le_refl low
  have near : ∃ limit : Rat, |limit| < size ∧ limit ≤ low ∧ low ≤ limit + 1 := by
    by_contra far
    refine absurd ((above (low - 1)).2 (fun bound inclusive mem => ?_) low isLeast) (by omega)
    obtain _ | ⟨isLimit, within⟩ := admits bound inclusive mem
    refine .min isLimit (.of_lt inclusive ?_)
    push_cast
    by_contra close
    exact far ⟨_, small _ mem _ isLimit, within.le, by linarith⟩
  obtain ⟨limit, within, lower, upper⟩ := near
  rw [abs_lt] at within
  have atLeast : (-size : Rat) ≤ low := by linarith
  have atMost : (low : Rat) < size + 1 := by linarith
  have less : low < size + 1 := by exact_mod_cast atMost
  exact abs_le.2 ⟨by exact_mod_cast atLeast, Int.lt_add_one_iff.1 less⟩

/-- The greatest integer that upper bounds admit is as small as the bounds. -/
theorem greatest_small {size : Nat} (small : AreBelow size checks) {greatest : Option Int}
    (below : ∀ number : Int, (∀ high, greatest = some high → number ≤ high) ↔
      ∀ bound inclusive, .max bound inclusive ∈ checks → Admits number (.max bound inclusive))
    {high : Int} (isGreatest : greatest = some high) : |high| ≤ size := by
  have admits := (below high).1 fun other same => by
    rw [isGreatest] at same
    cases same
    exact Int.le_refl high
  have near : ∃ limit : Rat, |limit| < size ∧ high ≤ limit ∧ limit ≤ high + 1 := by
    by_contra far
    refine absurd ((below (high + 1)).2 (fun bound inclusive mem => ?_) high isGreatest) (by omega)
    obtain _ | _ | ⟨isLimit, within⟩ := admits bound inclusive mem
    refine .max isLimit (.of_lt inclusive ?_)
    push_cast
    by_contra close
    exact far ⟨_, small _ mem _ isLimit, within.le, by linarith⟩
  obtain ⟨limit, within, lower, upper⟩ := near
  rw [abs_lt] at within
  have atLeast : (-size - 1 : Rat) < high := by linarith
  have atMost : (high : Rat) ≤ size := by linarith
  have less : -size - 1 < high := by exact_mod_cast atLeast
  exact abs_le.2 ⟨Int.sub_one_lt_iff.1 less, by exact_mod_cast atMost⟩

/-- The interval of integers to draw from holds those that every check admits. -/
theorem integers (numbers : Numbers checks) :
    ∃ least greatest, (NumberBounds.ofChecks checks).integers = .ok (least, greatest) ∧
      (∀ number : Int, ((∀ low, least = some low → low ≤ number) ∧
        ∀ high, greatest = some high → number ≤ high) ↔ ∀ check ∈ checks, check.Admits number) ∧
      ∀ size : Nat, AreBelow size checks → (∀ low, least = some low → |low| ≤ size) ∧
        ∀ high, greatest = some high → |high| ≤ size := by
  obtain ⟨least, isLeast, above⟩ := numbers.least
  obtain ⟨greatest, isGreatest, below⟩ := numbers.greatest
  refine ⟨least, greatest, ?_, fun number => ?_, fun size small => ?_⟩
  · unfold NumberBounds.integers
    rw [isLeast, isGreatest]
    rfl
  · rw [above number, below number]
    refine ⟨fun ⟨lower, upper⟩ check mem => ?_, fun each =>
      ⟨fun bound inclusive => each _, fun bound inclusive => each _⟩⟩
    obtain ⟨found, passes⟩ := numbers.satisfiable
    cases passes check mem with
    | integer => exact .integer
    | min => exact lower _ _ mem
    | max => exact upper _ _ mem
  · exact ⟨fun low => least_small small above, fun high => greatest_small small below⟩

end Check.Numbers

namespace Make

variable {checks : List Check}

/-- An interval that is closed where it was open keeps an integer, and gets no others. -/
theorem closeInterval_mem {least greatest : Option Int} {found : Int}
    (above : ∀ low, least = some low → low ≤ found)
    (below : ∀ high, greatest = some high → found ≤ high) :
    (closeInterval least greatest).1 ≤ (closeInterval least greatest).2 ∧
      ∀ number, (closeInterval least greatest).1 ≤ number →
        number ≤ (closeInterval least greatest).2 →
        (∀ low, least = some low → low ≤ number) ∧ ∀ high, greatest = some high → number ≤ high := by
  have span : numberSpan = 9999 := rfl
  cases least with
  | none =>
    cases greatest with
    | none => exact ⟨by decide, fun number _ _ => ⟨nofun, nofun⟩⟩
    | some high =>
      simp only [closeInterval]
      refine ⟨by omega, fun number atLeast atMost => ⟨nofun, fun limit same => ?_⟩⟩
      cases same
      exact atMost
  | some low =>
    cases greatest with
    | none =>
      simp only [closeInterval]
      refine ⟨by omega, fun number atLeast atMost => ⟨fun limit same => ?_, nofun⟩⟩
      cases same
      exact atLeast
    | some high =>
      have ordered := above low rfl
      have limited := below high rfl
      simp only [closeInterval]
      refine ⟨by omega, fun number atLeast atMost => ⟨fun limit same => ?_, fun limit same => ?_⟩⟩
      · cases same
        exact atLeast
      · cases same
        exact atMost

/-- An interval between small bounds is not much larger where it was open. -/
theorem closeInterval_small {least greatest : Option Int} {size : Nat}
    (lower : ∀ low, least = some low → |low| ≤ size)
    (upper : ∀ high, greatest = some high → |high| ≤ size) :
    -(size : Int) ≤ (closeInterval least greatest).1 ∧ (closeInterval least greatest).2 ≤ size + 9999 := by
  have span : numberSpan = 9999 := rfl
  cases least with
  | none =>
    cases greatest with
    | none => exact ⟨by simp only [closeInterval]; omega, by simp only [closeInterval]; omega⟩
    | some high =>
      have small := abs_le.1 (upper high rfl)
      simp only [closeInterval]
      omega
  | some low =>
    have small := abs_le.1 (lower low rfl)
    cases greatest with
    | none =>
      simp only [closeInterval]
      omega
    | some high =>
      have limited := abs_le.1 (upper high rfl)
      simp only [closeInterval]
      omega

/-- A number is drawn that every check admits, and one not much larger than the bounds. -/
theorem number_gives (numbers : Check.Numbers checks) (context : Context) :
    Gives (number checks context) fun value =>
      ∃ drawn : Int, value = .int drawn ∧ (∀ check ∈ checks, check.Admits drawn) ∧
        ∀ size, Check.Numbers.AreBelow size checks → drawn.natAbs ≤ size + 9999 := by
  obtain ⟨least, greatest, bounds, admitted, areSmall⟩ := numbers.integers
  obtain ⟨found, passes⟩ := numbers.satisfiable
  obtain ⟨above, below⟩ := (admitted found).2 passes
  obtain ⟨ordered, inside⟩ := closeInterval_mem above below
  unfold number
  rw [bounds, Run.lift_ok, pure_bind]
  simp only
  rw [if_neg (Int.not_lt.2 ordered)]
  refine (Draw.integer_gives ordered).bind fun drawn ⟨atLeast, atMost⟩ => Gives.pure ?_
  refine ⟨drawn, rfl, (admitted drawn).1 (inside drawn atLeast atMost), fun size small => ?_⟩
  obtain ⟨lower, upper⟩ := areSmall size small
  obtain ⟨first, last⟩ := closeInterval_small lower upper
  omega

end Make

/-! ### Judging numbers -/

namespace Judge

variable {checks : List Check} {drawn : Int}

theorem boundMessage_of_admits {check : Check} (admits : check.Admits drawn) (noun : String) :
    boundMessage noun (.int drawn) check = none := by
  cases admits with
  | integer => rfl
  | min isLimit within => exact (boundMessage_min noun rfl isLimit).2 within
  | max isLimit within => exact (boundMessage_max noun rfl isLimit).2 within

theorem isWhole_of_small {places : Nat} (small : drawn.natAbs < 2 ^ places)
    (few : places ≤ 1001) : isWhole (.int drawn) = .ok true := by
  obtain ⟨number, isNumber, integral⟩ := Value.isIntegral_toBinary64 small few
  unfold isWhole
  rw [isNumber]
  exact congrArg Except.ok integral

variable (admits : ∀ check ∈ checks, check.Admits drawn) (path : Path)

include admits

theorem bigint_accepts : bigint checks (.int drawn) path = .ok [] := by
  refine congrArg Except.ok (boundIssues_eq_nil path fun check mem => ?_)
  exact boundMessage_of_admits (admits check mem) _

/-- A number that every check admits is accepted, if it is small enough to be told whole. -/
theorem number_accepts (whole : .integer ∈ checks → isWhole (.int drawn) = .ok true) :
    number checks (.int drawn) path = .ok [] := by
  have silent : boundIssues checks "value" (.int drawn) path = [] :=
    boundIssues_eq_nil path fun check mem => boundMessage_of_admits (admits check mem) _
  show numberIssues checks (.int drawn) path = .ok []
  unfold numberIssues
  simp only [silent]
  split
  · next asked =>
    obtain ⟨check, mem, named⟩ := List.any_eq_true.1 asked
    have isInteger : check = .integer := by
      cases admits check mem with
      | integer => rfl
      | min | max => cases named
    rw [whole (isInteger ▸ mem)]
    rfl
  · rfl

end Judge

end Specimen
