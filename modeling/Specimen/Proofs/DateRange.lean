/-
**Dates within their bounds.**

A date is drawn between its bounds as the generator reads them: numbers as milliseconds since the
epoch, and a bound without an offset as universal time if the other one has an offset. However the
seconds between the bounds are rounded, the date lies within them (`Make.date_within`).

Validation reads the bounds as they are. So it accepts the dates that are drawn exactly if the
bounds are moments that all have an offset or all have none, and no check excludes the date that was
drawn (`date_verdict`). A number is such a bound of no date at all.
-/

import Specimen.Proofs.Grids
import Specimen.Proofs.Moments
import Specimen.Proofs.Numbered
import Specimen.Proofs.Verdicts

namespace Specimen

open Run (Yields Gives)

/-! ### Parts of spans -/

/-- Whole seconds and the rounded fraction are no more than the microseconds of the seconds allow.
-/
theorem microseconds_within {value : Rat} {size : Nat} (nonneg : 0 ≤ value)
    (most : value * microsPerSecond ≤ size) :
    0 ≤ value.floor * (microsPerSecond : Int) +
        roundRat (Binary64.ofRat ((value - value.floor) * microsPerSecond)).toRat ∧
      value.floor * (microsPerSecond : Int) +
        roundRat (Binary64.ofRat ((value - value.floor) * microsPerSecond)).toRat ≤ size := by
  have second : (microsPerSecond : Int) = 1000000 := rfl
  have start : (0 : Rat) ≤ (value - value.floor) * microsPerSecond :=
    mul_nonneg (sub_nonneg.2 (Rat.floor_le _)) (Nat.cast_nonneg _)
  have least : 0 ≤ value.floor := Rat.le_floor_iff.2 (by exact_mod_cast nonneg)
  -- the whole seconds leave some microseconds, of which the fraction is no more
  have whole : value.floor * (microsPerSecond : Int) ≤ size := by
    have floor : (value.floor : Rat) * microsPerSecond ≤ size :=
      (mul_le_mul_of_nonneg_right (Rat.floor_le _) (Nat.cast_nonneg _)).trans most
    exact_mod_cast floor
  obtain ⟨left, isLeft⟩ : ∃ left : Nat,
      (left : Int) = size - value.floor * (microsPerSecond : Int) :=
    ⟨(size - value.floor * (microsPerSecond : Int)).toNat, Int.toNat_of_nonneg (by omega)⟩
  have fraction : (value - value.floor) * microsPerSecond ≤ (left : Nat) := by
    have cast : (left : Rat) = size - value.floor * microsPerSecond := by
      exact_mod_cast congrArg (Int.cast : Int → Rat) isLeft
    rw [cast, sub_mul]
    linarith
  have micros : (value - value.floor) * microsPerSecond ≤ (microsPerSecond : Nat) := by
    have part : value - value.floor ≤ 1 := by
      have next := Rat.lt_floor_add_one value
      push_cast at next
      linarith
    exact (mul_le_mul_of_nonneg_right part (Nat.cast_nonneg _)).trans_eq (one_mul _)
  have limited : (value - value.floor) * microsPerSecond ≤ (min left microsPerSecond : Nat) := by
    rw [Nat.cast_min]
    exact le_min fraction micros
  have small : min left microsPerSecond < Binary64.significandBound :=
    Nat.lt_of_le_of_lt (Nat.min_le_right _ _) (by decide)
  obtain ⟨fewest, greatest⟩ := roundRat_ofRat_upTo start small limited
  rw [second] at *
  omega

/-- Seconds within a limit are a span of no more than the limit allows. -/
theorem spanOfSeconds_within {seconds : Binary64} {limit : Rat} {size : Nat}
    (within : seconds.IsWithin limit) (most : limit * microsPerSecond ≤ size) {span : Int}
    (found : spanOfSeconds seconds = .ok span) : 0 ≤ span ∧ span ≤ size := by
  have total : seconds.toRat * microsPerSecond ≤ size :=
    (mul_le_mul_of_nonneg_right within.le (Nat.cast_nonneg _)).trans most
  have bounds := microseconds_within within.nonneg total
  have truncated : truncateRat seconds.toRat = seconds.toRat.floor :=
    truncateRat_of_nonneg within.nonneg
  obtain ⟨significand, exponent, rfl, _⟩ := within
  unfold spanOfSeconds at found
  simp only [truncated] at found
  split at found
  · cases found
    exact bounds
  · cases found

/-- A part of the seconds of a span, as it is drawn, is no more than the span. -/
theorem exists_seconds {size : Nat} (short : size < 2 ^ 52 * microsPerSecond) :
    ∃ limit : Rat, limit * microsPerSecond ≤ size ∧
      ∀ drawn < Binary64.significandBound, ((Binary64.zero false).add
        (((spanToSeconds size).subtract (.zero false)).multiply
          (.ofRatio false drawn Binary64.significandBound))).IsWithin limit := by
  have seconds : spanToSeconds size = .ofRatio false size microsPerSecond := by
    rw [spanToSeconds, decide_eq_false (by omega), Int.natAbs_natCast]
  rw [seconds]
  rcases Nat.eq_zero_or_pos size with none | some
  · have kept : Binary64.IsKept (0 : Nat) := Binary64.isKept_natCast (by decide)
    refine ⟨(0 : Nat), by simp [none], fun drawn less => ?_⟩
    have whole : (Binary64.ofRatio false size microsPerSecond).IsWithin (0 : Nat) := by
      rw [none]
      exact .zero (by simp)
    have part : (Binary64.ofRatio false drawn Binary64.significandBound).IsUpTo 1 :=
      Binary64.ofRatio_isUpTo (by decide) (by decide) (by omega)
    exact kept.of_zero_add (Binary64.multiply_isUpTo (by decide) (kept.subtract_zero whole) part)
  · obtain ⟨limit, whole, least, keptLimit, keptWhole, within, parts⟩ :=
      Binary64.exists_part (by decide) short (by
        have second : microsPerSecond = 1000000 := rfl
        omega)
    exact ⟨limit, least, fun drawn less => keptLimit.of_zero_add
      (parts _ _ (keptWhole.subtract_zero within) (Binary64.fraction_isWithin less))⟩

namespace Draw

/-- The span that is drawn for the seconds of a span is a part of it. -/
theorem span_within {size : Nat} (short : size < 2 ^ 52 * microsPerSecond) :
    Yields (span (.float (spanToSeconds size))) fun way => 0 ≤ way ∧ way ≤ size := by
  obtain ⟨limit, most, parts⟩ := exists_seconds short
  have point : Gives (uniform (.int 0) (.float (spanToSeconds size))) fun value =>
      ∃ number : Binary64, value = .float number ∧ number.IsWithin limit := by
    have gap : (Value.int 0).gap (.float (spanToSeconds size)) =
        .ok (.float ((spanToSeconds size).subtract (.zero false))) := rfl
    unfold uniform
    rw [gap, Run.lift_ok, pure_bind]
    have fraction : Gives (Run.draw fun twister => twister.unit)
        (· < Binary64.significandBound) := Gives.draw Twister.unit_lt
    exact fraction.bind fun drawn less => Gives.lift rfl ⟨_, rfl, parts drawn less⟩
  refine point.yields.bind fun value ⟨number, isNumber, within⟩ => ?_
  rw [isNumber]
  exact Yields.lift fun way found => spanOfSeconds_within within most found

end Draw

/-! ### Moments that are moved -/

/-- A moment that is moved keeps its clock. -/
theorem Value.moved_moment {backwards : Bool} {span : Int} {start : Moment} {result : Value}
    (found : (Value.moment start).moved backwards span = .ok result) :
    ∃ moment, result = .moment moment ∧ moment.offset = start.offset ∧
      moment.instant = start.instant + (if backwards then -span else span) := by
  simp only [moved, Moment.shift?, Moment.ofWall?] at found
  generalize (if backwards then -span else span) = way at found ⊢
  by_cases inside : 0 ≤ (start.wall : Int) + way ∧ (start.wall : Int) + way < Moment.limit
  · rw [if_pos inside] at found
    cases found
    refine ⟨_, rfl, rfl, ?_⟩
    simp only [Moment.instant, Int.toNat_of_nonneg inside.1]
    omega
  · rw [if_neg inside] at found
    cases found

namespace Draw

theorem days_in_seconds : (Value.int 1).daysInSeconds = .ok (.int (secondsPerDay : Nat)) := rfl

/-- A moment that is moved by a span that is drawn is as far away as the span says. -/
theorem moved_yields {span : Run Int} {property : Int → Prop} (drawn : Yields span property)
    (start : Moment) (backwards : Bool) :
    Yields (do Run.lift ((Value.moment start).moved backwards (← span))) fun value =>
      ∃ moment way, value = .moment moment ∧ moment.offset = start.offset ∧ property way ∧
        moment.instant = start.instant + (if backwards then -way else way) := by
  refine drawn.bind fun way holds => Yields.lift fun value found => ?_
  obtain ⟨moment, isMoment, sameOffset, moved⟩ := Value.moved_moment found
  exact ⟨moment, way, isMoment, sameOffset, holds, moved⟩

/-- A moment that is drawn after another one is not before it. -/
theorem soon_within (reference : Moment) :
    Yields (soon (.moment reference) (.int 1)) fun value => ∃ moment, value = .moment moment ∧
      moment.offset = reference.offset ∧ reference.instant ≤ moment.instant := by
  unfold soon
  rw [days_in_seconds, Run.lift_ok, pure_bind]
  refine (moved_yields (span_gives (by decide)).yields reference false).mono fun value found => ?_
  obtain ⟨moment, way, isMoment, sameOffset, ⟨nonneg, _⟩, moved⟩ := found
  refine ⟨moment, isMoment, sameOffset, ?_⟩
  rw [moved, if_neg Bool.false_ne_true]
  omega

/-- A moment that is drawn before another one is not after it. -/
theorem recent_within (reference : Moment) :
    Yields (recent (.moment reference) (.int 1)) fun value => ∃ moment, value = .moment moment ∧
      moment.offset = reference.offset ∧ moment.instant ≤ reference.instant := by
  unfold recent
  rw [days_in_seconds, Run.lift_ok, pure_bind]
  refine (moved_yields (span_gives (by decide)).yields reference true).mono fun value found => ?_
  obtain ⟨moment, way, isMoment, sameOffset, ⟨nonneg, _⟩, moved⟩ := found
  refine ⟨moment, isMoment, sameOffset, ?_⟩
  rw [moved, if_pos rfl]
  omega

/-- A moment that is drawn between two others is neither before the first nor after the second. -/
theorem between_within {low high : Moment} (alike : low.isAware = high.isAware)
    (ordered : low.instant ≤ high.instant)
    (short : high.instant - low.instant < (2 ^ 52 * microsPerSecond : Nat)) :
    Yields (between (.moment low) (.moment high)) fun value => ∃ moment, value = .moment moment ∧
      moment.offset = low.offset ∧ low.instant ≤ moment.instant ∧
        moment.instant ≤ high.instant := by
  obtain ⟨size, isSize⟩ : ∃ size : Nat, (size : Int) = high.instant - low.instant :=
    ⟨(high.instant - low.instant).toNat, Int.toNat_of_nonneg (by omega)⟩
  have gap : (Value.moment low).spanBetween (.moment high) = .ok size := by
    simp only [Value.spanBetween, Value.gap, Moment.difference?, alike, if_true, ← isSize]
    rfl
  unfold between
  rw [gap, Run.lift_ok, pure_bind]
  rw [← isSize] at short
  refine (moved_yields (span_within (by exact_mod_cast short)) low false).mono fun value found => ?_
  obtain ⟨moment, way, isMoment, sameOffset, ⟨nonneg, within⟩, moved⟩ := found
  refine ⟨moment, isMoment, sameOffset, ?_⟩
  rw [moved, if_neg Bool.false_ne_true]
  omega

end Draw

/-! ### Bounds among checks -/

/-- The value bounds dates: it is a moment of the calendar, or a number that is finite. -/
inductive Value.IsDateBound : Value → Prop
  | moment {moment : Moment} (valid : moment.IsValid) : IsDateBound (.moment moment)
  | int (milliseconds : Int) : IsDateBound (.int milliseconds)
  | float (negative : Bool) (significand : Nat) (exponent : Int) :
      IsDateBound (.float (.finite negative significand exponent))

namespace Check

/-- Does the check bound from below? -/
def isLower : Check → Bool
  | .min _ _ => true
  | _ => false

/-- Does the check bound from above? -/
def isUpper : Check → Bool
  | .max _ _ => true
  | _ => false

/-- Is the check a bound? -/
def isBound (check : Check) : Bool := check.isLower || check.isUpper

theorem eq_of_isBound {check : Check} (isBound : check.isBound = true) :
    (∃ bound inclusive, check = .min bound inclusive) ∨
      ∃ bound inclusive, check = .max bound inclusive := by
  cases check with
  | min bound inclusive => exact .inl ⟨bound, inclusive, rfl⟩
  | max bound inclusive => exact .inr ⟨bound, inclusive, rfl⟩
  | _ => cases isBound

/-- There is at most one lower bound among the checks and at most one upper bound, and each bounds
dates. -/
structure BoundDates (checks : List Check) : Prop where
  oneLower : checks.countP isLower ≤ 1
  oneUpper : checks.countP isUpper ≤ 1
  isDateBound : ∀ check ∈ checks, check.isBound = true → check.argument.IsDateBound

/-- There are no other checks than at most one lower bound and at most one upper bound. -/
inductive AreDateBounds : List Check → Prop
  | none : AreDateBounds []
  | lower {low : Value} (isLow : low.IsDateBound) (inclusive : Bool) :
      AreDateBounds [.min low inclusive]
  | upper {high : Value} (isHigh : high.IsDateBound) (inclusive : Bool) :
      AreDateBounds [.max high inclusive]
  | both {low high : Value} (isLow : low.IsDateBound) (isHigh : high.IsDateBound)
      (lowInclusive highInclusive : Bool) :
      AreDateBounds [.min low lowInclusive, .max high highInclusive]
  | swapped {low high : Value} (isLow : low.IsDateBound) (isHigh : high.IsDateBound)
      (lowInclusive highInclusive : Bool) :
      AreDateBounds [.max high highInclusive, .min low lowInclusive]

/-- The bounds among the checks are at most two. -/
theorem BoundDates.areDateBounds {checks : List Check} (bounded : BoundDates checks) :
    AreDateBounds (checks.filter isBound) := by
  have lower : (checks.filter isBound).countP isLower ≤ 1 :=
    List.filter_sublist.countP_le.trans bounded.oneLower
  have upper : (checks.filter isBound).countP isUpper ≤ 1 :=
    List.filter_sublist.countP_le.trans bounded.oneUpper
  have each : ∀ check ∈ checks.filter isBound,
      check.isBound = true ∧ check.argument.IsDateBound := fun check mem =>
    have ⟨listed, isBound⟩ := List.mem_filter.1 mem
    ⟨isBound, bounded.isDateBound check listed isBound⟩
  generalize checks.filter isBound = bounds at lower upper each
  match bounds with
  | [] => exact .none
  | [check] =>
    obtain ⟨isBound, ofCheck⟩ := each check List.mem_cons_self
    rcases eq_of_isBound isBound with ⟨low, inclusive, rfl⟩ | ⟨high, inclusive, rfl⟩
    · exact .lower ofCheck inclusive
    · exact .upper ofCheck inclusive
  | [first, second] =>
    obtain ⟨firstBound, ofFirst⟩ := each first (by simp)
    obtain ⟨secondBound, ofSecond⟩ := each second (by simp)
    rcases eq_of_isBound firstBound with ⟨low, inclusive, rfl⟩ | ⟨high, inclusive, rfl⟩ <;>
      rcases eq_of_isBound secondBound with ⟨other, also, rfl⟩ | ⟨other, also, rfl⟩
    · simp [List.countP_cons, isLower] at lower
    · exact .both ofFirst ofSecond inclusive also
    · exact .swapped ofSecond ofFirst also inclusive
    · simp [List.countP_cons, isUpper] at upper
  | first :: second :: third :: rest =>
    -- of three bounds two are on the same side
    have ofFirst := eq_of_isBound (each first (by simp)).1
    have ofSecond := eq_of_isBound (each second (by simp)).1
    have ofThird := eq_of_isBound (each third (by simp)).1
    exfalso
    rcases ofFirst with ⟨_, _, rfl⟩ | ⟨_, _, rfl⟩ <;>
      rcases ofSecond with ⟨_, _, rfl⟩ | ⟨_, _, rfl⟩ <;>
        rcases ofThird with ⟨_, _, rfl⟩ | ⟨_, _, rfl⟩ <;>
          simp [List.countP_cons, isLower, isUpper] at lower upper

end Check

/-! ### Bounds as the generator reads them -/

namespace DateBounds

theorem ofSeconds_valid {seconds : Binary64} {moment : Moment}
    (found : ofSeconds seconds = .ok moment) : moment.IsValid ∧ moment.isAware = true := by
  unfold ofSeconds at found
  split at found
  · cases found
  · cases found
  · simp only at found
    split at found
    · cases found
    · split at found
      · cases found
      · split at found
        · next other isMoment =>
          cases found
          unfold Moment.ofWall? at isMoment
          split at isMoment
          · next inside =>
            cases isMoment
            refine ⟨⟨by simp only; omega, fun size isSize => ?_⟩, rfl⟩
            cases isSize
            decide
          · cases isMoment
        · cases found

/-- What a bound denotes is a moment of the calendar, and the bound itself if that is one; a number
denotes a moment in universal time. -/
theorem momentOf_valid {bound : Value} (isBound : bound.IsDateBound) {found : Option Moment}
    (denotes : momentOf bound = .ok found) : ∃ moment, found = some moment ∧ moment.IsValid ∧
      (bound = .moment moment ∨ (∀ other, bound ≠ .moment other) ∧ moment.isAware = true) := by
  cases isBound with
  | moment valid =>
    cases denotes
    exact ⟨_, rfl, valid, .inl rfl⟩
  | int milliseconds =>
    obtain ⟨number, _, denotes⟩ := of_bind_ok denotes
    obtain ⟨moment, isMoment, denotes⟩ := of_bind_ok denotes
    cases denotes
    obtain ⟨valid, aware⟩ := ofSeconds_valid isMoment
    exact ⟨moment, rfl, valid, .inr ⟨nofun, aware⟩⟩
  | float negative significand exponent =>
    obtain ⟨moment, isMoment, denotes⟩ := of_bind_ok denotes
    cases denotes
    obtain ⟨valid, aware⟩ := ofSeconds_valid isMoment
    exact ⟨moment, rfl, valid, .inr ⟨nofun, aware⟩⟩

theorem declared_yields (name : String) (bound : Value) :
    Yields (declared name bound) fun found => momentOf bound = .ok found := by
  refine Yields.bind (Yields.lift fun found denotes => denotes) fun found denotes => ?_
  simp only
  split
  · exact Yields.last fun _ => Yields.pure denotes
  · exact Yields.pure denotes

/-- The bounds with the limit that a check sets. -/
def limited (bounds : DateBounds) (check : Check) (limit : Moment) : DateBounds :=
  match check with
  | .min _ _ => { bounds with min := some limit }
  | .max _ _ => { bounds with max := some limit }
  | _ => bounds

/-- A bound sets the limit that it denotes. -/
theorem declare_bound (bounds : DateBounds) (check : Check) (isBound : check.isBound = true)
    (dated : check.argument.IsDateBound) :
    Yields (bounds.declare check) fun declared => ∃ limit,
      momentOf check.argument = .ok (some limit) ∧ limit.IsValid ∧
        declared = bounds.limited check limit := by
  have denoted := (declared_yields check.name check.argument).mono fun _ denotes =>
    And.intro denotes (momentOf_valid dated denotes)
  obtain ⟨bound, inclusive, rfl⟩ | ⟨bound, inclusive, rfl⟩ := Check.eq_of_isBound isBound
  all_goals
    refine Yields.bind denoted fun found ⟨denotes, limit, isLimit, valid, _⟩ => Yields.pure ?_
    exact ⟨limit, isLimit ▸ denotes, valid, by rw [isLimit]; rfl⟩

/-- Bounds are read check by check. -/
theorem foldlM_yields {checks : List Check} {check : Check} {bounds : DateBounds}
    {property : DateBounds → Prop} {further : DateBounds → Prop}
    (first : Yields (bounds.declare check) property)
    (rest : ∀ declared, property declared → Yields (checks.foldlM declare declared) further) :
    Yields ((check :: checks).foldlM declare bounds) further := by
  rw [List.foldlM_cons]
  exact first.bind rest

theorem foldlM_one {check : Check} {bounds : DateBounds} {property : DateBounds → Prop}
    (read : Yields (bounds.declare check) property) :
    Yields ([check].foldlM declare bounds) property :=
  foldlM_yields read fun _ holds => Yields.pure holds

/-- Checks that are no bounds say nothing of the dates that are drawn. -/
theorem ofChecks_filter (checks : List Check) :
    ofChecks (checks.filter Check.isBound) = ofChecks checks := by
  have each : (fun (bounds : DateBounds) (check : Check) =>
      if check.isBound = true then declare bounds check else pure bounds) = declare := by
    funext bounds check
    cases check <;> rfl
  unfold ofChecks
  rw [List.foldlM_filter, each]

theorem ofChecks_yields {checks : List Check} {property : DateBounds → Prop}
    (read : Yields (checks.foldlM declare {}) property) :
    Yields (ofChecks checks) fun bounds => ∃ denoted, property denoted ∧ bounds = denoted.align :=
  read.bind fun denoted holds => Yields.pure ⟨denoted, holds, rfl⟩

theorem ofChecks_bound (check : Check) (isBound : check.isBound = true)
    (dated : check.argument.IsDateBound) :
    Yields (ofChecks [check]) fun bounds => ∃ limit,
      momentOf check.argument = .ok (some limit) ∧ bounds = limited {} check limit := by
  refine (ofChecks_yields (foldlM_one (declare_bound {} check isBound dated))).mono
    fun bounds found => ?_
  obtain ⟨denoted, ⟨limit, denotes, _, rfl⟩, rfl⟩ := found
  refine ⟨limit, denotes, ?_⟩
  cases check <;> rfl

theorem declare_both (first second : Check) (isBound : first.isBound = true)
    (alsoBound : second.isBound = true) (dated : first.argument.IsDateBound)
    (alsoDated : second.argument.IsDateBound) :
    Yields ([first, second].foldlM declare {}) fun declared => ∃ limit other,
      (momentOf first.argument = .ok (some limit) ∧ limit.IsValid) ∧
        (momentOf second.argument = .ok (some other) ∧ other.IsValid) ∧
          declared = (limited {} first limit).limited second other := by
  refine foldlM_yields (declare_bound {} first isBound dated) fun declared isFirst => ?_
  refine foldlM_yields (declare_bound declared second alsoBound alsoDated) fun further isSecond =>
    Yields.pure ?_
  obtain ⟨limit, denotes, valid, rfl⟩ := isFirst
  obtain ⟨other, alsoDenotes, alsoValid, rfl⟩ := isSecond
  exact ⟨limit, other, ⟨denotes, valid⟩, ⟨alsoDenotes, alsoValid⟩, rfl⟩

/-- The bounds denote valid moments. -/
def AreDenoted (low high : Value) (bounds : DateBounds) : Prop :=
  ∃ first last, (momentOf low = .ok (some first) ∧ first.IsValid) ∧
    (momentOf high = .ok (some last) ∧ last.IsValid) ∧ bounds = ⟨some first, some last⟩

/-- Two bounds on one clock are at the instants that they are at, with an offset if one of them has
one. -/
theorem align_both (low high : Moment) : ∃ first last,
    (⟨some low, some high⟩ : DateBounds).align = ⟨some first, some last⟩ ∧
      first.instant = low.instant ∧ last.instant = high.instant ∧
        first.isAware = (low.isAware || high.isAware) ∧
          last.isAware = (low.isAware || high.isAware) := by
  unfold align
  simp only
  split
  · next alike => exact ⟨low, high, rfl, rfl, rfl, by simp [alike], by simp [alike]⟩
  · next apart =>
    refine ⟨_, _, rfl, low.assumeUniversal_instant, high.assumeUniversal_instant, ?_, ?_⟩ <;>
    · rw [Moment.assumeUniversal_isAware]
      cases first : low.isAware <;> cases last : high.isAware <;> simp_all

end DateBounds

/-! ### Dates that are drawn -/

/-- The moment is not outside the bound of the check, as the bound is read. -/
inductive Check.Confines (moment : Moment) : Check → Prop
  | lower {bound : Value} {limit : Moment} (denotes : DateBounds.momentOf bound = .ok (some limit))
      (notBefore : limit.instant ≤ moment.instant) (inclusive : Bool) :
      Confines moment (.min bound inclusive)
  | upper {bound : Value} {limit : Moment} (denotes : DateBounds.momentOf bound = .ok (some limit))
      (notAfter : moment.instant ≤ limit.instant) (inclusive : Bool) :
      Confines moment (.max bound inclusive)

/-- Does the bound of the check denote a moment with an offset? -/
def Check.isAware (check : Check) : Bool :=
  match DateBounds.momentOf check.argument with
  | .ok (some limit) => limit.isAware
  | _ => false

theorem Check.isAware_of_denotes (check : Check) {limit : Moment}
    (denotes : DateBounds.momentOf check.argument = .ok (some limit)) :
    check.isAware = limit.isAware := by
  simp only [isAware, denotes]

/-- Moments on the same kind of clock are compared as instants. -/
theorem Value.greater_of_alike {first second : Moment} (alike : first.isAware = second.isAware) :
    (Value.moment first).compares .greater (.moment second) =
      .ok (decide (second.instant < first.instant)) := by
  have compared : (Value.moment first).compares .greater (.moment second) =
      .ok (compare first.instant second.instant == .gt) := by
    simp only [compares, holds, Moment.order?, alike, if_true]
    rfl
  rw [compared, Bool.eq_iff_iff.2 (beq_iff_eq.trans (Int.compare_eq_gt.trans decide_eq_true_iff.symm))]

namespace Make

theorem momentBetween_within {low high : Moment} (alike : low.isAware = high.isAware)
    (short : high.instant - low.instant < (2 ^ 52 * microsPerSecond : Nat)) :
    Yields (momentBetween low high) fun value => ∀ moment, value = .moment moment →
      moment.isAware = low.isAware ∧ low.instant ≤ moment.instant ∧
        moment.instant ≤ high.instant := by
  unfold momentBetween
  rw [Value.greater_of_alike alike, Run.lift_ok, pure_bind]
  split
  · refine Yields.last fun _ => Yields.pure fun moment isMoment => ?_
    cases isMoment
  · next ordered =>
    have notAfter : low.instant ≤ high.instant :=
      Int.not_lt.1 fun crossed => ordered (decide_eq_true crossed)
    refine (Draw.between_within alike notAfter short).mono fun value found moment isMoment => ?_
    obtain ⟨other, isOther, offset, within⟩ := found
    cases isOther.symm.trans isMoment
    exact ⟨congrArg Option.isSome offset, within⟩

/-- Valid moments are not far apart. -/
theorem valid_close {low high : Moment} (ofLow : low.IsValid) (ofHigh : high.IsValid) :
    high.instant - low.instant < (2 ^ 52 * microsPerSecond : Nat) := by
  have first := ofLow.instant_bounds
  have last := ofHigh.instant_bounds
  have day : microsPerDay = 86400000000 := rfl
  have calendar : Moment.limit = 315537897600000000 := rfl
  have second : microsPerSecond = 1000000 := rfl
  omega

/-- What is drawn between two bounds lies between what they denote, with an offset if one of them
has one. -/
theorem denoted_within (environment : Environment) (context : Context) {low high : Value}
    {checks : List Check}
    (read : Yields (checks.foldlM DateBounds.declare {}) (DateBounds.AreDenoted low high)) :
    Yields (date environment checks context) fun value => ∀ moment, value = .moment moment →
      ∃ first last, DateBounds.momentOf low = .ok (some first) ∧
        DateBounds.momentOf high = .ok (some last) ∧ first.instant ≤ moment.instant ∧
          moment.instant ≤ last.instant ∧ moment.isAware = (first.isAware || last.isAware) := by
  refine (DateBounds.ofChecks_yields read).bind fun bounds found => ?_
  obtain ⟨_, ⟨first, last, ⟨ofLow, validLow⟩, ⟨ofHigh, validHigh⟩, rfl⟩, rfl⟩ := found
  obtain ⟨start, stop, isAligned, sameStart, sameStop, startAware, stopAware⟩ :=
    DateBounds.align_both first last
  have close := valid_close validLow validHigh
  rw [← sameStart, ← sameStop] at close
  rw [isAligned]
  refine (momentBetween_within (startAware.trans stopAware.symm) close).mono
    fun value found moment isMoment => ?_
  obtain ⟨clock, notBefore, notAfter⟩ := found moment isMoment
  exact ⟨first, last, ofLow, ofHigh, sameStart ▸ notBefore, sameStop ▸ notAfter,
    clock.trans startAware⟩

/-- Dates lie within their bounds as they are read, on a clock with an offset if one of the bounds
has one. -/
theorem bounds_within (environment : Environment) {checks : List Check}
    (areBounds : Check.AreDateBounds checks) (context : Context) :
    Yields (date environment checks context) fun value => ∀ moment, value = .moment moment →
      (∀ check ∈ checks, check.Confines moment) ∧
        (checks ≠ [] → moment.isAware = checks.any Check.isAware) := by
  cases areBounds with
  | none =>
    exact (Yields.trivial _).mono fun _ _ _ _ => ⟨List.forall_mem_nil _, fun some => absurd rfl some⟩
  | lower isBound inclusive =>
    refine (DateBounds.ofChecks_bound (.min _ inclusive) rfl isBound).bind fun bounds found => ?_
    obtain ⟨limit, denotes, rfl⟩ := found
    refine (Draw.soon_within limit).mono fun value found moment isMoment => ?_
    obtain ⟨other, isOther, offset, notBefore⟩ := found
    cases isOther.symm.trans isMoment
    refine ⟨List.forall_mem_singleton.2 (.lower denotes notBefore inclusive), fun _ => ?_⟩
    rw [List.any_cons, Check.isAware_of_denotes _ denotes, List.any_nil, Bool.or_false]
    exact congrArg Option.isSome offset
  | upper isBound inclusive =>
    refine (DateBounds.ofChecks_bound (.max _ inclusive) rfl isBound).bind fun bounds found => ?_
    obtain ⟨limit, denotes, rfl⟩ := found
    refine (Draw.recent_within limit).mono fun value found moment isMoment => ?_
    obtain ⟨other, isOther, offset, notAfter⟩ := found
    cases isOther.symm.trans isMoment
    refine ⟨List.forall_mem_singleton.2 (.upper denotes notAfter inclusive), fun _ => ?_⟩
    rw [List.any_cons, Check.isAware_of_denotes _ denotes, List.any_nil, Bool.or_false]
    exact congrArg Option.isSome offset
  | @both low high isLow isHigh lowInclusive highInclusive =>
    have denoted := DateBounds.declare_both (.min low lowInclusive) (.max high highInclusive) rfl rfl
      isLow isHigh
    refine (denoted_within environment context denoted).mono fun value found moment isMoment => ?_
    obtain ⟨first, last, ofLow, ofHigh, notBefore, notAfter, clock⟩ := found moment isMoment
    refine ⟨List.forall_mem_cons.2 ⟨.lower ofLow notBefore lowInclusive,
      List.forall_mem_singleton.2 (.upper ofHigh notAfter highInclusive)⟩, fun _ => ?_⟩
    rw [List.any_cons, List.any_cons, Check.isAware_of_denotes _ ofLow,
      Check.isAware_of_denotes _ ofHigh, List.any_nil, Bool.or_false, clock]
  | @swapped low high isLow isHigh lowInclusive highInclusive =>
    have denoted := (DateBounds.declare_both (.max high highInclusive) (.min low lowInclusive) rfl rfl
      isHigh isLow).mono fun bounds ⟨last, first, ofHigh, ofLow, isBounds⟩ =>
        (⟨first, last, ofLow, ofHigh, isBounds⟩ : DateBounds.AreDenoted low high bounds)
    refine (denoted_within environment context denoted).mono fun value found moment isMoment => ?_
    obtain ⟨first, last, ofLow, ofHigh, notBefore, notAfter, clock⟩ := found moment isMoment
    refine ⟨List.forall_mem_cons.2 ⟨.upper ofHigh notAfter highInclusive,
      List.forall_mem_singleton.2 (.lower ofLow notBefore lowInclusive)⟩, fun _ => ?_⟩
    rw [List.any_cons, List.any_cons, Check.isAware_of_denotes (.min low lowInclusive) ofLow,
      Check.isAware_of_denotes (.max high highInclusive) ofHigh, List.any_nil, Bool.or_false, clock,
      Bool.or_comm]

/-- **Dates lie within their bounds as they are read**, on a clock with an offset if one of the
bounds denotes a moment with an offset. -/
theorem date_within (environment : Environment) {checks : List Check}
    (bounded : Check.BoundDates checks) (context : Context) :
    Yields (date environment checks context) fun value => ∀ moment, value = .moment moment →
      (∀ check ∈ checks, check.isBound = true → check.Confines moment) ∧
        ((∃ check ∈ checks, check.isBound = true) →
          (moment.isAware = true ↔ ∃ check ∈ checks, check.isBound = true ∧ check.isAware = true)) := by
  have same : date environment (checks.filter Check.isBound) context =
      date environment checks context := by
    unfold date
    rw [DateBounds.ofChecks_filter]
  rw [← same]
  refine (bounds_within environment bounded.areDateBounds context).mono
    fun value within moment isMoment => ?_
  obtain ⟨confines, clock⟩ := within moment isMoment
  refine ⟨List.forall_mem_filter.1 confines, fun ⟨check, mem, isBound⟩ => ?_⟩
  rw [clock (List.ne_nil_of_mem (List.mem_filter.2 ⟨mem, isBound⟩)), List.any_filter, List.any_eq_true]
  simp

end Make

/-! ### Dates that are judged -/

namespace Judge

/-- A moment is compared with the moment that a bound is if both or neither have an offset, and with
no number. -/
theorem comparisonMessage_bound {bound : Value} {limit moment : Moment} {comparison : Comparison}
    {asked : Moment → Prop} (denotes : DateBounds.momentOf bound = .ok (some limit))
    (decides : comparison.holdsOf (compare moment.instant limit.instant) = true ↔ asked limit)
    (noun relation : String) :
    comparisonMessage noun relation bound ((Value.moment moment).holds comparison bound) = none ↔
      ∃ limit, bound = .moment limit ∧ limit.isAware = moment.isAware ∧ asked limit := by
  cases bound with
  | moment other =>
    cases denotes
    simp only [Value.holds, Moment.order?, Value.moment.injEq, exists_eq_left', ← decides]
    by_cases alike : moment.isAware = limit.isAware
    · simp [alike, comparisonMessage_eq_none_iff]
    · simp [alike, comparisonMessage, Ne.symm alike]
  | int number | float number =>
    refine iff_of_false (Option.some_ne_none _) fun same => ?_
    obtain ⟨_, isMoment, _⟩ := same
    cases isMoment
  | _ => cases denotes

/-- A bound that confines a moment is silent about it if it is a moment on the same kind of clock,
and another one if it is exclusive. -/
theorem boundMessage_of_confines {moment : Moment} {check : Check}
    (confines : check.Confines moment) (noun : String) :
    boundMessage noun (.moment moment) check = none ↔
      ∃ limit, check.argument = .moment limit ∧ limit.isAware = moment.isAware ∧
        (check.isInclusive = false → limit.instant ≠ moment.instant) := by
  cases confines with
  | @lower bound limit denotes notBefore inclusive =>
    refine comparisonMessage_bound denotes ?_ noun ">="
    cases inclusive with
    | true => exact iff_of_true (bne_iff_ne.2 (compare_ge_iff_ge.2 notBefore)) nofun
    | false =>
      have above : limit.instant < moment.instant ↔ limit.instant ≠ moment.instant := by omega
      exact (beq_iff_eq.trans compare_gt_iff_gt).trans
        (above.trans ⟨fun apart _ => apart, fun apart => apart rfl⟩)
  | @upper bound limit denotes notAfter inclusive =>
    refine comparisonMessage_bound denotes ?_ noun "<="
    cases inclusive with
    | true => exact iff_of_true (bne_iff_ne.2 (compare_le_iff_le.2 notAfter)) nofun
    | false =>
      have below : moment.instant < limit.instant ↔ limit.instant ≠ moment.instant := by omega
      exact (beq_iff_eq.trans compare_lt_iff_lt).trans
        (below.trans ⟨fun apart _ => apart, fun apart => apart rfl⟩)

end Judge

namespace Check

/-- The bounds among the checks are moments that all have an offset or all have none. -/
def ShareClock (checks : List Check) : Prop :=
  ∃ aware, ∀ check ∈ checks, check.isBound = true →
    ∃ limit, check.argument = .moment limit ∧ limit.isAware = aware

/-- The moment is a bound that is exclusive, or it does not equal what a check asks it to be. -/
inductive Excludes (moment : Moment) : Check → Prop
  | bound {check : Check} {limit : Moment} (isBound : check.isBound = true)
      (isExclusive : check.isInclusive = false) (isLimit : check.argument = .moment limit)
      (same : limit.instant = moment.instant) : Excludes moment check
  | length {asked : Value} (different : (Value.moment moment).equals asked = false) :
      Excludes moment (.length asked)

/-- What is neither a bound nor a length is silent about a moment. -/
theorem boundMessage_of_other {check : Check} (other : check.isBound = false) (noun : String)
    (moment : Moment) : Judge.boundMessage noun (.moment moment) check = none ↔
      ¬ check.Excludes moment := by
  cases check with
  | min | max => cases other
  | length asked =>
    rw [Judge.boundMessage]
    cases same : (Value.moment moment).equals asked with
    | false => exact iff_of_false (Option.some_ne_none _) (not_not_intro (.length same))
    | true =>
      refine iff_of_true rfl fun excludes => ?_
      cases excludes with
      | bound isBound => cases isBound
      | length different => cases same.symm.trans different
  | _ =>
    refine iff_of_true rfl fun excludes => ?_
    cases excludes with
    | bound isBound => cases isBound

/-- No check has a message about a moment that is within the bounds, on a clock with an offset if
one of them has one, exactly if the bounds share a clock and no check excludes the moment. -/
theorem silent_iff {checks : List Check} {moment : Moment}
    (confines : ∀ check ∈ checks, check.isBound = true → check.Confines moment)
    (clock : (∃ check ∈ checks, check.isBound = true) →
      (moment.isAware = true ↔ ∃ check ∈ checks, check.isBound = true ∧ check.isAware = true))
    (noun : String) :
    (∀ check ∈ checks, Judge.boundMessage noun (.moment moment) check = none) ↔
      ShareClock checks ∧ ∀ check ∈ checks, ¬ check.Excludes moment := by
  constructor
  · intro silent
    have read : ∀ check ∈ checks, check.isBound = true → ∃ limit, check.argument = .moment limit ∧
        limit.isAware = moment.isAware ∧
          (check.isInclusive = false → limit.instant ≠ moment.instant) := fun check mem isBound =>
      (Judge.boundMessage_of_confines (confines check mem isBound) noun).1 (silent check mem)
    refine ⟨⟨moment.isAware, fun check mem isBound => ?_⟩, fun check mem excludes => ?_⟩
    · obtain ⟨limit, isLimit, alike, _⟩ := read check mem isBound
      exact ⟨limit, isLimit, alike⟩
    · cases excludes with
      | bound isBound isExclusive isOther same =>
        obtain ⟨limit, isLimit, _, apart⟩ := read check mem isBound
        cases isLimit.symm.trans isOther
        exact apart isExclusive same
      | length different =>
        exact (boundMessage_of_other rfl noun moment).1 (silent _ mem) (.length different)
  · rintro ⟨⟨aware, shared⟩, allowed⟩ check mem
    cases isBound : check.isBound with
    | false => exact (boundMessage_of_other isBound noun moment).2 (allowed check mem)
    | true =>
      have told : ∀ other ∈ checks, other.isBound = true → other.isAware = aware := by
        intro other listed bounds
        obtain ⟨limit, isLimit, alike⟩ := shared other listed bounds
        simp only [isAware, isLimit, DateBounds.momentOf, alike]
      have same : moment.isAware = aware := by
        rw [Bool.eq_iff_iff, clock ⟨check, mem, isBound⟩]
        constructor
        · rintro ⟨other, listed, bounds, isAware⟩
          exact (told other listed bounds).symm.trans isAware
        · exact fun isAware => ⟨check, mem, isBound, (told check mem isBound).trans isAware⟩
      obtain ⟨limit, isLimit, alike⟩ := shared check mem isBound
      refine (Judge.boundMessage_of_confines (confines check mem isBound) noun).2
        ⟨limit, isLimit, alike.trans same.symm, fun isExclusive together => ?_⟩
      exact allowed check mem (.bound isBound isExclusive isLimit together)

end Check

/-- **Validation accepts a date that was drawn exactly if the bounds share a clock and no check
excludes the date.** -/
theorem Make.date_verdict (environment : Environment) {schema : Schema}
    (isDate : schema.kind = .date) (bounded : Check.BoundDates schema.checks) (context : Context) :
    Yields (date environment schema.checks context) fun value =>
      ∀ moment, value = .moment moment →
        (∀ check ∈ schema.checks, check.isBound = true → check.Confines moment) ∧
          ∀ definitions, Judge.Decides (validate definitions schema) value
            (Check.ShareClock schema.checks ∧
              ∀ check ∈ schema.checks, ¬ check.Excludes moment) := by
  refine (date_within environment bounded context).mono fun value within moment isMoment => ?_
  obtain ⟨confines, clock⟩ := within moment isMoment
  refine ⟨confines, fun definitions => ?_⟩
  have judged : Judge.Decides (Judge.date schema.checks) value
      (∀ check ∈ schema.checks, Judge.boundMessage "date" value check = none) := by
    intro path
    rw [isMoment]
    refine ⟨Judge.boundIssues schema.checks "date" (.moment moment) path, rfl, ?_⟩
    rw [Judge.boundIssues, List.map_eq_nil_iff, List.filterMap_eq_nil_iff]
  have node : Judge.ofKind definitions (validate definitions) schema
      (schema.parts (validate definitions)) = Judge.date schema.checks := by
    rw [Judge.ofKind, isDate]
  have present : value ≠ .absent := by
    rw [isMoment]
    exact Value.noConfusion
  refine validate_decides (.inl present) ?_
  rw [node]
  refine judged.congr ?_
  rw [isMoment]
  exact Check.silent_iff confines clock "date"

namespace Make

/-- Below an upper bound a date is drawn, if the calendar goes back for another day. -/
theorem date_gives (environment : Environment) {bound : Value} {limit : Moment}
    (denotes : DateBounds.momentOf bound = .ok (some limit)) (late : microsPerDay ≤ limit.wall)
    (valid : limit.wall < Moment.limit) (inclusive : Bool) (context : Context) :
    Gives (date environment [.max bound inclusive] context) fun value =>
      ∃ moment, value = .moment moment := by
  have read : DateBounds.ofChecks [.max bound inclusive] = pure ⟨none, some limit⟩ := by
    have declared : DateBounds.declared (Check.max bound inclusive).name bound =
        pure (some limit) := by
      unfold DateBounds.declared
      rw [denotes, Run.lift_ok, pure_bind]
      rfl
    unfold DateBounds.ofChecks
    rw [List.foldlM_cons, DateBounds.declare, declared]
    rfl
  unfold date
  rw [read, pure_bind]
  exact Draw.recent_gives (by decide) ((Nat.one_mul _).le.trans late) valid

/-- A date until a day of the year 2024 is drawn and accepted. -/
theorem someDay_accepted : Gives (date (.numbered [])
    (Schema.date.max (.moment Environment.someDay) true).checks {}) fun value =>
      ∃ moment, value = .moment moment ∧ ∀ definitions, Judge.Decides
        (validate definitions (Schema.date.max (.moment Environment.someDay) true)) value True := by
  have bounded : Check.BoundDates (Schema.date.max (.moment Environment.someDay) true).checks := by
    refine ⟨by decide, by decide, fun check mem isBound => ?_⟩
    cases List.mem_singleton.1 mem
    exact .moment ⟨by decide, nofun⟩
  refine ((date_gives _ rfl (by decide) (by decide) true {}).and
    (date_verdict (.numbered []) rfl bounded {})).mono fun value both => ?_
  obtain ⟨⟨moment, isMoment⟩, verdict⟩ := both
  refine ⟨moment, isMoment, fun definitions => ?_⟩
  refine ((verdict moment isMoment).2 definitions).congr (iff_of_true ⟨?_, ?_⟩ True.intro)
  · refine ⟨false, List.forall_mem_singleton.2 fun _ => ⟨_, rfl, rfl⟩⟩
  · refine List.forall_mem_singleton.2 fun excludes => ?_
    cases excludes with
    | bound isBound isExclusive => cases isExclusive

/-- A date until the epoch is drawn and refused if the epoch is written as a number. -/
theorem epoch_refused : Gives (date (.numbered []) (Schema.date.max (.int 0) true).checks {})
    fun value => ∃ moment, value = .moment moment ∧ ∀ definitions,
      Judge.Decides (validate definitions (Schema.date.max (.int 0) true)) value False := by
  have epoch : DateBounds.momentOf (.int 0) = .ok (some ⟨epochWall, some 0⟩) := by decide +kernel
  refine (date_gives _ epoch (by decide) (by decide) true {}).mono fun value found => ?_
  obtain ⟨moment, isMoment⟩ := found
  refine ⟨moment, isMoment, fun definitions => ?_⟩
  rw [isMoment]
  refine validate_decides (.inl nofun) fun path => ?_
  exact ⟨_, rfl, iff_of_false (List.cons_ne_nil _ _) id⟩

end Make

end Specimen
