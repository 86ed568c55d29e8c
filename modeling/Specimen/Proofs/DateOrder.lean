/-
**When no date is drawn.**

Bounds of dates that are moments are read without anything else happening: the last of each kind
counts (`DateBounds.ofChecks_eq`). If only one of the two that are left has an offset, the other one
is taken as universal time, so they can be compared in every case; what is compared are their
instants, which neither step changes.

So there is no date for a node exactly if its last lower bound is later than its last upper one,
where `Moment.IsLater` says for each kind of clocks what that means. Nothing is drawn then, and
there is a record of it (`Schema.date_unsatisfiable_iff`).
-/

import Specimen.Proofs.DateRange
import Specimen.Proofs.LastChecks
import Specimen.Proofs.Making

namespace Specimen

open Run (Yields)

/-! ### The order of moments -/

/-- Is a moment strictly later than another one? Two without an offset are compared as their clocks
say, two with one as instants, and of two different ones the one without is taken as universal time.
-/
def Moment.IsLater (first second : Moment) : Prop :=
  match first.offset, second.offset with
  | none, none => second.wall < first.wall
  | some ahead, some behind => (second.wall : Int) - behind < first.wall - ahead
  | none, some behind => (second.wall : Int) - behind < first.wall
  | some ahead, none => (second.wall : Int) < first.wall - ahead

theorem Moment.isLater_iff (first second : Moment) :
    first.IsLater second ↔ second.instant < first.instant := by
  obtain ⟨wall, offset⟩ := first
  obtain ⟨other, otherOffset⟩ := second
  cases offset <;> cases otherOffset <;> simp [IsLater, instant]

/-! ### Bounds that are moments -/

/-- The moment that the value is. -/
def Value.moment? : Value → Option Moment
  | .moment found => some found
  | _ => none

/-- The lower and the upper bounds of dates are moments. -/
def Check.BoundByMoments (checks : List Check) : Prop :=
  ∀ check ∈ checks, check.name ∈ ["min", "max"] → ∃ moment, check.argument = .moment moment

namespace DateBounds

/-- The bounds with one more check, whose bound is taken for a moment. -/
def noting (bounds : DateBounds) : Check → DateBounds
  | .min bound _ => { bounds with min := bound.moment? }
  | .max bound _ => { bounds with max := bound.moment? }
  | _ => bounds

theorem declare_eq {check : Check}
    (isMoment : check.name ∈ ["min", "max"] → ∃ moment, check.argument = .moment moment)
    (bounds : DateBounds) : bounds.declare check = pure (bounds.noting check) := by
  cases check with
  | min bound inclusive | max bound inclusive =>
    obtain ⟨moment, isBound⟩ := isMoment (by simp [Check.name])
    cases (isBound : bound = .moment moment)
    rfl
  | _ => rfl

theorem foldlM_declare {checks : List Check} (moments : Check.BoundByMoments checks)
    (bounds : DateBounds) : checks.foldlM declare bounds = pure (checks.foldl noting bounds) := by
  induction checks generalizing bounds with
  | nil => rfl
  | cons check rest hypothesis =>
    rw [Check.BoundByMoments, List.forall_mem_cons] at moments
    rw [List.foldlM_cons, declare_eq moments.1, pure_bind, hypothesis moments.2, List.foldl_cons]

/-- **Bounds that are moments are read off the last checks**, and nothing else happens. -/
theorem ofChecks_eq {checks : List Check} (moments : Check.BoundByMoments checks) :
    ofChecks checks = pure (align
      ⟨(Check.last? (·.name == "min") checks).bind fun check => check.argument.moment?,
        (Check.last? (·.name == "max") checks).bind fun check => check.argument.moment?⟩) := by
  have lower : (checks.foldl noting {}).min =
      (Check.last? (·.name == "min") checks).bind fun check => check.argument.moment? :=
    Check.foldl_bound_eq_last (fun bounds check => by cases check <;> rfl) rfl checks
  have upper : (checks.foldl noting {}).max =
      (Check.last? (·.name == "max") checks).bind fun check => check.argument.moment? :=
    Check.foldl_bound_eq_last (fun bounds check => by cases check <;> rfl) rfl checks
  rw [ofChecks, foldlM_declare moments, pure_bind, ← lower, ← upper]

/-- Bounds that are there are compared whatever their clocks are. -/
theorem align_compares {bounds : DateBounds} {low high : Moment}
    (isLow : bounds.align.min = some low) (isHigh : bounds.align.max = some high) :
    ∃ crossed, (Value.moment low).compares .greater (.moment high) = .ok crossed := by
  obtain ⟨lower, upper⟩ := bounds
  cases lower with
  | none => cases isLow
  | some first =>
    cases upper with
    | none => cases isHigh
    | some last =>
      obtain ⟨start, stop, isAligned, _, _, startAware, stopAware⟩ := align_both first last
      rw [isAligned] at isLow isHigh
      cases isLow
      cases isHigh
      exact ⟨_, Value.greater_of_alike (startAware.trans stopAware.symm)⟩

end DateBounds

/-! ### Dates that are drawn -/

/-- What is drawn between two moments is there. -/
theorem Draw.between_present (low high : Moment) :
    Yields (between (.moment low) (.moment high)) (· ≠ .absent) := by
  refine Yields.last fun size => Yields.last fun way => Yields.lift fun value found => ?_
  obtain ⟨moment, rfl, _⟩ := Value.moved_moment found
  exact nofun

namespace Make

/-- A node is absent with a record for debugging only if its rule gives the absent value so. -/
theorem filled_eq_absent {tag : String} {context : Context} {rule : Run Value}
    {session last : Session} {origin : LogOrigin} {message : String} {records : List LogRecord}
    (ended : filled tag context rule session = (.ok .absent, last))
    (logged : last.log = ⟨.debug, origin, message⟩ :: records) :
    rule session = (.ok .absent, last) := by
  rcases made : rule session with ⟨fault | value, after⟩
  · cases unknown : fault.isUnknownType with
    | false =>
      rw [filled_contained unknown made] at ended
      cases ended
      cases logged
    | true =>
      rw [filled_eq made fun other same => Except.error.inj same ▸ unknown] at ended
      cases ended
  · rw [filled_ok made] at ended
    exact ended

/-- Nothing is drawn between two moments exactly if they are in the wrong order. -/
theorem filled_momentBetween_iff (tag : String) (context : Context) {low high : Moment}
    (alike : low.isAware = high.isAware) (session : Session) :
    (∃ message, filled tag context (momentBetween low high) session =
      (.ok .absent, { session with log := ⟨.debug, .synthesis, message⟩ :: session.log })) ↔
        high.instant < low.instant := by
  unfold momentBetween
  rw [Value.greater_of_alike alike, Run.lift_ok, pure_bind]
  by_cases crossed : high.instant < low.instant
  · rw [decide_eq_true crossed, if_pos rfl, filled_bind (Run.log_apply _ _ _ session), filled_pure]
    exact iff_of_true ⟨_, rfl⟩ crossed
  · rw [decide_eq_false crossed, if_neg Bool.false_ne_true]
    refine iff_of_false (fun ⟨message, absent⟩ => ?_) crossed
    exact Draw.between_present low high _ _ _ (filled_eq_absent absent rfl) rfl

end Make

/-! ### Date nodes -/

namespace Schema

/-- The moment of the last check of a kind. -/
def lastMoment? (schema : Schema) (name : String) : Option Moment :=
  (schema.lastCheck? name).bind fun check => check.argument.moment?

/-- **A node for dates is absent exactly if its last bounds are in the wrong order.** Its bounds are
read and compared whatever their clocks are; if there are two, the lower one is later than the upper
one exactly if nothing is drawn and all that happens is a record. -/
theorem date_unsatisfiable_iff (environment : Environment) {schema : Schema} {context : Context}
    (kind : schema.kind = .date) (own : context.overrides.lookup schema.tag = none)
    (moments : Check.BoundByMoments schema.checks) :
    (∀ session, ∃ bounds, DateBounds.ofChecks schema.checks session = (.ok bounds, session) ∧
      ∀ low high, bounds.min = some low → bounds.max = some high →
        ∃ crossed, (Value.moment low).compares .greater (.moment high) = .ok crossed) ∧
    ∀ first last, schema.lastMoment? "min" = some first → schema.lastMoment? "max" = some last →
      ∀ session, (∃ message, generate environment schema context session =
          (.ok .absent, { session with log := ⟨.debug, .synthesis, message⟩ :: session.log })) ↔
        first.IsLater last := by
  have read := DateBounds.ofChecks_eq moments
  refine ⟨fun session => ?_, fun first last isFirst isLast session => ?_⟩
  · rw [read]
    exact ⟨_, rfl, fun low high => DateBounds.align_compares⟩
  obtain ⟨start, stop, isAligned, sameStart, sameStop, startAware, stopAware⟩ :=
    DateBounds.align_both first last
  have drawn : Make.date environment schema.checks context = Make.momentBetween start stop := by
    unfold Make.date
    rw [read, pure_bind]
    simp only [lastMoment?, lastCheck?] at isFirst isLast
    simp only [Check.last?, isFirst, isLast, isAligned]
  rw [generate_of_lookup own fun lower parts => by rw [Make.builtin?, kind], drawn,
    Make.filled_momentBetween_iff _ _ (startAware.trans stopAware.symm), sameStart, sameStop,
    Moment.isLater_iff]

/-- Half an hour before the end of a year, on a clock without an offset. -/
def lateEve : Moment := ⟨738885 * microsPerDay - 1800 * microsPerSecond, none⟩

/-- One o'clock in the next year, on a clock two hours ahead of universal time. -/
def earlyYear : Moment :=
  ⟨738885 * microsPerDay + 3600 * microsPerSecond, some (7200 * microsPerSecond)⟩

/-- Dates from the one to the other, by bounds of which the first is forgotten. -/
def yearsEnd : Schema :=
  ((date.min (.moment earlyYear) true).max (.moment earlyYear) false).min (.moment lateEve) true

/-- There are none: in universal time the year still has an hour to go at the upper bound. -/
theorem yearsEnd_unsatisfiable : ∃ message,
    generate (.numbered []) yearsEnd {} (.start ⟨.ofSeed 7, .int 7⟩ 0) = (.ok .absent,
      { Session.start ⟨.ofSeed 7, .int 7⟩ 0 with log := [⟨.debug, .synthesis, message⟩] }) := by
  have moments : Check.BoundByMoments yearsEnd.checks := by
    intro check mem _
    rcases List.mem_cons.1 mem with rfl | mem
    · exact ⟨_, rfl⟩
    rcases List.mem_cons.1 mem with rfl | mem
    · exact ⟨_, rfl⟩
    cases List.mem_singleton.1 mem
    exact ⟨_, rfl⟩
  have later : lateEve.IsLater earlyYear := by
    rw [Moment.isLater_iff]
    decide
  exact ((date_unsatisfiable_iff (.numbered []) rfl rfl moments).2 lateEve earlyYear rfl rfl
    (.start ⟨.ofSeed 7, .int 7⟩ 0)).2 later

end Schema

end Specimen
