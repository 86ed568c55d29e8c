/-
**The numbered provider answers.**

The numbered provider never fails with an unknown kind, it has words, and on an ordinary day it
answers whatever may be asked for a field. So there are environments in which every text field is
filled, and the assumptions on environments can be met together.
-/

import Specimen.Proofs.Completeness
import Specimen.Proofs.Fields
import Specimen.Provider

namespace Specimen

open Run (Gives)

/-- The first day of the year 2024. -/
def Environment.someDay : Moment := .startOf ⟨738885⟩ none

/-- An environment without functions of the caller, with the numbered provider. -/
def Environment.numbered (definitions : Schema.Definitions) : Environment where
  toServices := numberedServices
  definitions := definitions
  invoke _ _ := throw .wrongType
  today := someDay

/-- A session whose generator has nothing but highest bits in its state. -/
def Session.ofHighBits : Session := .start ⟨⟨Array.replicate Twister.size 0x80000000, 0⟩, .null⟩ 0

/-- A session whose generator gives these words, each with its bits mixed, and then zeros. -/
def Session.ofWords (words : List UInt32) : Session :=
  .start ⟨⟨(words ++ List.replicate (Twister.size - words.length) 0).toArray, 0⟩, .null⟩ 0

/-! ### Moving moments -/

namespace Value

variable {moment : Moment} {span : Int}

/-- A moment that stays within the calendar is moved. -/
theorem later_moment (inside : 0 ≤ moment.wall + span ∧ moment.wall + span < Moment.limit) :
    (Value.moment moment).later span =
      .ok (.moment ⟨(moment.wall + span).toNat, moment.offset⟩) := by
  simp only [later, moved, Moment.shift?, Moment.ofWall?, Bool.false_eq_true, if_false,
    if_pos inside]

theorem earlier_moment (inside : 0 ≤ moment.wall + -span ∧ moment.wall + -span < Moment.limit) :
    (Value.moment moment).earlier span =
      .ok (.moment ⟨(moment.wall + -span).toNat, moment.offset⟩) := by
  simp only [earlier, moved, Moment.shift?, Moment.ofWall?, if_true, if_pos inside]

end Value

namespace NumberedProvider

/-! ### Faults -/

theorem dayOf_ordinary (value : Value) : Ordinary (dayOf value) := by
  cases value with
  | moment value => exact .ok _
  | _ => exact rfl

theorem dateBetween_ordinary (low high : Value) (number : Nat) :
    Ordinary (dateBetween low high number) := by
  refine (Value.gap_ordinary low high).bind fun gap => ?_
  cases gap with
  | span size => exact Value.later_ordinary low _
  | _ => exact rfl

theorem answer_ordinary (call : ProviderCall) (number : Nat) : Ordinary (answer call number) := by
  unfold answer
  simp only
  split <;> first
    | exact .ok _
    | exact Value.earlier_ordinary _ _
    | exact (dateBetween_ordinary _ _ _).bind dayOf_ordinary
    | exact dateBetween_ordinary _ _ _

/-! ### Answers -/

/-- The names of calls that are answered with a date. -/
def dated : List String := ["date_time", "date_between_dates", "date_time_between_dates"]

theorem answer_undated {call : ProviderCall} (undated : call.name ∉ dated) (number : Nat) :
    ∃ value, answer call number = .ok value := by
  unfold answer
  simp only
  split <;> first
    | exact ⟨_, rfl⟩
    | next name => exact absurd (by rw [name]; decide) undated

/-- The date at a place between two moments on clocks without an offset. -/
theorem dateBetween_eq {low high : Moment} (isLow : low.offset = none) (isHigh : high.offset = none)
    (ordered : low.wall ≤ high.wall) (valid : high.wall < Moment.limit) {number : Nat}
    (small : number < answers) :
    ∃ moment, dateBetween (.moment low) (.moment high) number = .ok (.moment moment) := by
  have gap : (Value.moment low).gap (.moment high) = .ok (.span ((high.wall : Int) - low.wall)) := by
    simp [Value.gap, Moment.difference?, Moment.isAware, Moment.instant, isLow, isHigh]
  have size : 0 ≤ (high.wall : Int) - low.wall := by omega
  have step : 0 ≤ ((high.wall : Int) - low.wall) / (answers : Int) := Int.ediv_nonneg size (by decide)
  have way : ((high.wall : Int) - low.wall) / (answers : Int) * number ≤ (high.wall : Int) - low.wall :=
    (Int.mul_le_mul_of_nonneg_left (by omega) step).trans (Int.ediv_mul_le _ (by decide))
  have inside : 0 ≤ (low.wall : Int) + ((high.wall : Int) - low.wall) / (answers : Int) * number ∧
      (low.wall : Int) + ((high.wall : Int) - low.wall) / (answers : Int) * number < Moment.limit := by
    have forward := Int.mul_nonneg step (Int.natCast_nonneg number)
    exact ⟨by omega, by omega⟩
  have found : dateBetween (.moment low) (.moment high) number = (Value.moment low).later
      (((high.wall : Int) - low.wall) / (answers : Int) * number) := by
    unfold dateBetween
    rw [gap, ← Int.fdiv_eq_ediv_of_nonneg _ (Int.natCast_nonneg answers)]
    rfl
  exact ⟨_, found.trans (Value.later_moment inside)⟩

theorem answer_moment (reference : Value) (number : Nat) (arguments : List Value) :
    answer ⟨"date_time", arguments, [("end_datetime", reference)]⟩ number =
      reference.earlier (number * microsPerSecond) := rfl

theorem answer_days (first second : Value) (number : Nat) :
    answer ⟨"date_between_dates", [first, second], []⟩ number =
      (dateBetween first second number >>= dayOf) := rfl

end NumberedProvider

theorem numberedProvider_ordinary (call : ProviderCall) : (numberedProvider call).IsOrdinary := by
  have given : Gives (Run.draw fun twister => twister.below NumberedProvider.answers) fun _ => True :=
    Gives.draw fun _ => True.intro
  have drawn : (Run.draw fun twister => twister.below NumberedProvider.answers).HasCounterpart Eq :=
    .of_gives given fun number _ => ⟨number, rfl⟩
  exact (drawn.bind fun number _ _ => .lift (NumberedProvider.answer_ordinary call number)).1

theorem numberedProvider_gives {call : ProviderCall} {property : Value → Prop}
    (answered : ∀ number < NumberedProvider.answers,
      ∃ value, NumberedProvider.answer call number = .ok value ∧ property value) :
    Gives (numberedProvider call) property := by
  have drawn : Gives (Run.draw fun twister => twister.below NumberedProvider.answers)
      (· < NumberedProvider.answers) := Gives.draw fun twister => Twister.below_lt (by decide) twister
  refine drawn.bind fun number small => ?_
  obtain ⟨value, answer, holds⟩ := answered number small
  exact Gives.lift answer holds

theorem numberedProvider_undated {call : ProviderCall} (undated : call.name ∉ NumberedProvider.dated) :
    Gives (numberedProvider call) fun _ => True :=
  numberedProvider_gives fun number _ =>
    (NumberedProvider.answer_undated undated number).imp fun _ answer => ⟨answer, True.intro⟩

/-- A request that is answered without a look at the dates that come with it, or has the dates that
it is answered from. -/
def Request.isUndated : Request → Bool
  | .plain name => !NumberedProvider.dated.contains name
  | .pinned name _ => !(NumberedProvider.dated.drop 1).contains name
  | _ => true

/-! ### The environment -/

namespace Environment

theorem numbered_isOrdinary {definitions : Schema.Definitions}
    (ordinary : ∀ name definition, (name, definition) ∈ definitions → Ordinary definition) :
    (numbered definitions).IsOrdinary where
  provider := numberedProvider_ordinary
  invoke _ _ _ _ _ ended := by
    cases ended
    rfl
  generator _ _ _ _ _ ended := by cases ended
  definitions := ordinary

theorem numbered_hasWords (definitions : Schema.Definitions) : (numbered definitions).HasWords where
  any := numberedProvider_undated (by decide)
  madeUp _ := numberedProvider_undated (show "lexify" ∉ NumberedProvider.dated by decide)

/-- The calendar goes back some way before the day. -/
theorem someDay_before {span : Int} (nonneg : 0 ≤ span) (short : span ≤ Request.lifeSpan) :
    0 ≤ (someDay.wall : Int) + -span ∧ (someDay.wall : Int) + -span < Moment.limit := by
  have early : Request.lifeSpan ≤ (someDay.wall : Int) := by decide
  have late : (someDay.wall : Int) < Moment.limit := by decide
  omega

/-! #### Requests

One lemma for each kind of request that looks at dates. -/

section Requests

variable (definitions : Schema.Definitions)

/-- A moment of the seconds before the day. -/
theorem moment_answered (arguments : List Value) :
    Gives ((Request.pinned "date_time" arguments).make (numbered definitions) (.moment someDay))
      fun _ => True := by
  refine numberedProvider_gives fun number small => ?_
  have within : (number * microsPerSecond : Int) ≤ Request.lifeSpan := by
    have second : (microsPerSecond : Int) = 1000000 := rfl
    have thousand : NumberedProvider.answers = 1000 := rfl
    have life : Request.lifeSpan = 3626640000000000 := rfl
    rw [second]
    omega
  have back := someDay_before (Int.mul_nonneg (Int.natCast_nonneg _) (Int.natCast_nonneg _)) within
  exact ⟨_, (NumberedProvider.answer_moment _ number _).trans (Value.earlier_moment back),
    True.intro⟩

theorem birthDate_answered :
    Gives (Request.birthDate.make (numbered definitions) (.moment someDay)) fun _ => True := by
  obtain ⟨first, isFirst, offset, ordered⟩ : ∃ first : Moment,
      (Value.moment someDay).earlier Request.lifeSpan = .ok (.moment first) ∧
        first.offset = none ∧ first.wall ≤ someDay.wall :=
    ⟨_, Value.earlier_moment (someDay_before (by decide) (Int.le_refl _)), rfl, by decide⟩
  unfold Request.make
  rw [isFirst, Run.lift_ok, pure_bind]
  refine numberedProvider_gives fun number small => ?_
  obtain ⟨moment, found⟩ := NumberedProvider.dateBetween_eq offset rfl ordered (by decide) small
  refine ⟨.day moment.day, ?_, True.intro⟩
  rw [NumberedProvider.answer_days, found]
  rfl

theorem cardExpiry_answered :
    Gives (Request.cardExpiry.make (numbered definitions) (.moment someDay)) fun _ => True := by
  obtain ⟨last, isLast, offset, ordered, valid⟩ : ∃ last : Moment,
      (Value.moment someDay).later Request.cardSpan = .ok (.moment last) ∧
        last.offset = none ∧ someDay.wall ≤ last.wall ∧ last.wall < Moment.limit :=
    ⟨_, Value.later_moment (by decide), rfl, by decide, by decide⟩
  unfold Request.make
  rw [isLast, Run.lift_ok, pure_bind]
  have expires : Gives (numberedProvider
      ⟨"date_time_between_dates", [.moment someDay, .moment last], []⟩) fun value =>
        ∃ moment, value = .moment moment := by
    refine numberedProvider_gives fun number small => ?_
    obtain ⟨moment, found⟩ := NumberedProvider.dateBetween_eq rfl offset ordered valid small
    exact ⟨_, found, moment, rfl⟩
  refine expires.bind fun value ⟨moment, isMoment⟩ => ?_
  rw [isMoment]
  exact Gives.pure True.intro

/-- A request is answered, unless it wants dates that it does not bring along. -/
theorem request_answered {request : Request} (undated : request.isUndated = true) :
    Gives (request.make (numbered definitions) (.moment someDay)) fun _ => True := by
  cases request with
  | plain name => exact numberedProvider_undated (by simpa [Request.isUndated] using undated)
  | pinned name arguments =>
    by_cases isMoment : name = "date_time"
    · subst isMoment
      exact moment_answered definitions arguments
    · refine numberedProvider_undated ?_
      simp only [Request.isUndated, NumberedProvider.dated, Bool.not_eq_true', List.drop_one,
        List.tail_cons, List.contains_eq_mem, decide_eq_false_iff_not] at undated
      simp [NumberedProvider.dated, isMoment, undated]
  | birthDate => exact birthDate_answered definitions
  | cardExpiry => exact cardExpiry_answered definitions

/-- What is asked for a field is answered, on the day that the environment has. -/
theorem numbered_answersFields : (numbered definitions).AnswersFields someDay := by
  have sources : ∀ source ∈ TextSynthesis.categories.map (·.2),
      source ∈ [.recentMoment] ++ ["email", "uuid4", "url", "name", "hex_color", "phone_number"].map
        TextSynthesis.TextSource.provided := by decide
  have requests : ∀ entry ∈ catalog, entry.request.isUndated = true := by decide +kernel
  refine ⟨fun name mem => ?_, fun name call found => ?_,
    fun entry mem _ => request_answered definitions (requests entry mem)⟩
  · have listed := sources _ mem
    simp only [List.singleton_append, List.map_cons, List.map_nil, List.mem_cons, reduceCtorEq,
      TextSynthesis.TextSource.provided.injEq, List.not_mem_nil, or_false, false_or] at listed
    refine numberedProvider_undated ?_
    rcases listed with rfl | rfl | rfl | rfl | rfl | rfl <;> decide
  · refine numberedProvider_undated ?_
    unfold Catalog.mapped? at found
    split at found <;> cases found <;> decide

end Requests

end Environment

end Specimen
