/-
**The numbers of a node are exact.**

A node for numbers may declare any number of bounds. The last lower and the last upper one count,
and the others are forgotten (`Schema.denote_last`). The closed interval that the bounds are rounded
to holds the integers that satisfy both, and no others, so a sample is one of them if there is one;
if there is none nothing is drawn, and all that changes is the log (`Schema.number_exact`).
-/

import Specimen.Proofs.Intervals
import Specimen.Proofs.LastChecks
import Specimen.Proofs.Making
import Specimen.Proofs.Numbered

namespace Specimen

open Run (Gives)

namespace Check

variable {check : Check} {limit : Rat} {number : Int}

theorem within_iff_admits_min (isMin : check.name = "min") (denotes : check.argument.Denotes limit) :
    Within check.isInclusive limit number ↔ check.Admits number := by
  cases check with
  | min bound inclusive =>
    refine ⟨.min denotes, ?_⟩
    rintro (_ | ⟨isLimit, within⟩)
    cases denotes.symm.trans isLimit
    exact within
  | _ => simp [name] at isMin

theorem within_iff_admits_max (isMax : check.name = "max") (denotes : check.argument.Denotes limit) :
    Within check.isInclusive number limit ↔ check.Admits number := by
  cases check with
  | max bound inclusive =>
    refine ⟨.max denotes, ?_⟩
    rintro (_ | _ | ⟨isLimit, within⟩)
    cases denotes.symm.trans isLimit
    exact within
  | _ => simp [name] at isMax

/-- What is asked by the bound that a last check leaves is what the check admits. -/
theorem asks_last (asks : Bool → Option Rat → Int → Prop)
    (free : ∀ inclusive number, asks inclusive none number) {last : Option Check}
    (rational : ∀ check, last = some check → ∃ limit, check.argument.Denotes limit)
    (admits : ∀ check limit number, last = some check → check.argument.Denotes limit →
      (asks check.isInclusive (some limit) number ↔ check.Admits number)) :
    ∃ limit, Option.Rel Value.Denotes (last.bind fun check => check.argument.nonNull?) limit ∧
      ∀ number, asks ((last.map isInclusive).getD true) limit number ↔
        ∀ check, last = some check → check.Admits number := by
  cases last with
  | none => exact ⟨none, .none, fun number => iff_of_true (free _ number) nofun⟩
  | some check =>
    obtain ⟨limit, denotes⟩ := rational check rfl
    refine ⟨some limit, ?_, fun number => ?_⟩
    · rw [Option.bind_some, Value.nonNull_of_rational denotes]
      exact .some denotes
    · rw [Option.map_some, Option.getD_some, admits check limit number rfl denotes]
      exact ⟨fun holds _ same => Option.some.inj same ▸ holds, fun each => each check rfl⟩

end Check

namespace Schema

/-- The bounds that the node declares have places among the rationals. -/
def HasRationalBounds (schema : Schema) : Prop :=
  ∀ check ∈ schema.checks, check.name ∈ ["min", "max"] → ∃ limit, check.argument.Denotes limit

/-- The integer satisfies the last lower and the last upper bound, as far as the node declares any.
-/
def AdmitsLast (schema : Schema) (number : Int) : Prop :=
  ∀ name ∈ ["min", "max"], ∀ check, schema.lastCheck? name = some check → check.Admits number

variable {schema : Schema} (rational : schema.HasRationalBounds)

include rational

/-- The bounds that are left denote rationals, and admit what the last bounds do. -/
theorem denote_last : ∃ lower upper,
    (NumberBounds.ofChecks schema.checks).Denote lower upper ∧
      ∀ number, (NumberBounds.ofChecks schema.checks).Admit lower upper number ↔
        schema.AdmitsLast number := by
  have named : ∀ {name check}, schema.lastCheck? name = some check → check.name = name :=
    fun found => beq_iff_eq.1 (Check.last?_concerns found)
  have each : ∀ name ∈ ["min", "max"], ∀ check, schema.lastCheck? name = some check →
      ∃ limit, check.argument.Denotes limit := fun name listed check found =>
    rational check (Check.last?_mem found) (named found ▸ listed)
  obtain ⟨lower, isLower, above⟩ := Check.asks_last
    (fun inclusive limit number => Json.Limits inclusive limit (some (number : Rat)))
    (fun _ _ => Json.limits_none_left) (each "min" (by decide))
    fun check limit number found denotes => by
      rw [Json.limits_iff]
      exact Check.within_iff_admits_min (named found) denotes
  obtain ⟨upper, isUpper, below⟩ := Check.asks_last
    (fun inclusive limit number => Json.Limits inclusive (some (number : Rat)) limit)
    (fun _ _ => Json.limits_none_right) (each "max" (by decide))
    fun check limit number found denotes => by
      rw [Json.limits_iff]
      exact Check.within_iff_admits_max (named found) denotes
  refine ⟨lower, upper, ⟨?_, ?_⟩, fun number => ?_⟩
  · rw [NumberBounds.ofChecks_min]
    exact isLower
  · rw [NumberBounds.ofChecks_max]
    exact isUpper
  · have isMin : (NumberBounds.ofChecks schema.checks).minInclusive =
        ((schema.lastCheck? "min").map Check.isInclusive).getD true :=
      NumberBounds.ofChecks_minInclusive schema.checks
    have isMax : (NumberBounds.ofChecks schema.checks).maxInclusive =
        ((schema.lastCheck? "max").map Check.isInclusive).getD true :=
      NumberBounds.ofChecks_maxInclusive schema.checks
    unfold AdmitsLast
    rw [List.forall_mem_cons, List.forall_mem_singleton, ← above, ← below, ← isMin, ← isMax]
    exact ⟨fun within => ⟨within.above, within.below⟩, fun holds => ⟨holds.1, holds.2⟩⟩

/-- **The numbers of a node are exact.** The interval to draw from holds the integers that satisfy
the last bounds; a sample is one of them, and without any it is absent and nothing is drawn. -/
theorem number_exact (kind : schema.kind = .number ∨ schema.kind = .bigint) :
    (∃ least greatest,
      (NumberBounds.ofChecks schema.checks).integers = .ok (least, greatest) ∧
        ∀ number : Int, ((∀ low, least = some low → low ≤ number) ∧
          ∀ high, greatest = some high → number ≤ high) ↔ schema.AdmitsLast number) ∧
    ∀ environment context, context.overrides.lookup schema.tag = none →
      ((∃ number, schema.AdmitsLast number) → Gives (generate environment schema context)
        fun value => ∃ number, value = .int number ∧ schema.AdmitsLast number) ∧
      ((∀ number, ¬ schema.AdmitsLast number) → ∀ session, ∃ message,
        generate environment schema context session =
          (.ok .absent, { session with log := ⟨.debug, .synthesis, message⟩ :: session.log })) := by
  obtain ⟨lower, upper, denote, admitted⟩ := schema.denote_last rational
  refine ⟨?_, fun environment context own => ?_⟩
  · obtain ⟨least, greatest, bounds, within⟩ := NumberBounds.integers_of_denote denote
    exact ⟨least, greatest, bounds, fun number => (within number).trans (admitted number)⟩
  have builtin : ∀ lower parts, Make.builtin? environment lower schema parts =
      some (Make.number schema.checks) := by
    intro lower parts
    rcases kind with kind | kind <;> rw [Make.builtin?, kind]
  rw [generate_of_lookup own builtin]
  refine ⟨fun ⟨found, admits⟩ => ?_, fun empty session => ?_⟩
  · have drawn := Make.number_draws denote ((admitted found).2 admits) context
    exact (Make.filled_gives drawn).mono fun value ⟨number, isNumber, within⟩ =>
      ⟨number, isNumber, (admitted number).1 within⟩
  · obtain ⟨message, same⟩ := Make.number_of_empty denote
      (fun number within => empty number ((admitted number).1 within)) context
    refine ⟨message, Make.filled_ok ?_⟩
    rw [same, Run.bind_ok (Run.log_apply _ _ _ session)]
    rfl

omit rational

/-- A number above -3.5 and below -0.5, by bounds of which the first is forgotten. -/
def smallDebt : Schema :=
  ((bigint.min (.int 10) true).max (.float (Binary64.ofRat (-1 / 2))) false).min
    (.float (Binary64.ofRat (-7 / 2))) false

/-- A small debt is drawn from -3, -2 and -1. -/
theorem smallDebt_exact : Gives (generate (.numbered []) smallDebt {}) fun value =>
    ∃ number : Int, value = .int number ∧ -3 ≤ number ∧ number ≤ -1 := by
  have low : (Value.float (Binary64.ofRat (-7 / 2))).Denotes (-7 / 2) := by decide +kernel
  have high : (Value.float (Binary64.ofRat (-1 / 2))).Denotes (-1 / 2) := by decide +kernel
  have rational : smallDebt.HasRationalBounds := by
    intro check mem _
    rcases List.mem_cons.1 mem with rfl | mem
    · exact ⟨10, rfl⟩
    rcases List.mem_cons.1 mem with rfl | mem
    · exact ⟨_, high⟩
    cases List.mem_singleton.1 mem
    exact ⟨_, low⟩
  have admits : smallDebt.AdmitsLast (-2) := by
    intro name listed check found
    rcases List.mem_cons.1 listed with rfl | listed
    · cases found
      exact .min low (by norm_num [Within])
    · cases List.mem_singleton.1 listed
      cases found
      exact .max high (by norm_num [Within])
  have drawn := ((number_exact rational (.inr rfl)).2 (.numbered []) {} rfl).1 ⟨-2, admits⟩
  refine drawn.mono fun value ⟨number, isNumber, within⟩ => ⟨number, isNumber, ?_⟩
  have least : (-7 / 2 : Rat) < number := by
    rcases within "min" (by decide) _ rfl with _ | ⟨isLimit, above⟩
    cases low.symm.trans isLimit
    exact above
  have most : (number : Rat) < -1 / 2 := by
    rcases within "max" (by decide) _ rfl with _ | _ | ⟨isLimit, below⟩
    cases high.symm.trans isLimit
    exact below
  have aboveFour : ((-4 : Int) : Rat) < number := by
    push_cast
    linarith
  have belowZero : (number : Rat) < (0 : Int) := by
    push_cast
    linarith
  exact ⟨Int.add_one_le_iff.2 (Int.cast_lt.1 aboveFour),
    Int.le_sub_one_iff.2 (Int.cast_lt.1 belowZero)⟩

end Schema

end Specimen
