/-
**The size of a collection.**

The checks of a collection leave two bounds on its size, each that of the last check about it, and
where one is missing the usual one takes its place. The interval to draw the size from is then
`sizesToDraw`:

* `sizesToDraw_ordered`: it is never empty;
* `isFitting_of_mem_sizesToDraw`: its sizes fit the declared bounds, and are the greatest one if the
  declared bounds are crossed.

So a size is always drawn where the bounds are integers (`Check.BoundByIntegers.targetSize_gives`),
and where they are natural numbers it is one that fits (`Check.BoundSizes.targetSize_gives`).
-/

import Specimen.Proofs.TextLengths

namespace Specimen

open Run (Gives)

/-! ### Sizes to draw -/

/-- The sizes to draw from. A bound that is not declared gives way to the other one. -/
def sizesToDraw (least greatest : Option Int) (usual : Int × Int) : Int × Int :=
  let few := least.getD usual.1
  match greatest with
  | none => (few, max few usual.2)
  | some most => (min few most, most)

section Sizes

variable {least greatest : Option Int} {usual : Int × Int} {size : Int}

theorem sizesToDraw_ordered (least greatest : Option Int) (usual : Int × Int) :
    (sizesToDraw least greatest usual).1 ≤ (sizesToDraw least greatest usual).2 := by
  cases greatest with
  | none => exact le_max_left _ _
  | some most => exact min_le_right _ _

theorem isFitting_of_mem_sizesToDraw (above : (sizesToDraw least greatest usual).1 ≤ size)
    (below : size ≤ (sizesToDraw least greatest usual).2) : IsFitting least greatest size where
  atMost := by
    rintro most rfl
    exact below
  atLeast := by
    rintro few rfl ordered
    cases greatest with
    | none => exact above
    | some most => exact (le_min (Int.le_refl few) (ordered most rfl)).trans above
  exactly := by
    rintro few most rfl rfl crossed
    exact Int.le_antisymm below ((le_min crossed.le (Int.le_refl most)).trans above)

theorem sizesToDraw_nonneg (usually : 0 ≤ usual.1) (few : ∀ size, least = some size → 0 ≤ size)
    (most : ∀ size, greatest = some size → 0 ≤ size) :
    0 ≤ (sizesToDraw least greatest usual).1 := by
  have first : 0 ≤ least.getD usual.1 := by
    cases least with
    | none => exact usually
    | some size => exact few size rfl
  cases greatest with
  | none => exact first
  | some size => exact le_min first (most size rfl)

end Sizes

/-! ### Bounds -/

namespace SizeBounds

theorem ofChecks_min (checks : List Check) : (ofChecks checks).min =
    (Check.last? Check.boundsBelow checks).bind fun check => check.argument.nonNull? :=
  Check.foldl_bound_eq_last (fun bounds check => by cases check <;> rfl) rfl checks

theorem ofChecks_max (checks : List Check) : (ofChecks checks).max =
    (Check.last? Check.boundsAbove checks).bind fun check => check.argument.nonNull? :=
  Check.foldl_bound_eq_last (fun bounds check => by cases check <;> rfl) rfl checks

/-- Bounds that are integers resolve to the sizes to draw from. -/
theorem resolve_eq {bounds : SizeBounds} {least greatest : Option Int}
    (isLeast : Option.Rel (fun bound size => bound.toInt? = some size) bounds.min least)
    (isGreatest : Option.Rel (fun bound size => bound.toInt? = some size) bounds.max greatest)
    (usual : Int × Int) : ∃ low high,
      bounds.resolve (.int usual.1) (.int usual.2) = .ok (low, high) ∧
        low.toInt? = some (sizesToDraw least greatest usual).1 ∧
          high.toInt? = some (sizesToDraw least greatest usual).2 := by
  obtain ⟨lower, upper⟩ := bounds
  have isFew : (lower.getD (.int usual.1)).toInt? = some (least.getD usual.1) := by
    cases isLeast with
    | none => rfl
    | some isSize => exact isSize
  cases isGreatest with
  | none =>
    have isUsual : (Value.int usual.2).toInt? = some usual.2 := rfl
    simp only [resolve, sizesToDraw, Option.getD_none, Value.greater_of_toInt isFew isUsual]
    refine ⟨_, _, rfl, isFew, ?_⟩
    by_cases above : usual.2 < least.getD usual.1
    · rw [decide_eq_true above, if_pos rfl, isFew, max_eq_left above.le]
    · rw [decide_eq_false above, if_neg Bool.false_ne_true, isUsual,
        max_eq_right (Int.not_lt.1 above)]
  | @some bound most isMost =>
    simp only [resolve, sizesToDraw, Option.getD_some, Value.greater_of_toInt isFew isMost]
    refine ⟨_, _, rfl, ?_, isMost⟩
    by_cases above : most < least.getD usual.1
    · rw [decide_eq_true above, if_pos rfl, isMost, min_eq_right above.le]
    · rw [decide_eq_false above, if_neg Bool.false_ne_true, isFew, min_eq_left (Int.not_lt.1 above)]

end SizeBounds

/-! ### Targets -/

/-- The checks bound sizes by integers. -/
def Check.BoundByIntegers (checks : List Check) : Prop :=
  ∀ check ∈ checks, check.boundsBelow = true ∨ check.boundsAbove = true →
    ∃ size, check.argument.toInt? = some size

namespace Check.BoundByIntegers

variable {checks : List Check} (integers : BoundByIntegers checks) (usual : Int × Int)

include integers

/-- The interval that a size is drawn from. -/
theorem resolve : ∃ low high,
    (SizeBounds.ofChecks checks).resolve (.int usual.1) (.int usual.2) = .ok (low, high) ∧
      low.toInt? = some (sizesToDraw (leastLength? checks) (greatestLength? checks) usual).1 ∧
        high.toInt? =
          some (sizesToDraw (leastLength? checks) (greatestLength? checks) usual).2 := by
  refine SizeBounds.resolve_eq ?_ ?_ usual
  · rw [SizeBounds.ofChecks_min]
    exact last?_bind_toInt fun check mem below => integers check mem (.inl below)
  · rw [SizeBounds.ofChecks_max]
    exact last?_bind_toInt fun check mem above => integers check mem (.inr above)

/-- **A size is always drawn**, from the sizes to draw. -/
theorem targetSize_gives : Gives (Make.targetSize checks usual) fun target =>
    (sizesToDraw (leastLength? checks) (greatestLength? checks) usual).1 ≤ target ∧
      target ≤ (sizesToDraw (leastLength? checks) (greatestLength? checks) usual).2 := by
  obtain ⟨low, high, resolved, isLow, isHigh⟩ := integers.resolve usual
  unfold Make.targetSize
  rw [resolved, Run.lift_ok, pure_bind]
  exact Draw.integer_gives_of_toInt isLow isHigh (sizesToDraw_ordered _ _ usual)

end Check.BoundByIntegers

/-! ### Natural sizes -/

/-- The checks bound sizes by natural numbers. -/
def Check.BoundSizes (checks : List Check) : Prop :=
  ∀ check ∈ checks, check.boundsBelow = true ∨ check.boundsAbove = true →
    ∃ size : Nat, check.argument.toInt? = some size

namespace Check.BoundSizes

variable {checks : List Check}

theorem boundByIntegers (sizes : BoundSizes checks) : BoundByIntegers checks := by
  intro check mem bounds
  obtain ⟨size, isSize⟩ := sizes check mem bounds
  exact ⟨size, isSize⟩

/-- The last bound of a kind is a natural number. -/
theorem last_nonneg (sizes : BoundSizes checks) {concerns : Check → Bool}
    (bounds : ∀ check, concerns check = true →
      check.boundsBelow = true ∨ check.boundsAbove = true) {size : Int}
    (last : ((last? concerns checks).bind fun check => check.argument.toInt?) = some size) :
    0 ≤ size := by
  obtain ⟨check, found, isSize⟩ := Option.bind_eq_some_iff.1 last
  obtain ⟨natural, isNatural⟩ :=
    sizes check (last?_mem found) (bounds check (last?_concerns found))
  cases isNatural.symm.trans isSize
  exact Int.natCast_nonneg natural

/-- **A natural number is drawn that fits the bounds.** -/
theorem targetSize_gives (sizes : BoundSizes checks) (usual : Int × Int) (usually : 0 ≤ usual.1) :
    Gives (Make.targetSize checks usual) fun target => ∃ count : Nat, target = count ∧
      IsFitting (leastLength? checks) (greatestLength? checks) count := by
  refine (sizes.boundByIntegers.targetSize_gives usual).mono fun target ⟨above, below⟩ => ?_
  have natural : 0 ≤ (sizesToDraw (leastLength? checks) (greatestLength? checks) usual).1 :=
    sizesToDraw_nonneg usually (fun _ => sizes.last_nonneg fun _ => .inl)
      fun _ => sizes.last_nonneg fun _ => .inr
  obtain ⟨count, rfl⟩ := Int.eq_ofNat_of_zero_le (natural.trans above)
  exact ⟨count, rfl, isFitting_of_mem_sizesToDraw above below⟩

end Check.BoundSizes

end Specimen
