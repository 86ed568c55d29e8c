/-
**The last check of a kind decides.**

The checks of a node are gathered into bounds from the first to the last, and a check replaces what
an earlier one of its kind has left. So each part of the bounds is read off the last check that is
about it, whatever else stands among the checks: `Check.foldl_eq_last` says this of any way of
gathering, and the lemmas after it of the bounds of texts and of numbers.
-/

import Mathlib.Data.List.Induction
import Specimen.Bounds

namespace Specimen

namespace Check

/-- The last of the checks that are about something. -/
def last? (concerns : Check → Bool) (checks : List Check) : Option Check :=
  checks.reverse.find? concerns

variable {concerns : Check → Bool}

theorem last?_append (checks : List Check) (check : Check) :
    last? concerns (checks ++ [check]) =
      if concerns check then some check else last? concerns checks := by
  rw [last?, List.reverse_append, List.reverse_singleton, List.singleton_append, List.find?_cons]
  cases concerns check <;> rfl

theorem last?_mem {checks : List Check} {check : Check} (found : last? concerns checks = some check) :
    check ∈ checks := List.mem_reverse.1 (List.mem_of_find?_eq_some found)

theorem last?_concerns {checks : List Check} {check : Check}
    (found : last? concerns checks = some check) : concerns check = true := List.find?_some found

theorem last?_eq_none {checks : List Check} (none : last? concerns checks = none) :
    ∀ check ∈ checks, concerns check = false := fun check mem =>
  eq_false_of_ne_true (List.find?_eq_none.1 none check (List.mem_reverse.2 mem))

/-- A part that is replaced by the checks about it and kept by the others is that of the last check
about it. -/
theorem foldl_eq_last {Bounds Part : Type} {declare : Bounds → Check → Bounds}
    {part : Bounds → Part} {read : Check → Part}
    (each : ∀ bounds check,
      part (declare bounds check) = if concerns check then read check else part bounds)
    (start : Bounds) (checks : List Check) :
    part (checks.foldl declare start) =
      ((last? concerns checks).map read).getD (part start) := by
  induction checks using List.reverseRecOn with
  | nil => rfl
  | append_singleton checks check hypothesis =>
    rw [List.foldl_append, List.foldl_cons, List.foldl_nil, each, last?_append]
    cases concerns check with
    | true => rfl
    | false => exact hypothesis

/-- The same of a bound, which is none at first. -/
theorem foldl_bound_eq_last {Bounds Bound : Type} {declare : Bounds → Check → Bounds}
    {bound : Bounds → Option Bound} {read : Check → Option Bound}
    (each : ∀ bounds check, bound (declare bounds check) =
      if concerns check then read check else bound bounds)
    {start : Bounds} (unbounded : bound start = none) (checks : List Check) :
    bound (checks.foldl declare start) = (last? concerns checks).bind read := by
  rw [foldl_eq_last each, unbounded]
  cases last? concerns checks <;> rfl

/-! ### Kinds of checks -/

/-- Does the check bound a length from below? -/
def boundsBelow (check : Check) : Bool := check.name == "min" || check.name == "length"

/-- Does the check bound a length from above? -/
def boundsAbove (check : Check) : Bool := check.name == "max" || check.name == "length"

end Check

/-! ### Texts -/

namespace TextBounds

theorem ofChecks_min (checks : List Check) : (ofChecks checks).min =
    (Check.last? Check.boundsBelow checks).bind fun check => check.argument.nonNull? :=
  Check.foldl_bound_eq_last (fun bounds check => by cases check <;> rfl) rfl checks

theorem ofChecks_max (checks : List Check) : (ofChecks checks).max =
    (Check.last? Check.boundsAbove checks).bind fun check => check.argument.nonNull? :=
  Check.foldl_bound_eq_last (fun bounds check => by cases check <;> rfl) rfl checks

theorem ofChecks_pattern (checks : List Check) : (ofChecks checks).pattern =
    (Check.last? (·.name == "regex") checks).bind fun check => check.argument.nonNull? :=
  Check.foldl_bound_eq_last (fun bounds check => by cases check <;> rfl) rfl checks

end TextBounds

/-! ### Numbers -/

namespace NumberBounds

theorem ofChecks_min (checks : List Check) : (ofChecks checks).min =
    (Check.last? (·.name == "min") checks).bind fun check => check.argument.nonNull? :=
  Check.foldl_bound_eq_last (fun bounds check => by cases check <;> rfl) rfl checks

theorem ofChecks_max (checks : List Check) : (ofChecks checks).max =
    (Check.last? (·.name == "max") checks).bind fun check => check.argument.nonNull? :=
  Check.foldl_bound_eq_last (fun bounds check => by cases check <;> rfl) rfl checks

theorem ofChecks_minInclusive (checks : List Check) : (ofChecks checks).minInclusive =
    ((Check.last? (·.name == "min") checks).map Check.isInclusive).getD true :=
  Check.foldl_eq_last (fun bounds check => by cases check <;> rfl) _ checks

theorem ofChecks_maxInclusive (checks : List Check) : (ofChecks checks).maxInclusive =
    ((Check.last? (·.name == "max") checks).map Check.isInclusive).getD true :=
  Check.foldl_eq_last (fun bounds check => by cases check <;> rfl) _ checks

end NumberBounds

end Specimen
