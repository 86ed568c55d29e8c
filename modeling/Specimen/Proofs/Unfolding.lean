/-
**Validation is what its own recursion says.**

`validate` lets a walk pass as many lazy nodes as it computes from value and definitions. How many
does not matter: what is found by passing any number of them is what `validate` finds
(`validateWithin_approximates`). Parts of a value are less deep, so it is enough to look at the
definitions that are passed while the value stays the same. A further pass that changes something
there settles one more definition, and there are only so many (`Schema.exists_closed`).

Hence validation is what its own recursion says, for all definitions and values (`validate_eq`).
-/

import Mathlib.Data.Fintype.Pigeonhole
import Specimen.Proofs.Calls
import Specimen.Proofs.Judging

namespace Specimen

open Judge (Approximates)

variable {definitions : Schema.Definitions}

/-! ### Counting definitions -/

/-- Of what more and more passes settle, some number of passes settles all the definitions that one
more pass does, and there are no fewer definitions than that number. -/
theorem Schema.exists_closed (definitions : Definitions) {ends : Nat → Schema → Prop}
    (succ : ∀ passes target, ends passes target → ends (passes + 1) target) :
    ∃ passes ≤ definitions.length, ∀ name target, (name, .ok target) ∈ definitions →
      ends (passes + 1) target → ends passes target := by
  by_contra none
  push Not at none
  have mono : ∀ {passes more target}, passes ≤ more → ends passes target → ends more target := by
    intro passes more target enough ended
    induction enough with
    | refl => exact ended
    | step _ hypothesis => exact succ _ _ hypothesis
  -- Otherwise each number of passes settles a definition of its own, and there are not so many.
  have late : ∀ passes : Fin (definitions.length + 1), ∃ place : Fin definitions.length, ∃ target,
      definitions[place].2 = .ok target ∧ ends (passes + 1) target ∧ ¬ ends passes target := by
    intro passes
    obtain ⟨name, target, listed, ended, unended⟩ := none passes (Nat.le_of_lt_succ passes.isLt)
    obtain ⟨place, within, isPlace⟩ := List.getElem_of_mem listed
    exact ⟨⟨place, within⟩, target, congrArg Prod.snd isPlace, ended, unended⟩
  choose place target isTarget ended unended using late
  have crowded : Fintype.card (Fin definitions.length) <
      Fintype.card (Fin (definitions.length + 1)) := by
    rw [Fintype.card_fin, Fintype.card_fin]
    exact Nat.lt_succ_self _
  obtain ⟨first, second, different, same⟩ := Fintype.exists_ne_map_eq_of_card_lt place crowded
  have sameTarget : target first = target second := by
    have both := isTarget first
    rw [same, isTarget second] at both
    exact (Except.ok.inj both).symm
  rcases Nat.lt_or_gt_of_ne (Fin.val_ne_of_ne different) with less | less
  · exact unended second (sameTarget ▸ mono less (ended first))
  · exact unended first (sameTarget ▸ mono less (ended second))

/-! ### Passes -/

variable [Format.LocationRules]

/-- The issues of a value by a definition after passing a lazy node. -/
def judgeLower (definitions : Schema.Definitions) : Nat → Schema → Judge
  | 0 => fun _ _ _ => .error .endlessReference
  | passes + 1 => validateWithin definitions passes

theorem validateWithin_eq (passes : Nat) (schema : Schema) :
    validateWithin definitions passes schema =
      Judge.ofNode definitions (judgeLower definitions passes) schema
        (schema.parts (validateWithin definitions passes)) := by
  cases passes with
  | zero | succ => exact Schema.fold_eq _ schema

/-- More passes find what fewer passes find. -/
theorem validateWithin_mono (definitions : Schema.Definitions) {passes more : Nat}
    (fewer : passes ≤ more) (schema : Schema) (subject : Value) (path : Path) :
    Approximates (validateWithin definitions passes schema subject path)
      (validateWithin definitions more schema subject path) := by
  induction passes generalizing more schema subject path with
  | zero =>
    induction schema using Schema.byParts generalizing subject path with
    | step schema hypothesis =>
      rw [validateWithin_eq 0, validateWithin_eq more]
      refine Judge.ofNode_approximates (fun child mem => ?_) (fun child mem part place _ => ?_)
        fun target _ => .inl rfl
      · have judged := Schema.mem_judged_of_handed mem
        exact hypothesis child (Schema.mem_children_of_judged judged) subject path
      · exact hypothesis child (Schema.mem_children_of_judged mem) part place
  | succ passes deeper =>
    obtain ⟨more, rfl⟩ := Nat.exists_eq_add_of_le' (Nat.le_trans (Nat.le_add_left 1 passes) fewer)
    induction schema using Schema.byParts generalizing subject path with
    | step schema hypothesis =>
      rw [validateWithin_eq (passes + 1), validateWithin_eq (more + 1)]
      refine Judge.ofNode_approximates (fun child mem => ?_) (fun child mem part place _ => ?_)
        fun target _ => deeper (Nat.le_of_succ_le_succ fewer) target subject path
      · have judged := Schema.mem_judged_of_handed mem
        exact hypothesis child (Schema.mem_children_of_judged judged) subject path
      · exact hypothesis child (Schema.mem_children_of_judged mem) part place

/-! ### Enough passes -/

/-- Validation of the value comes to an end within so many passes. -/
def EndsWithin (definitions : Schema.Definitions) (subject : Value) (path : Path) (passes : Nat)
    (schema : Schema) : Prop :=
  validateWithin definitions passes schema subject path ≠ .error .endlessReference

section Closed

variable {subject : Value} {path : Path} {base passes : Nat}

theorem EndsWithin.succ {schema : Schema} (ends : EndsWithin definitions subject path passes schema) :
    EndsWithin definitions subject path (passes + 1) schema := by
  intro cut
  have kept := validateWithin_mono definitions (Nat.le_succ passes) schema subject path
  exact ends ((kept.eq ends).trans cut)

/-- If one pass more settles no further definition on the value, then no number of passes finds more
on it, where `base` passes are enough for its parts. -/
theorem validateWithin_of_closed
    (parts : ∀ more schema part place, subject.Offers part →
      Approximates (validateWithin definitions more schema part place)
        (validateWithin definitions base schema part place))
    (closed : ∀ name target, (name, .ok target) ∈ definitions →
      EndsWithin definitions subject path (base + (passes + 1)) target →
        EndsWithin definitions subject path (base + passes) target)
    (more : Nat) (schema : Schema) :
    Approximates (validateWithin definitions more schema subject path)
      (validateWithin definitions (base + (passes + 1)) schema subject path) := by
  induction more generalizing schema with
  | zero => exact validateWithin_mono definitions (Nat.zero_le _) schema subject path
  | succ more shallower =>
    rcases Nat.lt_or_ge (base + (passes + 1)) (more + 1) with beyond | within
    · induction schema using Schema.byParts with
      | step schema hypothesis =>
        rw [validateWithin_eq (more + 1), validateWithin_eq (base + (passes + 1))]
        refine Judge.ofNode_approximates (fun child mem => ?_) (fun child mem part place offers => ?_)
          fun target stands => ?_
        · have judged := Schema.mem_judged_of_handed mem
          exact hypothesis child (Schema.mem_children_of_judged judged)
        · exact (parts (more + 1) child part place offers).trans
            (validateWithin_mono definitions (Nat.le_add_right base _) child part place)
        · obtain ⟨name, listed⟩ := Schema.resolve_mem stands.found
          show Approximates (validateWithin definitions more target subject path)
            (validateWithin definitions (base + passes) target subject path)
          by_cases cut : validateWithin definitions more target subject path =
              .error .endlessReference
          · exact .inl cut
          · have settled := (shallower target).eq cut
            have earlier := closed name target listed (show _ ≠ _ from settled ▸ cut)
            have kept := validateWithin_mono definitions
              (Nat.add_le_add_left (Nat.le_succ passes) base) target subject path
            exact .inr (settled.trans (kept.eq earlier).symm)
    · exact validateWithin_mono definitions within schema subject path

/-- If so many passes are enough for the parts of a value, then one more for each definition and one
for the start are enough for the value. -/
theorem validateWithin_of_parts
    (parts : ∀ more schema part place, subject.Offers part →
      Approximates (validateWithin definitions more schema part place)
        (validateWithin definitions base schema part place)) (more : Nat) (schema : Schema) :
    Approximates (validateWithin definitions more schema subject path)
      (validateWithin definitions (base + (definitions.length + 1)) schema subject path) := by
  obtain ⟨passes, few, closed⟩ := Schema.exists_closed definitions fun passes target
    (ends : EndsWithin definitions subject path (base + passes) target) => ends.succ
  exact (validateWithin_of_closed parts closed more schema).trans
    (validateWithin_mono definitions (by omega) schema subject path)

end Closed

/-- So many passes for each level of a value are enough. -/
theorem validateWithin_of_depth {depth : Nat} {subject : Value} (shallow : subject.depth ≤ depth)
    (more : Nat) (schema : Schema) (path : Path) :
    Approximates (validateWithin definitions more schema subject path)
      (validateWithin definitions ((depth + 1) * (definitions.length + 1)) schema subject path) := by
  induction depth generalizing subject more schema path with
  | zero =>
    have parts : ∀ more schema part place, subject.Offers part →
        Approximates (validateWithin definitions more schema part place)
          (validateWithin definitions 0 schema part place) := by
      intro more schema part place offers
      have lower := offers.depth_lt
      omega
    rw [Nat.zero_add, Nat.one_mul, ← Nat.zero_add (definitions.length + 1)]
    exact validateWithin_of_parts parts more schema
  | succ depth hypothesis =>
    have parts : ∀ more schema part place, subject.Offers part →
        Approximates (validateWithin definitions more schema part place)
          (validateWithin definitions ((depth + 1) * (definitions.length + 1)) schema part
            place) := by
      intro more schema part place offers
      have lower := offers.depth_lt
      exact hypothesis (by omega) more schema place
    rw [Nat.succ_mul (depth + 1)]
    exact validateWithin_of_parts parts more schema

/-- What is found by passing any number of lazy nodes is what validation finds. -/
theorem validateWithin_approximates (passes : Nat) (schema : Schema) (subject : Value) (path : Path) :
    Approximates (validateWithin definitions passes schema subject path)
      (validate definitions schema subject path) := by
  have enough : (subject.depth + 1) * (definitions.length + 1) ≤ passLimit definitions subject :=
    Nat.mul_le_mul_right _ (by omega)
  exact (validateWithin_of_depth (Nat.le_refl _) passes schema path).trans
    (validateWithin_mono definitions enough schema subject path)

/-- **Validation is what its own recursion says**: what a node asks, given validation itself for its
children and for what a lazy node stands for. -/
theorem validate_eq (schema : Schema) :
    validate definitions schema =
      Judge.ofNode definitions (validate definitions) schema
        (schema.parts (validate definitions)) := by
  funext subject path
  refine Approximates.antisymm ?_ ?_
  · show Approximates (validateWithin definitions (passLimit definitions subject) schema subject path) _
    rw [validateWithin_eq]
    refine Judge.ofNode_approximates (fun child _ => ?_) (fun child _ part place _ => ?_)
      fun target _ => ?_
    · exact validateWithin_approximates _ child subject path
    · exact validateWithin_approximates _ child part place
    · cases passLimit definitions subject with
      | zero => exact .inl rfl
      | succ passes => exact validateWithin_approximates passes target subject path
  · have within : ∀ part : Value, part.depth ≤ subject.depth →
        passLimit definitions part ≤ passLimit definitions subject := fun part shallow =>
      Nat.mul_le_mul_right _ (Nat.add_le_add_right shallow 2)
    refine Approximates.trans ?_
      (validateWithin_approximates (passLimit definitions subject + 1) schema subject path)
    rw [validateWithin_eq]
    refine Judge.ofNode_approximates (fun child _ => ?_) (fun child _ part place offers => ?_)
      fun target _ => ?_
    · exact validateWithin_mono definitions (Nat.le_succ _) child subject path
    · have fewer := within part (Nat.le_of_lt offers.depth_lt)
      exact validateWithin_mono definitions (Nat.le_succ_of_le fewer) child part place
    · exact .refl _

end Specimen
