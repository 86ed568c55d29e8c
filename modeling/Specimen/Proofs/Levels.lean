/-
**Levels that are left.**

A context whose depths are integers has a number of levels left. Going one level deeper takes one
away, and where none is left there is no deeper context; so whatever is filled on the way from a
node has no more levels left, and a definition has fewer than the lazy node that names it. The calls
of nodes therefore come to an end, which is the induction `Schema.byCalls`.
-/

import Specimen.Proofs.Calls
import Specimen.Proofs.Order

namespace Specimen

namespace Context

/-- The depths of the context are integers that leave so many levels. -/
def HasLevels (context : Context) (levels : Nat) : Prop :=
  ∃ current most : Int, context.currentDepth.toInt? = some current ∧
    context.maxDepth.toInt? = some most ∧ (most - current).toNat = levels

variable {context below : Context} {levels : Nat}

namespace HasLevels

theorem remaining (has : context.HasLevels levels) : context.remaining = levels := by
  obtain ⟨current, most, isCurrent, isMost, rfl⟩ := has
  have difference : (most : Rat) - current = ((most - current : Int) : Rat) := by
    rw [Rat.intCast_sub]
  rw [Context.remaining, Value.toExtended_of_toInt isCurrent, Value.toExtended_of_toInt isMost]
  simp only [difference, Rat.ceil_intCast]

theorem exhausted (has : context.HasLevels levels) :
    context.exhausted = .ok (decide (levels = 0)) := by
  obtain ⟨current, most, isCurrent, isMost, rfl⟩ := has
  have none : most ≤ current ↔ (most - current).toNat = 0 := by omega
  rw [Context.exhausted, Value.greaterEqual_of_toInt isCurrent isMost]
  simp only [none]

/-- Without levels left there is no deeper context. -/
theorem deeper_zero (has : context.HasLevels 0) : context.deeper = .ok none := by
  rw [Context.deeper, has.exhausted]
  rfl

/-- With levels left there is a deeper context, with one level less. -/
theorem deeper_succ (has : context.HasLevels (levels + 1)) :
    ∃ below, context.deeper = .ok (some below) ∧ below.HasLevels levels := by
  have left := has.exhausted
  obtain ⟨current, most, isCurrent, isMost, count⟩ := has
  refine ⟨{ context with currentDepth := .int (current + 1) }, ?_, current + 1, most, rfl, isMost, ?_⟩
  · rw [Context.deeper, left, descend, Value.increment_of_toInt isCurrent]
    rfl
  · omega

theorem of_deeper (has : context.HasLevels levels) (deeper : context.deeper = .ok (some below)) :
    ∃ fewer, levels = fewer + 1 ∧ below.HasLevels fewer := by
  cases levels with
  | zero =>
    rw [has.deeper_zero] at deeper
    cases deeper
  | succ fewer =>
    obtain ⟨other, found, hasFewer⟩ := has.deeper_succ
    rw [deeper] at found
    cases found
    exact ⟨fewer, rfl, hasFewer⟩

theorem forKey (has : context.HasLevels levels) (name : Value) :
    (context.forKey name).HasLevels levels := has

/-- What a node fills has no more levels left. -/
theorem fills {schema child : Schema} (has : context.HasLevels levels)
    (fills : schema.Fills context child below) : ∃ fewer ≤ levels, below.HasLevels fewer := by
  cases fills with
  | field kind deeper mem =>
    obtain ⟨fewer, rfl, hasFewer⟩ := has.of_deeper deeper
    exact ⟨fewer, Nat.le_succ fewer, hasFewer.forKey _⟩
  | element kind deeper found | key kind deeper found | value kind deeper found
  | rest kind deeper found =>
    obtain ⟨fewer, rfl, hasFewer⟩ := has.of_deeper deeper
    exact ⟨fewer, Nat.le_succ fewer, hasFewer⟩
  | item kind mem | wrapped kind found => exact ⟨levels, Nat.le_refl levels, has⟩

end HasLevels

end Context

/-! ### Chains of calls -/

/-- Filling a node leads, call by call, to filling another one after so many lazy nodes have been
replaced by what they stand for. -/
inductive Schema.Leads (definitions : Definitions) (schema : Schema) (context : Context) :
    Nat → Schema → Context → Prop
  | start : Leads definitions schema context 0 schema context
  | fill {passed : Nat} {last child : Schema} {reached below : Context}
      (leads : Leads definitions schema context passed last reached)
      (fills : last.Fills reached child below) :
      Leads definitions schema context passed child below
  | follow {passed : Nat} {last target : Schema} {reached below : Context}
      (leads : Leads definitions schema context passed last reached)
      (follows : last.Follows definitions reached target below) :
      Leads definitions schema context (passed + 1) target below

/-- Every lazy node that is passed uses up a level. -/
theorem Schema.Leads.levels_left {definitions : Definitions} {schema last : Schema}
    {context reached : Context} {levels passed : Nat} (has : context.HasLevels levels)
    (leads : schema.Leads definitions context passed last reached) :
    ∃ left, reached.HasLevels left ∧ passed + left ≤ levels := by
  induction leads with
  | start => exact ⟨levels, has, by omega⟩
  | fill leads fills hypothesis =>
    obtain ⟨left, hasLeft, within⟩ := hypothesis
    obtain ⟨fewer, less, hasFewer⟩ := hasLeft.fills fills
    exact ⟨fewer, hasFewer, by omega⟩
  | follow leads follows hypothesis =>
    obtain ⟨left, hasLeft, within⟩ := hypothesis
    obtain ⟨fewer, rfl, hasFewer⟩ := hasLeft.of_deeper follows.deeper
    exact ⟨fewer, hasFewer, by omega⟩

/-- A property holds of every schema in every context with levels left if it holds of a node
whenever it holds of what the node fills and of what it stands for. -/
theorem Schema.byCalls {definitions : Definitions} {Property : Schema → Context → Prop}
    (step : ∀ schema context levels, context.HasLevels levels →
      (∀ child below, schema.Fills context child below → Property child below) →
      (∀ target below, schema.Follows definitions context target below → Property target below) →
      Property schema context) :
    ∀ levels schema context, context.HasLevels levels → Property schema context := by
  intro levels
  induction levels using Nat.strongRecOn with
  | ind levels shallower =>
    intro schema
    induction schema using Schema.byParts with
    | step schema hypothesis =>
      intro context has
      refine step schema context levels has (fun child below fills => ?_) fun target below follows => ?_
      · obtain ⟨fewer, within, hasFewer⟩ := has.fills fills
        rcases Nat.lt_or_eq_of_le within with less | rfl
        · exact shallower fewer less child below hasFewer
        · exact hypothesis child fills.mem_children below hasFewer
      · obtain ⟨fewer, rfl, hasFewer⟩ := has.of_deeper follows.deeper
        exact shallower fewer (Nat.lt_succ_self fewer) target below hasFewer

end Specimen
