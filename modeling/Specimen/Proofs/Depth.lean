/-
**Depth bounds generation.**

Schemas may go round in circles through lazy nodes, and tuples, unions and wrappers fill their
children without going deeper. Generation ends all the same: a definition more lazy nodes away than
there are levels left is never asked for, so that any making at all may stand for it
(`generateBeyond_eq`), and generation is what its own recursion says (`generate_eq`).
-/

import Specimen.Proofs.Agreement
import Specimen.Proofs.Levels

namespace Specimen

/-! ### Definitions out of reach -/

/-- Makes a sample, passing no more than a number of lazy nodes on any way into it; what a lazy node
further away stands for is left to `beyond`. -/
def generateBeyond (environment : Environment) (beyond : Schema → Make) : Nat → Schema → Make
  | 0 => Schema.fold (Make.ofNode environment beyond)
  | passes + 1 => Schema.fold (Make.ofNode environment (generateBeyond environment beyond passes))

theorem generateBeyond_beyondReach (environment : Environment) (passes : Nat) :
    generateBeyond environment beyondReach passes = generateWithin environment passes := by
  induction passes with
  | zero => rfl
  | succ passes hypothesis => rw [generateBeyond, generateWithin, hypothesis]

/-- Equality of runs in contexts with no more than a number of levels left. -/
def Correspondence.upTo (environment : Environment) (levels : Nat) :
    Correspondence environment environment :=
  .equality environment (fun _ context => ∃ left ≤ levels, context.HasLevels left)
    (fun ⟨_, within, has⟩ fills =>
      let ⟨fewer, less, hasFewer⟩ := has.fills fills
      ⟨fewer, Nat.le_trans less within, hasFewer⟩)
    (fun ⟨_, within, has⟩ follows =>
      let ⟨fewer, less, hasFewer⟩ := has.of_deeper follows.deeper
      ⟨fewer, by omega, hasFewer⟩)

/-- In a context with no more levels left than lazy nodes may be passed, it matters neither how many
may be passed nor what stands for a definition further away. -/
theorem generateBeyond_congr {environment : Environment} {beyond other : Schema → Make}
    (levels : Nat) {passes more : Nat} (enough : levels ≤ passes) (enoughMore : levels ≤ more)
    (schema : Schema) (context : Context) (suits : ∃ left ≤ levels, context.HasLevels left) :
    generateBeyond environment beyond passes schema context =
      generateBeyond environment other more schema context := by
  induction levels generalizing passes more schema context with
  | zero =>
    have unreached : ∀ schema context target below, (Correspondence.upTo environment 0).suits schema
        context → schema.Follows environment.definitions context target below → False := by
      rintro schema context target below ⟨left, within, has⟩ follows
      obtain ⟨fewer, rfl, _⟩ := has.of_deeper follows.deeper
      omega
    cases passes <;> cases more <;>
    exact ((Correspondence.upTo environment 0).fold (fun _ _ => False.elim) unreached schema context
      suits).eq
  | succ levels hypothesis =>
    obtain ⟨passes, rfl⟩ := Nat.exists_eq_add_of_le' enough
    obtain ⟨more, rfl⟩ := Nat.exists_eq_add_of_le' enoughMore
    have definition : ∀ schema context, (∃ left ≤ levels, context.HasLevels left) →
        (Correspondence.upTo environment (levels + 1)).same
          (generateBeyond environment beyond (passes + levels) schema context)
          (generateBeyond environment other (more + levels) schema context) := by
      intro schema context reached
      rw [hypothesis (Nat.le_add_left ..) (Nat.le_add_left ..) schema context reached]
      exact Run.Agree.refl _
    have follows : ∀ schema context target below,
        (Correspondence.upTo environment (levels + 1)).suits schema context →
        schema.Follows environment.definitions context target below →
        ∃ left ≤ levels, below.HasLevels left := by
      rintro schema context target below ⟨left, within, has⟩ follows
      obtain ⟨fewer, rfl, hasFewer⟩ := has.of_deeper follows.deeper
      exact ⟨fewer, by omega, hasFewer⟩
    exact ((Correspondence.upTo environment (levels + 1)).fold definition follows schema context
      suits).eq

/-- Generation does not ask for a definition more lazy nodes away than there are levels left. -/
theorem generateBeyond_eq {environment : Environment} {context : Context} {levels passes : Nat}
    (has : context.HasLevels levels) (enough : levels ≤ passes) (beyond : Schema → Make)
    (schema : Schema) :
    generateBeyond environment beyond passes schema context =
      generate environment schema context := by
  unfold generate
  rw [has.remaining, ← generateBeyond_beyondReach]
  exact generateBeyond_congr levels enough (Nat.le_refl _) schema context ⟨levels, Nat.le_refl _, has⟩

/-- Generation is what its own recursion says: a node is filled by its rule, given generation itself
for its children and for what a lazy node stands for. -/
theorem generate_eq {environment : Environment} {context : Context} {levels : Nat}
    (has : context.HasLevels levels) (schema : Schema) :
    generate environment schema context =
      Make.ofNode environment (generate environment) schema
        (schema.parts (generate environment)) context := by
  let link := Correspondence.upTo environment levels
  have suits : link.suits schema context := ⟨levels, Nat.le_refl _, has⟩
  have unbounded : ∀ schema context, link.suits schema context →
      generateBeyond environment beyondReach levels schema context =
        generate environment schema context := by
    rintro schema context ⟨left, within, hasLeft⟩
    exact generateBeyond_eq hasLeft within beyondReach schema
  have children : ∀ child below, schema.Fills context child below →
      link.same (generateBeyond environment beyondReach (levels + 1) child below)
        (generate environment child below) := by
    intro child below fills
    obtain ⟨left, within, hasLeft⟩ := link.fills suits fills
    rw [generateBeyond_eq hasLeft (by omega) beyondReach child]
    exact Run.Agree.refl _
  have lowered : ∀ target below, schema.Follows environment.definitions context target below →
      link.same (generateBeyond environment beyondReach levels target below)
        (generate environment target below) := by
    intro target below follows
    rw [unbounded target below (link.follows suits follows)]
    exact Run.Agree.refl _
  rw [← generateBeyond_eq has (Nat.le_succ levels) beyondReach schema, generateBeyond,
    Schema.fold_eq]
  exact (link.ofNode children suits lowered).eq

end Specimen
