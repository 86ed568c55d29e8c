/-
**Sorts of samples.**

Some nodes want more of the samples of another than that its judge accepts them: keys have to be
hashable, and an option of a union whose numbers may be asked whether they are whole wants moderate
values of the options after it. Whether samples of a schema are of such a sort is seen from what its
nodes supply, since most properties of values pass from parts to the whole.
-/

import Specimen.Proofs.Answering
import Specimen.Proofs.Making

namespace Specimen

open Run (Yields Gives)

/-! ### Schemas of a sort -/

/-- Filling the node fills the child, in some context. -/
def Schema.Calls (schema child : Schema) : Prop :=
  ∃ context below, schema.Fills context child below

/-- The node makes values with a property if what it fills has the property. -/
structure Schema.Makes (environment : Environment) (property : Value → Prop) (schema : Schema) :
    Prop where
  supplies : schema.Supplies environment property
  gathers : schema.kind.isContainer = true → Value.Gathers fun _ => property

/-- All nodes that filling the schema fills make values with a property. -/
def Schema.MakesThroughout (environment : Environment) (property : Value → Prop) (schema : Schema) :
    Prop :=
  schema.Throughout environment.definitions Schema.Calls (·.Makes environment property)

/-- Samples have a property that all nodes make. -/
theorem generate_sort {environment : Environment} {property : Value → Prop}
    (graded : Value.IsGraded fun _ => property) {schema : Schema}
    (makes : schema.MakesThroughout environment property) {context : Context} {levels : Nat}
    (has : context.HasLevels levels) (choices : context.Supplies environment property) :
    Yields (generate environment schema context) property := by
  refine generate_graded graded (fun schema every => ?_) (fun schema every => ?_)
    (fun schema child context below every fills => ?_)
    (fun schema target context below every follows => ?_) levels schema context has makes choices
  · exact every.here.supplies
  · exact every.here.gathers
  · exact every.child ⟨context, below, fills⟩
  · exact every.definition ⟨follows.kind, follows.found⟩

/-- A node without children makes samples of a sort alone. -/
theorem Schema.MakesThroughout.leaf {environment : Environment} {property : Value → Prop}
    {schema : Schema} (makes : schema.Makes environment property) (childless : schema.children = [])
    (strict : schema.kind ≠ .lazy) : schema.MakesThroughout environment property := by
  refine .intro makes (fun child calls => ?_) fun target stands => absurd stands.kind strict
  obtain ⟨context, below, fills⟩ := calls
  have listed := fills.mem_children
  rw [childless] at listed
  cases listed

/-! ### Hashable samples -/

namespace Value

theorem areHashable_iff {items : List Value} :
    areHashable items = true ↔ ∀ item ∈ items, item.isHashable = true := by
  induction items with
  | nil => simp [areHashable]
  | cons first rest hypothesis => simp [areHashable, hypothesis]

theorem isHashable_isGraded : IsGraded fun _ value => value.isHashable = true where
  mono _ hashable := hashable
  plain := by
    intro _ value plain
    cases value with
    | list _ | tuple _ | set _ | dictionary _ => cases plain
    | _ => rfl
  promise _ _ := rfl
  tuple hashable := areHashable_iff.2 hashable
  merge := by
    intro _ left right first second
    unfold Make.merge
    split
    · cases first
    · split
      · exact first
      · exact second

/-! ### Samples without frozen sets -/

theorem areThawed_iff {items : List Value} :
    areThawed items = true ↔ ∀ item ∈ items, item.isThawed = true := by
  induction items with
  | nil => simp [areThawed]
  | cons first rest hypothesis => simp [areThawed, hypothesis]

theorem isThawed_isGraded : IsGraded fun _ value => value.isThawed = true where
  mono _ thawed := thawed
  plain := by
    intro _ value plain
    cases value with
    | list _ | tuple _ | set _ | dictionary _ => cases plain
    | _ => rfl
  promise _ _ := rfl
  tuple thawed := areThawed_iff.2 thawed
  merge := by
    intro _ left right first second
    unfold Make.merge
    split
    · rfl
    · split
      · exact first
      · exact second

/-- Sets that are drawn are not frozen. -/
theorem isThawed_gathers : Gathers fun _ value => value.isThawed = true where
  noItems := rfl
  noMembers := rfl
  noEntries := rfl
  list _ := rfl
  set _ := rfl
  dictionary _ := rfl

/-! ### Moderate samples -/

theorem isModerate_merge {left right : Value} (first : left.IsModerate) (second : right.IsModerate) :
    (Make.merge left right).IsModerate := by
  unfold Make.merge
  split
  · exact .of_dictionary (forall_putAll IsModerate IsModerate first.entries second.entries)
  · split
    · exact first
    · exact second

theorem isModerate_isGraded : IsGraded fun _ value => value.IsModerate where
  mono _ moderate := moderate
  plain := IsModerate.of_isPlain
  promise _ _ := .intro nofun (List.forall_mem_nil _)
  tuple moderate := .intro nofun moderate
  merge := isModerate_merge

end Value

theorem Make.number_isThawed (checks : List Check) (context : Context) :
    Yields (number checks context) (·.isThawed = true) := by
  refine Yields.last fun interval => ?_
  simp only
  split
  · exact Yields.last fun _ => Yields.pure rfl
  · exact Yields.last fun _ => Yields.pure rfl

/-- A node makes no frozen set if it is given none. -/
theorem Schema.makes_isThawed {environment : Environment} {schema : Schema}
    (literal : schema.kind = .literal → schema.traits.literal.isThawed = true)
    (values : schema.kind = .enumeration ∨ schema.kind = .nativeEnumeration →
      ∀ value ∈ schema.traits.values, value.isThawed = true)
    (fallback : schema.kind = .default → ∀ fallback, schema.traits.fallback = some fallback →
      Yields (environment.fallbackValue fallback) (·.isThawed = true))
    (effect : schema.kind = .effects → ∀ hook, schema.traits.effect = some hook → ∀ value,
      Yields (environment.invokeValue hook (.onValue value)) (·.isThawed = true)) :
    schema.Makes environment (·.isThawed = true) where
  supplies.number _ := Make.number_isThawed _
  supplies.literal := literal
  supplies.values := values
  supplies.fallback := fallback
  supplies.effect := effect
  gathers _ := Value.isThawed_gathers

/-- A schema whose nodes make no frozen sets has samples that are apart. -/
theorem Schema.MakesThroughout.apart {environment : Environment} {schema : Schema}
    (makes : schema.MakesThroughout environment (·.isThawed = true)) {context : Context}
    {levels : Nat} (has : context.HasLevels levels)
    (choices : context.Supplies environment (·.isThawed = true)) :
    Value.Apart (generate environment schema context).MayGive := by
  refine Value.apart_isThawed.mono fun value given => ?_
  obtain ⟨session, after, made⟩ := given
  exact generate_sort Value.isThawed_isGraded makes has choices session value after made

/-- The magnitude that moderate bounds stay below. -/
def moderateBound : Nat := 2 ^ moderatePlaces

theorem moderateBound_lt {magnitude : Nat} (small : magnitude ≤ moderateBound + 9999) :
    magnitude < moderateLimit := by
  have room : ∀ places, 14 ≤ places → 9999 < 2 ^ places := fun places enough =>
    Nat.lt_of_lt_of_le (by decide : 9999 < 2 ^ 14) (Nat.pow_le_pow_right (by decide) enough)
  have large : 9999 < moderateBound := room moderatePlaces (by decide)
  have double : moderateLimit = moderateBound + moderateBound := by
    rw [moderateLimit, Nat.pow_succ, Nat.mul_two, moderateBound]
  omega

end Specimen
