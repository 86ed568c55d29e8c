/-
**Samples nest within the levels that are left.**

If nothing that the caller supplies as a whole value is a container, then dictionaries, lists and
sets with something in them nest no deeper in a sample than there are levels left in its context.
Each of them is made one level deeper than the node it is made for; merging two samples and putting
what follows the items of a tuple behind them adds no level.
-/

import Specimen.Proofs.Making

namespace Specimen

open Run (Yields)

/-! ### Values from outside -/

/-- The property holds of a schema and of everything in it. -/
inductive Schema.Everywhere (property : Schema → Prop) : Schema → Prop
  | intro {schema : Schema} (here : property schema)
      (inside : ∀ child ∈ schema.children, Everywhere property child) : Everywhere property schema

theorem Schema.Everywhere.here {property : Schema → Prop} {schema : Schema}
    (every : schema.Everywhere property) : property schema := by
  obtain ⟨here, _⟩ := every
  exact here

theorem Schema.Everywhere.inside {property : Schema → Prop} {schema : Schema}
    (every : schema.Everywhere property) : ∀ child ∈ schema.children, child.Everywhere property := by
  obtain ⟨_, inside⟩ := every
  exact inside

/-- Every value that the run gives is no container with something in it, and has none inside. -/
def Run.IsFlat (make : Run Value) : Prop := Yields make fun value => value.nesting = 0

/-- The whole values that the node supplies are no containers, and the node transforms nothing. -/
structure Schema.SuppliesNoContainers (environment : Environment) (schema : Schema) : Prop where
  literal : schema.kind = .literal → schema.traits.literal.nesting = 0
  values : schema.kind = .enumeration ∨ schema.kind = .nativeEnumeration →
    ∀ value ∈ schema.traits.values, value.nesting = 0
  fallback : schema.kind = .default → ∀ fallback, schema.traits.fallback = some fallback →
    (environment.fallbackValue fallback).IsFlat
  effect : schema.kind = .effects → schema.traits.effect = none

/-- The caller fills no nodes of a tag, and no text fields with containers. -/
structure Context.SuppliesNoContainers (environment : Environment) (context : Context) : Prop where
  overrides : context.overrides = []
  stringMap : ∀ entry ∈ context.stringMap, (environment.invokeValue entry.2 .bare).IsFlat

/-! ### Leaves -/

theorem Make.number_flat (checks : List Check) (context : Context) :
    (number checks context).IsFlat := by
  refine Yields.last fun bounds => ?_
  simp only
  split
  · exact Yields.last fun _ => Yields.pure rfl
  · exact Yields.last fun _ => Yields.pure rfl

/-! ### Nesting within levels -/

namespace Value

theorem nesting_merge_le {left right : Value} {levels : Nat} (first : left.nesting ≤ levels)
    (second : right.nesting ≤ levels) : (Make.merge left right).nesting ≤ levels := by
  unfold Make.merge
  split
  · exact Value.nesting_putAll_le first second
  · split
    · exact first
    · exact second

theorem nesting_isGraded : IsGraded fun levels value => value.nesting ≤ levels where
  mono less within := Nat.le_trans within less
  plain isPlain := by
    rw [nesting_of_isPlain isPlain]
    exact Nat.zero_le _
  promise _ within := within
  tuple within := nesting_tuple_le.2 within
  merge := nesting_merge_le

theorem nesting_gathers : Gathers fun levels value => value.nesting ≤ levels where
  noItems := Nat.le_refl 0
  noMembers := Nat.le_refl 0
  noEntries := Nat.le_refl 0
  list within := nesting_list_le.2 fun item mem => Nat.lt_succ_of_le (within item mem)
  set within := nesting_set_le.2 fun member mem => Nat.lt_succ_of_le (within member mem)
  dictionary within := nesting_dictionary_le.2 fun entry mem =>
    ⟨Nat.lt_succ_of_le (within entry mem).1, Nat.lt_succ_of_le (within entry mem).2⟩

end Value

theorem Run.IsFlat.within {make : Run Value} (flat : make.IsFlat) :
    Yields make fun value => value.nesting ≤ 0 :=
  flat.mono fun _ => Nat.le_of_eq

theorem Schema.SuppliesNoContainers.supplies {environment : Environment} {schema : Schema}
    (plain : schema.SuppliesNoContainers environment) :
    schema.Supplies environment fun value => value.nesting ≤ 0 where
  number _ context := (Make.number_flat schema.checks context).within
  literal kind := Nat.le_of_eq (plain.literal kind)
  values kind value mem := Nat.le_of_eq (plain.values kind value mem)
  fallback kind fallback found := (plain.fallback kind fallback found).within
  effect kind hook found := by
    rw [plain.effect kind] at found
    cases found

theorem Context.SuppliesNoContainers.supplies {environment : Environment} {context : Context}
    (plain : context.SuppliesNoContainers environment) :
    context.Supplies environment fun value => value.nesting ≤ 0 where
  overrides := plain.overrides
  stringMap entry mem := (plain.stringMap entry mem).within

/-! ### Generation -/

/-- Containers nest within the levels that are left. -/
theorem generate_nesting {environment : Environment}
    (definitions : ∀ name definition, (name, .ok definition) ∈ environment.definitions →
      definition.Everywhere (·.SuppliesNoContainers environment)) {levels : Nat} {schema : Schema}
    {context : Context} (has : context.HasLevels levels)
    (plain : schema.Everywhere (·.SuppliesNoContainers environment))
    (choices : context.SuppliesNoContainers environment) :
    Yields (generate environment schema context) fun value => value.nesting ≤ levels := by
  refine generate_graded Value.nesting_isGraded (fun schema everywhere => ?_)
    (fun _ _ _ => Value.nesting_gathers) (fun schema child context below everywhere fills => ?_)
    (fun schema target context below everywhere follows => ?_) levels schema context has plain
    choices.supplies
  · obtain ⟨here, inside⟩ := everywhere
    exact here.supplies
  · obtain ⟨here, inside⟩ := everywhere
    exact inside child fills.mem_children
  · obtain ⟨name, listed⟩ := Schema.resolve_mem follows.found
    exact definitions name target listed

/-- **Depth bounds generation.** In a context whose depths are integers, generation is what its own
recursion says, and no definition more lazy nodes away than there are levels left is asked for,
whatever `beyond` stands for those. No chain of nested calls looks up more lazy nodes than there are
levels left, and containers nest no deeper in a sample. -/
theorem generate_depth_bound (environment : Environment) (schema : Schema) (context : Context)
    (current most : Int) (isCurrent : context.currentDepth.toInt? = some current)
    (isMost : context.maxDepth.toInt? = some most)
    (plain : schema.Everywhere (·.SuppliesNoContainers environment))
    (definitions : ∀ name definition, (name, .ok definition) ∈ environment.definitions →
      definition.Everywhere (·.SuppliesNoContainers environment))
    (choices : context.SuppliesNoContainers environment) :
    generate environment schema context =
        Make.ofNode environment (generate environment) schema
          (schema.parts (generate environment)) context ∧
      (∀ beyond passes, (most - current).toNat ≤ passes →
        generateBeyond environment beyond passes schema context =
          generate environment schema context) ∧
      (∀ passed last reached, schema.Leads environment.definitions context passed last reached →
        passed ≤ (most - current).toNat ∧
          ∀ below, reached.deeper = .ok (some below) → passed < (most - current).toNat) ∧
      Yields (generate environment schema context)
        fun value => value.nesting ≤ (most - current).toNat := by
  have has : context.HasLevels (most - current).toNat := ⟨current, most, isCurrent, isMost, rfl⟩
  refine ⟨generate_eq has schema, fun beyond passes enough => generateBeyond_eq has enough beyond
    schema, fun passed last reached leads => ?_, ?_⟩
  · obtain ⟨left, hasLeft, within⟩ := leads.levels_left has
    refine ⟨by omega, fun below deeper => ?_⟩
    obtain ⟨fewer, rfl, _⟩ := hasLeft.of_deeper deeper
    omega
  · exact generate_nesting definitions has plain choices

/-- A list of lists without end is cut off at the greatest depth. -/
theorem endlessLists_depth_bound :
    Yields (generate (.ofStock [("lists", .ok (.array (.lazy "lists")))] []) (.lazy "lists") {})
      fun value => value.nesting ≤ 10 := by
  have named : (Schema.lazy "lists").Everywhere (·.SuppliesNoContainers
      (.ofStock [("lists", .ok (.array (.lazy "lists")))] [])) :=
    .intro ⟨nofun, nofun, nofun, nofun⟩ (List.forall_mem_nil _)
  refine (generate_depth_bound (.ofStock _ _) (.lazy "lists") {} 0 10 rfl rfl named ?_
    ⟨rfl, List.forall_mem_nil _⟩).2.2.2
  intro name definition mem
  cases List.mem_singleton.1 mem
  exact .intro ⟨nofun, nofun, nofun, nofun⟩ (List.forall_mem_singleton.2 named)

end Specimen
