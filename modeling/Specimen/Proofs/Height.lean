/-
**Schemas of a height.**

The height of a schema is the greatest number of nodes that look at the depth on a way into it.
Where so many levels are left, no such node is cut off; so every child that a judge looks at is
filled, and what is shown of a node from its judged children holds of the whole schema
(`Schema.byHeight`).
-/

import Specimen.Proofs.Levels
import Specimen.Proofs.Ways

namespace Specimen

theorem Context.HasLevels.exists_deeper {context : Context} {levels : Nat}
    (has : context.HasLevels levels) (enough : 0 < levels) :
    ∃ below, context.deeper = .ok (some below) := by
  obtain ⟨fewer, rfl⟩ := Nat.exists_eq_succ_of_ne_zero (Nat.ne_of_gt enough)
  obtain ⟨below, found, _⟩ := has.deeper_succ
  exact ⟨below, found⟩

namespace Schema

/-! ### Heights -/

/-- The judged children that are filled in the context of the node. -/
def alongside (schema : Schema) : List Schema :=
  match schema.kind with
  | .tuple | .union | .discriminatedUnion | .intersection => schema.items
  | .optional | .nullable | .default | .branded => schema.inner.toList
  | _ => []

/-- The judged children that are filled one level deeper. -/
def nested (schema : Schema) : List Schema :=
  match schema.kind with
  | .object => (schema.fields.getD []).map (·.2)
  | .array | .set => schema.inner.toList
  | .map | .record => schema.key.toList ++ schema.value.toList
  | .tuple => schema.rest.toList
  | _ => []

/-- There are at most so many nodes that look at the depth on any way into the schema. -/
inductive HeightWithin (definitions : Definitions) : Nat → Schema → Prop
  | intro {levels : Nat} {schema : Schema} (here : schema.isControlled = true → 0 < levels)
      (alongside : ∀ child ∈ schema.alongside, HeightWithin definitions levels child)
      (nested : ∀ child ∈ schema.nested, HeightWithin definitions (levels - 1) child)
      (definition : ∀ target, schema.StandsFor definitions target →
        HeightWithin definitions (levels - 1) target) :
      HeightWithin definitions levels schema

variable {definitions : Definitions} {schema child : Schema}

theorem mem_judged : child ∈ schema.judged ↔ child ∈ schema.alongside ∨ child ∈ schema.nested := by
  unfold judged alongside nested
  cases schema.kind <;> simp

theorem HeightWithin.controlled {levels : Nat} (height : schema.HeightWithin definitions levels)
    (controlled : schema.isControlled = true) : 0 < levels := by
  obtain ⟨here, _, _, _⟩ := height
  exact here controlled

/-- A node without children has any height, if it does not look at the depth. -/
theorem HeightWithin.leaf (childless : schema.children = []) (loose : schema.isControlled = false)
    (levels : Nat) : schema.HeightWithin definitions levels := by
  have none : ∀ child, child ∉ schema.judged := fun child mem => by
    have listed := mem_children_of_judged mem
    rw [childless] at listed
    cases listed
  refine .intro (fun controlled => ?_) (fun child mem => absurd (mem_judged.2 (.inl mem)) (none child))
    (fun child mem => absurd (mem_judged.2 (.inr mem)) (none child)) fun target stands => ?_
  · rw [loose] at controlled
    cases controlled
  · rw [isControlled, stands.kind] at loose
    cases loose

/-- What judges come to in a schema of a height is of a height as well, and hence grounded. -/
theorem HeightWithin.grounded {levels : Nat} (height : schema.HeightWithin definitions levels) :
    schema.Throughout definitions Judges (·.IsGrounded definitions) := by
  induction height with
  | @intro levels schema _ _ _ _ along deep target =>
    have children : ∀ child ∈ schema.judged,
        child.Throughout definitions Judges (·.IsGrounded definitions) := fun child mem =>
      (mem_judged.1 mem).elim (along child) (deep child)
    refine .intro (.intro fun other hands => ?_) children target
    cases hands with
    | child mem => exact (children other (mem_judged_of_handed mem)).here
    | definition stands => exact (target other stands).here

/-- The children alongside a node are filled in its own context. -/
theorem fills_of_alongside (context : Context) (mem : child ∈ schema.alongside) :
    schema.Fills context child context := by
  unfold alongside at mem
  cases kind : schema.kind <;> rw [kind] at mem
  case tuple | union | discriminatedUnion | intersection =>
    exact .item (by rw [kind]; rfl) mem
  case optional | nullable | default | branded =>
    exact .wrapped (by rw [kind]; rfl) (Option.mem_toList.1 mem)
  all_goals cases mem

/-! ### Levels enough -/

variable {context below : Context} {levels : Nat}

/-- A judged child is filled in the same context, or with one level less. -/
theorem Fills.alongside_or_nested (fills : schema.Fills context child below)
    (judged : child ∈ schema.judged) (has : context.HasLevels levels) :
    child ∈ schema.alongside ∧ below.HasLevels levels ∨
      child ∈ schema.nested ∧ ∃ fewer, levels = fewer + 1 ∧ below.HasLevels fewer := by
  unfold Schema.alongside Schema.nested
  cases fills with
  | field kind deeper mem =>
    rw [kind]
    obtain ⟨fewer, isSucc, hasFewer⟩ := has.of_deeper deeper
    exact .inr ⟨List.mem_map_of_mem mem, fewer, isSucc, hasFewer.forKey _⟩
  | element kind deeper found =>
    rcases kind with kind | kind <;> rw [kind] <;>
    exact .inr ⟨Option.mem_toList.2 found, has.of_deeper deeper⟩
  | key kind deeper found =>
    rcases kind with kind | kind <;> rw [kind] <;>
    exact .inr ⟨List.mem_append_left _ (Option.mem_toList.2 found), has.of_deeper deeper⟩
  | value kind deeper found =>
    rcases kind with kind | kind <;> rw [kind] <;>
    exact .inr ⟨List.mem_append_right _ (Option.mem_toList.2 found), has.of_deeper deeper⟩
  | rest kind deeper found =>
    rw [kind]
    exact .inr ⟨Option.mem_toList.2 found, has.of_deeper deeper⟩
  | item kind mem =>
    cases isKind : schema.kind <;> rw [isKind] at kind <;> first | exact .inl ⟨mem, has⟩ | cases kind
  | wrapped kind found =>
    unfold Schema.judged at judged
    cases isKind : schema.kind <;> rw [isKind] at kind judged <;>
    first | exact .inl ⟨judged, has⟩ | cases judged | cases kind

/-- A judged child is filled, if the node is not cut off. -/
theorem exists_fills (has : context.HasLevels levels)
    (enough : schema.isControlled = true → 0 < levels) (judged : child ∈ schema.judged) :
    ∃ below, schema.Fills context child below := by
  have deeper : schema.isControlled = true → ∃ below, context.deeper = .ok (some below) :=
    fun controlled => has.exists_deeper (enough controlled)
  unfold Schema.judged at judged
  unfold isControlled at deeper
  cases kind : schema.kind <;> rw [kind] at judged deeper
  case object =>
    obtain ⟨below, found⟩ := deeper rfl
    obtain ⟨field, mem, rfl⟩ := List.mem_map.1 judged
    exact ⟨_, .field kind found mem⟩
  case array =>
    obtain ⟨below, found⟩ := deeper rfl
    exact ⟨below, .element (.inl kind) found (Option.mem_toList.1 judged)⟩
  case set =>
    obtain ⟨below, found⟩ := deeper rfl
    exact ⟨below, .element (.inr kind) found (Option.mem_toList.1 judged)⟩
  case map =>
    obtain ⟨below, found⟩ := deeper rfl
    rcases List.mem_append.1 judged with mem | mem
    · exact ⟨below, .key (.inl kind) found (Option.mem_toList.1 mem)⟩
    · exact ⟨below, .value (.inl kind) found (Option.mem_toList.1 mem)⟩
  case record =>
    obtain ⟨below, found⟩ := deeper rfl
    rcases List.mem_append.1 judged with mem | mem
    · exact ⟨below, .key (.inr kind) found (Option.mem_toList.1 mem)⟩
    · exact ⟨below, .value (.inr kind) found (Option.mem_toList.1 mem)⟩
  case tuple =>
    rcases List.mem_append.1 judged with mem | mem
    · exact ⟨context, .item (by rw [kind]; rfl) mem⟩
    · have isRest := Option.mem_toList.1 mem
      obtain ⟨below, found⟩ := deeper (by rw [isRest]; rfl)
      exact ⟨below, .rest kind found isRest⟩
  case union | discriminatedUnion | intersection =>
    exact ⟨context, .item (by rw [kind]; rfl) judged⟩
  case optional | nullable | default | branded =>
    exact ⟨context, .wrapped (by rw [kind]; rfl) (Option.mem_toList.1 judged)⟩
  all_goals cases judged

/-- What a node stands for is filled, if the node is not cut off. -/
theorem StandsFor.exists_follows {target : Schema} (stands : schema.StandsFor definitions target)
    (has : context.HasLevels levels) (enough : schema.isControlled = true → 0 < levels) :
    ∃ below, schema.Follows definitions context target below := by
  obtain ⟨below, found⟩ := has.exists_deeper (enough (by rw [isControlled, stands.kind]))
  exact ⟨below, stands.kind, found, stands.found⟩

/-! ### Induction -/

/-- A property holds of every schema in every context with as many levels left as the schema is
high, if it holds of a node whenever it holds of the judged children that the node fills and of what
it stands for. -/
theorem byHeight {Property : Schema → Context → Prop}
    (step : ∀ schema context levels left, schema.HeightWithin definitions levels →
      context.HasLevels left → levels ≤ left →
      (∀ child below, schema.Fills context child below → child ∈ schema.judged →
        Property child below) →
      (∀ target below, schema.Follows definitions context target below → Property target below) →
      Property schema context)
    (height : schema.HeightWithin definitions levels) {left : Nat} (has : context.HasLevels left)
    (enough : levels ≤ left) : Property schema context := by
  induction height generalizing context left with
  | @intro levels schema here along deep target alongHolds nestedHolds targetHolds =>
    refine step schema context levels left ⟨here, along, deep, target⟩ has enough
      (fun child below fills judged => ?_) fun target below follows => ?_
    · rcases fills.alongside_or_nested judged has with ⟨mem, same⟩ | ⟨mem, fewer, rfl, hasFewer⟩
      · exact alongHolds child mem same enough
      · exact nestedHolds child mem hasFewer (by omega)
    · obtain ⟨fewer, rfl, hasFewer⟩ := has.of_deeper follows.deeper
      exact targetHolds target ⟨follows.kind, follows.found⟩ hasFewer (by omega)

end Schema

end Specimen
