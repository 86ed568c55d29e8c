/-
**Validation has something to say.**

A judge may fail instead of answering: a part of the schema is missing, a definition is not found,
or a number is too large to be told whole. Where nothing is missing, and either no number is asked
to be whole or the numbers in the value are moderate, validation answers (`validate_answers`). A
union needs this, which asks its options one after another until one of them accepts.
-/

import Specimen.Proofs.Judgements
import Specimen.Proofs.Nesting
import Specimen.Proofs.NumberRange
import Specimen.Proofs.Ways

namespace Specimen

/-! ### Moderate values -/

/-- The binary places of bounds of moderate magnitude. -/
def moderatePlaces : Nat := 1000

/-- Integers below this magnitude, which is twice that of moderate bounds, can be told whole. -/
def moderateLimit : Nat := 2 ^ (moderatePlaces + 1)

/-- The integers in a value, as far as judges look into it, are of moderate magnitude. -/
inductive Value.IsModerate : Value → Prop
  | intro {value : Value} (here : ∀ number, value = .int number → number.natAbs < moderateLimit)
      (parts : ∀ part ∈ value.contents, IsModerate part) : IsModerate value

/-- An integer below the limit is told whole. -/
theorem isWhole_of_moderate {number : Int} (small : number.natAbs < moderateLimit) :
    Judge.isWhole (.int number) = .ok true :=
  Judge.isWhole_of_small small (Nat.le_refl 1001)

namespace Value.IsModerate

theorem of_isPlain {value : Value} (plain : value.isPlain = true) : value.IsModerate := by
  refine .intro (fun number isInt => ?_) fun part mem => ?_
  · rw [isInt] at plain
    cases plain
  · cases value with
    | list _ | tuple _ | set _ | dictionary _ => cases plain
    | _ => cases mem

theorem of_dictionary {entries : List (Value × Value)}
    (each : ∀ entry ∈ entries, entry.1.IsModerate ∧ entry.2.IsModerate) :
    (Value.dictionary entries).IsModerate := by
  refine .intro nofun fun part mem => ?_
  obtain ⟨entry, listed, isPart⟩ := List.mem_flatMap.1 mem
  obtain ⟨first, second⟩ := each entry listed
  have both : ∀ part ∈ [entry.1, entry.2], part.IsModerate :=
    List.forall_mem_cons.2 ⟨first, List.forall_mem_singleton.2 second⟩
  exact both part isPart

theorem entries {entries : List (Value × Value)} (moderate : (Value.dictionary entries).IsModerate) :
    ∀ entry ∈ entries, entry.1.IsModerate ∧ entry.2.IsModerate := by
  obtain ⟨_, parts⟩ := moderate
  intro entry mem
  obtain ⟨first, second⟩ := Value.mem_contents_dictionary mem
  exact ⟨parts _ first, parts _ second⟩

theorem isWhole {value : Value} (moderate : value.IsModerate) {number : Int}
    (isInt : value = .int number) : ∃ answer, Judge.isWhole value = .ok answer := by
  obtain ⟨here, _⟩ := moderate
  rw [isInt]
  exact ⟨true, isWhole_of_moderate (here number isInt)⟩

/-- What a moderate value is taken apart to is moderate. -/
theorem asked {definitions : Schema.Definitions} {asking asked : Schema × Value}
    (moderate : asking.2.IsModerate) (leads : Schema.AsksLater definitions asking asked) :
    asked.2.IsModerate := by
  induction leads with
  | refl => exact moderate
  | tail _ asks hypothesis =>
    cases asks with
    | same _ => exact hypothesis
    | part _ offers =>
      obtain ⟨_, parts⟩ := hypothesis
      cases offers with
      | content mem => exact parts _ mem
      | lacking _ => exact .of_isPlain rfl

end Value.IsModerate

/-! ### What answers take -/

namespace Schema

/-- Judging by the node does not fail for want of a part or a definition. -/
structure IsComplete (definitions : Definitions) (schema : Schema) : Prop where
  inner : schema.kind ∈ [.array, .set, .optional, .nullable, .default, .branded] →
    schema.inner.isSome
  entries : schema.kind = .map ∨ schema.kind = .record → schema.key.isSome ∧ schema.value.isSome
  definition : schema.kind = .lazy → ∃ target, schema.resolve definitions = .ok target

variable [Format.LocationRules]

/-- The checks of the node can tell of the value whether they hold. -/
structure CopesWith (schema : Schema) (subject : Value) : Prop where
  formats : schema.kind = .string → ∀ text, subject = .text text → ∀ check ∈ schema.checks,
    ∃ message, Judge.formatMessage text check = .ok message
  whole : schema.kind = .number → .integer ∈ schema.checks → ∀ number : Int,
    subject = .int number → ∃ answer, Judge.isWhole subject = .ok answer

/-- The node does not ask for a number without a fraction. -/
def IsUnchecked (schema : Schema) : Prop := schema.kind = .number → .integer ∉ schema.checks

end Schema

namespace Judge

variable {definitions : Schema.Definitions} {lower judge : Schema → Judge} {schema : Schema}
variable {subject : Value}

theorem ofChild_answers {child : Option Schema} (present : child.isSome)
    (each : ∀ schema ∈ child.toList, (judge schema).Answers subject) :
    (ofChild (child.map judge)).Answers subject := by
  cases child with
  | none => cases present
  | some schema => exact each schema (List.mem_singleton_self _)

variable [Format.LocationRules]

/-- What the kind of a complete node asks is answered if the judges of its children answer, and that
of the definition that it stands for. -/
theorem ofKind_answers (complete : schema.IsComplete definitions)
    (copes : schema.CopesWith subject)
    (here : ∀ child ∈ schema.handed, (judge child).Answers subject)
    (parts : ∀ child ∈ schema.judged, ∀ part, subject.Offers part → (judge child).Answers part)
    (definition : ∀ target, schema.StandsFor definitions target → (lower target).Answers subject) :
    (ofKind definitions lower schema (schema.parts judge)).Answers subject := by
  have contents : ∀ child ∈ schema.judged, ∀ part ∈ subject.contents, (judge child).Answers part :=
    fun child listed part mem => parts child listed part (.content mem)
  unfold Judge.ofKind Schema.parts
  unfold Schema.handed at here
  unfold Schema.judged at parts contents
  cases kind : schema.kind <;> simp only [kind] at here parts contents ⊢
  case string => exact string_answers (copes.formats kind)
  case number => exact number_answers (copes.whole kind)
  case object =>
    refine object_answers fun field mem part offers => ?_
    obtain ⟨described, listed, rfl⟩ := List.mem_map.1 mem
    exact parts described.2 (List.mem_map_of_mem listed) part offers
  case array =>
    have inner := complete.inner (by rw [kind]; decide)
    exact array_answers fun part mem =>
      ofChild_answers inner fun child listed => contents child listed part mem
  case set =>
    have inner := complete.inner (by rw [kind]; decide)
    exact set_answers fun part mem =>
      ofChild_answers inner fun child listed => contents child listed part mem
  case map | record =>
    obtain ⟨key, value⟩ := complete.entries (by rw [kind]; decide)
    exact mapping_answers fun part mem =>
      ⟨ofChild_answers key fun child listed =>
          contents child (List.mem_append_left _ listed) part mem,
        ofChild_answers value fun child listed =>
          contents child (List.mem_append_right _ listed) part mem⟩
  case tuple =>
    refine tuple_answers ?_ fun rest found => ?_
    · exact List.forall_mem_map.2 fun child listed => contents child (List.mem_append_left _ listed)
    · obtain ⟨child, isRest, rfl⟩ := Option.map_eq_some_iff.1 found
      exact contents child (List.mem_append_right _ (Option.mem_toList.2 isRest))
  case union | discriminatedUnion => exact union_answers (List.forall_mem_map.2 here)
  case intersection => exact intersection_answers (List.forall_mem_map.2 here)
  case optional | default =>
    exact optional_answers (ofChild_answers (complete.inner (by rw [kind]; decide)) here)
  case nullable =>
    exact nullable_answers (ofChild_answers (complete.inner (by rw [kind]; decide)) here)
  case branded => exact ofChild_answers (complete.inner (by rw [kind]; decide)) here
  case lazy =>
    obtain ⟨target, found⟩ := complete.definition kind
    rw [found]
    exact definition target ⟨kind, found⟩
  case any | unknown | effects | other => exact fun path => ⟨[], rfl⟩
  case bigint | boolean | date | promise => exact fun path => by cases subject <;> exact ⟨_, rfl⟩
  case enumeration | nativeEnumeration | literal | function | void | undefined | null | nan =>
    exact ite_answers _ _ fun path => ⟨_, rfl⟩

/-- The judge of a complete node answers if those of its children do, and what it stands for. -/
theorem ofNode_answers (complete : schema.IsComplete definitions)
    (copes : schema.CopesWith subject)
    (here : ∀ child ∈ schema.handed, (judge child).Answers subject)
    (parts : ∀ child ∈ schema.judged, ∀ part, subject.Offers part → (judge child).Answers part)
    (definition : ∀ target, schema.StandsFor definitions target → (lower target).Answers subject) :
    (ofNode definitions lower schema (schema.parts judge)).Answers subject := by
  intro path
  unfold ofNode
  split
  · exact ⟨_, rfl⟩
  · exact ofKind_answers complete copes here parts definition path

end Judge

/-! ### Validation -/

variable [Format.LocationRules]

section Validation

variable {definitions : Schema.Definitions} {schema : Schema} {value : Value}

/-- A value that the kind accepts is accepted, unless it is absent without leave. -/
theorem validate_accepts (regarded : value ≠ .absent ∨ schema.kind.acceptsAbsent = true)
    (accepted : Judge.Accepts (Judge.ofKind definitions (validate definitions) schema
      (schema.parts (validate definitions))) value) :
    Judge.Accepts (validate definitions schema) value := by
  intro path
  have passes : ¬ (value.isAbsent && !schema.kind.acceptsAbsent) = true := by
    rcases regarded with present | lenient
    · cases value with
      | absent => exact absurd rfl present
      | _ => exact nofun
    · simp [lenient]
  rw [validate_eq]
  unfold Judge.ofNode
  rw [if_neg passes]
  exact accepted path

end Validation

/-- What it takes of a schema for its judge to answer about a value. -/
structure Schema.IsReadyFor (definitions : Schema.Definitions) (schema : Schema) (subject : Value) :
    Prop where
  complete : schema.IsComplete definitions
  grounded : schema.IsGrounded definitions
  copes : schema.CopesWith subject

/-- Validation answers if all schemas are ready for the values that they are asked about. -/
theorem validate_answers {definitions : Schema.Definitions} {schema : Schema} {subject : Value}
    (ready : ∀ other part, Schema.AsksLater definitions (schema, subject) (other, part) →
      other.IsReadyFor definitions part) :
    Judge.Answers (validate definitions schema) subject := by
  refine @Schema.byValue definitions (fun schema => Judge.Answers (validate definitions schema))
    schema subject (fun other part leads => (ready other part leads).grounded)
    fun schema subject leads next => ?_
  have here := ready schema subject leads
  rw [validate_eq]
  exact Judge.ofNode_answers here.complete here.copes
    (fun child mem => next child subject (.same (.child mem)))
    (fun child mem part offers => next child part (.part mem offers))
    fun target stands => next target subject (.same (.definition stands))

end Specimen
