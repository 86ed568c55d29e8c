/-
**Schemas whose samples are valid.**

Not every schema has valid samples: checks may contradict each other, or ask for what is not looked
at when a node is filled. `Schema.IsSoundAt` says of a single node, kind by kind, what it takes in
the context that it is filled in, and `Schema.IsSound` says so of all nodes on the ways into a
schema. Judges of such a schema answer (`Schema.IsSound.complete`).
-/

import Specimen.Proofs.Fields
import Specimen.Proofs.Height
import Specimen.Proofs.Sorts

namespace Specimen

open Run (Yields Gives)

namespace Schema

/-! ### Present samples -/

/-- Valid samples are never absent: the judge refuses absent values, or what the node stands for is
never absent. -/
inductive IsPresent (environment : Environment) : Schema → Prop
  | own {schema : Schema} (refuses : schema.kind.acceptsAbsent = false) :
      IsPresent environment schema
  | wrapped {schema child : Schema} (kind : schema.kind = .optional ∨ schema.kind = .branded)
      (found : schema.inner = some child) (inner : IsPresent environment child) :
      IsPresent environment schema
  | default {schema child : Schema} {fallback : Fallback} (kind : schema.kind = .default)
      (supplied : schema.traits.fallback = some fallback)
      (falls : Gives (environment.fallbackValue fallback) (· ≠ .absent))
      (found : schema.inner = some child) (inner : IsPresent environment child) :
      IsPresent environment schema
  | lazy {schema target : Schema} (stands : schema.StandsFor environment.definitions target)
      (definition : IsPresent environment target) : IsPresent environment schema
  | union {schema : Schema} (kind : schema.kind = .union)
      (options : ∀ option ∈ schema.items, IsPresent environment option) :
      IsPresent environment schema
  | intersection {schema : Schema} (kind : schema.kind = .intersection) :
      IsPresent environment schema

/-! ### Nodes -/

/-- The options before each option are never at a loss about its samples: they ask no number whether
it is whole, or its samples are moderate. -/
def OptionsAnswer (environment : Environment) (options : List Schema) : Prop :=
  options.Pairwise fun earlier later =>
    earlier.Throughout environment.definitions Judges IsUnchecked ∨
      later.MakesThroughout environment Value.IsModerate

/-- Keys and values of dictionaries are described, and keys are hashable. -/
structure HasEntries (environment : Environment) (schema : Schema) : Prop where
  key : ∃ key, schema.key = some key ∧ key.MakesThroughout environment (·.isHashable = true)
  value : schema.value.isSome

/-- What it takes of a node, in the context that it is filled in, for valid samples. -/
inductive IsSoundAt (environment : Environment) (context : Context) (schema : Schema) : Prop
  | string {low : Nat} {high : Option Nat} (kind : schema.kind = .string)
      (sizes : Check.Sizes schema.checks low high) (picks : context.Picks environment)
  | number (kind : schema.kind = .number) (numbers : Check.Numbers schema.checks)
      (moderate : .integer ∈ schema.checks → Check.Numbers.AreBelow moderateBound schema.checks)
  | bigint (kind : schema.kind = .bigint) (numbers : Check.Numbers schema.checks)
  | anything (kind : schema.kind ∈ [.any, .unknown, .effects])
  | constant (kind : schema.kind ∈ [.boolean, .null, .nan, .void, .undefined, .function])
  | date {reference : Moment} (kind : schema.kind = .date) (unbounded : schema.checks = [])
      (isReference : environment.referenceDate context = .moment reference)
      (late : 30 * microsPerDay ≤ reference.wall) (valid : reference.wall < Moment.limit)
  | promise (kind : schema.kind = .promise) (inner : schema.inner.isSome)
  | object (kind : schema.kind = .object) (distinct : ((schema.fields.getD []).map (·.1)).Nodup)
  | array {low : Nat} {high : Option Nat} (kind : schema.kind = .array)
      (sizes : Check.Sizes schema.checks low high) (inner : schema.inner.isSome)
  | set {high : Option Nat} (kind : schema.kind = .set)
      (sizes : Check.Sizes schema.checks 0 high) (inner : schema.inner.isSome)
      (apart : ∀ element below, schema.Fills context element below →
        Value.Apart (generate environment element below).MayGive)
  | map {target : Make.EntryTarget} (kind : schema.kind = .map)
      (size : Make.entryTarget context.mapEntriesLength = .ok target)
      (entries : schema.HasEntries environment)
  | record {target : Make.EntryTarget} (kind : schema.kind = .record)
      (size : Make.entryTarget context.recordKeysLength = .ok target)
      (entries : schema.HasEntries environment)
  | tuple (kind : schema.kind = .tuple)
  | union (kind : schema.kind = .union) (nonempty : schema.items ≠ [])
      (answer : OptionsAnswer environment schema.items)
  | discriminatedUnion (kind : schema.kind = .discriminatedUnion) (nonempty : schema.items ≠ [])
      (answer : OptionsAnswer environment schema.items)
      (present : ∀ option ∈ schema.items, option.IsPresent environment)
  | intersection {left right : Schema} (kind : schema.kind = .intersection)
      (parts : schema.items = [left, right]) (isLeft : left.kind = .object)
      (isRight : right.kind = .object)
      (shared : ∀ field ∈ left.fields.getD [], ∀ other ∈ right.fields.getD [],
        field.1 = other.1 → field.2 = other.2)
  | enumeration (kind : schema.kind = .enumeration ∨ schema.kind = .nativeEnumeration)
      (nonempty : schema.traits.values ≠ [])
      (each : ∀ value ∈ schema.traits.values, value ≠ .absent ∧ Judge.memberValue value = value)
  | literal (kind : schema.kind = .literal) (present : schema.traits.literal ≠ .absent)
      (isNumber : schema.traits.literal.isNan = false)
  | wrapped (kind : schema.kind = .optional ∨ schema.kind = .branded) (inner : schema.inner.isSome)
  | nullable {child : Schema} (kind : schema.kind = .nullable) (found : schema.inner = some child)
      (present : child.IsPresent environment)
  | default {child : Schema} (kind : schema.kind = .default) (found : schema.inner = some child)
      (valid : ∀ fallback, schema.traits.fallback = some fallback →
        Yields (environment.fallbackValue fallback) fun value =>
          value = .absent ∨ Judge.Accepts (validate environment.definitions child) value)
  | lazy {target : Schema} (stands : schema.StandsFor environment.definitions target)

/-! ### Schemas -/

/-- All nodes on the ways into the schema are sound in the contexts that they are filled in. -/
inductive IsSound (environment : Environment) : Schema → Context → Prop
  | intro {schema : Schema} {context : Context} (here : schema.IsSoundAt environment context)
      (children : ∀ child below, schema.Fills context child below → child ∈ schema.judged →
        IsSound environment child below)
      (definition : ∀ target below, schema.Follows environment.definitions context target below →
        IsSound environment target below) :
      IsSound environment schema context

variable {environment : Environment} {schema : Schema} {context : Context}

/-- A sound node that fills no other nodes is a sound schema. -/
theorem IsSoundAt.leaf (sound : schema.IsSoundAt environment context) (childless : schema.children = [])
    (strict : schema.kind ≠ .lazy) : schema.IsSound environment context := by
  refine .intro sound (fun child below fills _ => ?_) fun target below follows => ?_
  · have listed := fills.mem_children
    rw [childless] at listed
    cases listed
  · exact absurd follows.kind strict

/-- A sound node lacks nothing that its judge looks at. -/
theorem IsSoundAt.complete (sound : schema.IsSoundAt environment context) :
    schema.IsComplete environment.definitions := by
  refine ⟨fun hasInner => ?_, fun hasEntries => ?_, fun isLazy => ?_⟩
  · cases sound with
    | array kind sizes inner | set kind sizes inner | wrapped kind inner => exact inner
    | nullable kind found present => simp [found]
    | default kind found valid => simp [found]
    | lazy stands => simp [stands.kind] at hasInner
    | anything kind | constant kind =>
      simp only [List.mem_cons, List.not_mem_nil, or_false] at hasInner
      rcases hasInner with isKind | isKind | isKind | isKind | isKind | isKind <;>
      simp [isKind] at kind
    | enumeration kind => rcases kind with kind | kind <;> simp [kind] at hasInner
    | _ kind => simp [kind] at hasInner
  · cases sound with
    | map kind size entries | record kind size entries =>
      obtain ⟨key, found, _⟩ := entries.key
      exact ⟨by simp [found], entries.value⟩
    | lazy stands => simp [stands.kind] at hasEntries
    | anything kind | constant kind =>
      rcases hasEntries with isKind | isKind <;> simp [isKind] at kind
    | wrapped kind | enumeration kind => rcases kind with kind | kind <;> simp [kind] at hasEntries
    | _ kind => simp [kind] at hasEntries
  · cases sound with
    | lazy stands => exact ⟨_, stands.found⟩
    | anything kind | constant kind | wrapped kind | enumeration kind => simp [isLazy] at kind
    | _ kind => simp [kind] at isLazy

/-- The checks of a sound node ask for no format, so that only large numbers are too much for them.
-/
theorem IsSoundAt.copes (sound : schema.IsSoundAt environment context) {subject : Value}
    (whole : schema.IsUnchecked ∨ subject.IsModerate) : schema.CopesWith subject := by
  refine ⟨fun isString text _ check mem => ?_, fun isNumber asked number isInt => ?_⟩
  · cases sound with
    | string kind sizes picks => exact ⟨none, sizes.formatMessage_eq text check mem⟩
    | lazy stands => simp [stands.kind] at isString
    | anything kind | constant kind | wrapped kind | enumeration kind => simp [isString] at kind
    | _ kind => simp [kind] at isString
  · rcases whole with unchecked | moderate
    · exact absurd asked (unchecked isNumber)
    · exact moderate.isWhole isInt

/-- A judge of the node answers, if the judges of its children do and no number is too large. -/
structure IsAnswering (definitions : Definitions) (schema : Schema) : Prop where
  complete : schema.IsComplete definitions
  copes : ∀ subject, schema.IsUnchecked ∨ subject.IsModerate → schema.CopesWith subject

variable {levels left : Nat}

/-- In a sound schema that is not cut off there are only nodes whose judges answer. -/
theorem IsSound.answering (sound : schema.IsSound environment context)
    (height : schema.HeightWithin environment.definitions levels) (has : context.HasLevels left)
    (enough : levels ≤ left) :
    schema.Throughout environment.definitions Judges (·.IsAnswering environment.definitions) := by
  revert sound
  refine @byHeight environment.definitions schema context levels
    (fun schema context => schema.IsSound environment context →
      schema.Throughout environment.definitions Judges (·.IsAnswering environment.definitions))
    (fun schema context levels left height has enough children definition sound => ?_) height left
    has enough
  obtain ⟨here, soundChildren, soundDefinition⟩ := sound
  have room : schema.isControlled = true → 0 < left :=
    fun controlled => Nat.lt_of_lt_of_le (height.controlled controlled) enough
  refine .intro ⟨here.complete, fun subject => here.copes⟩ (fun child judged => ?_)
    fun target stands => ?_
  · obtain ⟨below, fills⟩ := exists_fills has room judged
    exact children child below fills judged (soundChildren child below fills judged)
  · obtain ⟨below, follows⟩ := stands.exists_follows has room
    exact definition target below follows (soundDefinition target below follows)

/-- Validation by a sound schema answers, if no number has to be told whole or the numbers in the
value are moderate. -/
theorem IsSound.answers (sound : schema.IsSound environment context)
    (height : schema.HeightWithin environment.definitions levels) (has : context.HasLevels left)
    (enough : levels ≤ left) {value : Value}
    (whole : schema.Throughout environment.definitions Judges IsUnchecked ∨ value.IsModerate) :
    Judge.Answers (validate environment.definitions schema) value := by
  refine validate_answers fun other part leads => ?_
  have answering := (sound.answering height has enough).asked leads
  refine ⟨answering.here.complete, (height.grounded.asked leads).here, answering.here.copes part ?_⟩
  exact whole.imp (fun unchecked => (unchecked.asked leads).here) fun moderate =>
    moderate.asked leads

end Schema

end Specimen
