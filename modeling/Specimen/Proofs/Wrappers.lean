/-
**Stacks of wrappers.**

A schema can be put into wrappers: optional and default ones accept what is absent, nullable ones
accept null, and brands leave everything to the schema. Of a stack of wrappers, one that is nullable
is enough for null to be accepted, wherever it stands (`Schema.validate_wrapped_present`). About
what is absent the outermost wrapper decides that is no brand (`Schema.validate_wrapped_absent`): if
it is nullable it refuses, and those further in are not asked.

So a stack accepts what its schema or one of its wrappers accepts, but for what is absent, which it
may refuse all the same (`Schema.wrapped_accepts_iff`, `Schema.optionalNullable_refuses`).
-/

import Specimen.Proofs.Unfolding

namespace Specimen

/-- What a schema can be put into. -/
inductive Wrapper where
  | optional
  | nullable
  | default (fallback : Fallback)
  | brand (name : Value)

namespace Wrapper

/-- The schema in the wrapper. -/
def around : Wrapper → Schema → Schema
  | .optional, schema => schema.optional
  | .nullable, schema => schema.nullable
  | .default fallback, schema => schema.default fallback
  | .brand name, schema => schema.brand name

/-- Does the wrapper accept what is absent? -/
def acceptsAbsent : Wrapper → Bool
  | .optional | .default _ => true
  | .nullable | .brand _ => false

/-- Does the wrapper accept null? -/
def acceptsNull : Wrapper → Bool
  | .nullable => true
  | .optional | .default _ | .brand _ => false

/-- Does the wrapper leave everything to the schema? -/
def isBrand : Wrapper → Bool
  | .brand _ => true
  | .optional | .nullable | .default _ => false

/-- What a wrapper asks of a value, given what the schema in it asks. -/
def judge : Wrapper → Judge → Judge
  | .optional, inner => Judge.optional inner
  | .nullable, inner => fun subject path =>
    if subject.isAbsent then Judge.report path "Required" else Judge.nullable inner subject path
  | .default _, inner => Judge.optional inner
  | .brand _, inner => inner

/-- The outermost wrapper that is no brand. -/
def outermost? (stack : List Wrapper) : Option Wrapper := stack.find? fun wrapper => !wrapper.isBrand

end Wrapper

namespace Schema

/-- The schema in a stack of wrappers, the outermost one first. -/
def wrappedIn (schema : Schema) (stack : List Wrapper) : Schema := stack.foldr Wrapper.around schema

variable {definitions : Definitions}

/-! ### One wrapper -/

theorem validate_around (wrapper : Wrapper) (schema : Schema) :
    validate definitions (wrapper.around schema) = wrapper.judge (validate definitions schema) := by
  funext subject path
  rw [validate_eq]
  cases wrapper with
  | optional | default fallback | brand name => cases subject <;> rfl
  | nullable => cases subject <;> rfl

/-! ### Stacks -/

variable (stack : List Wrapper) (schema : Schema) (path : Path)

theorem validate_wrapped_present {subject : Value} (present : subject ≠ .absent) :
    validate definitions (schema.wrappedIn stack) subject path =
      if subject.isNull && stack.any Wrapper.acceptsNull then .ok []
      else validate definitions schema subject path := by
  have there : subject.isAbsent = false := by
    cases subject with
    | absent => exact absurd rfl present
    | _ => rfl
  induction stack with
  | nil => simp [wrappedIn]
  | cons wrapper inner hypothesis =>
    show validate definitions (wrapper.around (schema.wrappedIn inner)) subject path = _
    rw [validate_around, List.any_cons]
    cases wrapper with
    | optional | default fallback =>
      simp only [Wrapper.judge, Judge.optional, there, Wrapper.acceptsNull, Bool.false_or]
      exact hypothesis
    | brand name => exact hypothesis
    | nullable =>
      simp only [Wrapper.judge, Judge.nullable, there, Wrapper.acceptsNull, Bool.true_or,
        Bool.and_true]
      cases isNull : subject.isNull with
      | true => rfl
      | false =>
        rw [isNull] at hypothesis
        exact hypothesis

theorem validate_wrapped_absent :
    validate definitions (schema.wrappedIn stack) .absent path =
      match Wrapper.outermost? stack with
      | none => validate definitions schema .absent path
      | some wrapper => if wrapper.acceptsAbsent then .ok [] else Judge.report path "Required" := by
  induction stack with
  | nil => rfl
  | cons wrapper inner hypothesis =>
    show validate definitions (wrapper.around (schema.wrappedIn inner)) .absent path = _
    rw [validate_around]
    cases wrapper with
    | optional | default fallback | nullable => rfl
    | brand name => exact hypothesis

/-- The schema accepts the value, or one of the wrappers accepts it because it is absent or null. -/
def IsAcceptedBySome (definitions : Definitions) (schema : Schema) (stack : List Wrapper)
    (subject : Value) (path : Path) : Prop :=
  (subject = .absent ∧ ∃ wrapper ∈ stack, wrapper.acceptsAbsent = true) ∨
    (subject = .null ∧ ∃ wrapper ∈ stack, wrapper.acceptsNull = true) ∨
    validate definitions schema subject path = .ok []

theorem wrapped_accepts_present {subject : Value} (present : subject ≠ .absent) :
    validate definitions (schema.wrappedIn stack) subject path = .ok [] ↔
      schema.IsAcceptedBySome definitions stack subject path := by
  rw [validate_wrapped_present stack schema path present]
  by_cases byNull : (subject.isNull && stack.any Wrapper.acceptsNull) = true
  · obtain ⟨null, accepts⟩ := Bool.and_eq_true_iff.1 byNull
    have isNull : subject = .null := by
      cases subject with
      | null => rfl
      | _ => cases null
    rw [if_pos byNull]
    exact iff_of_true rfl (.inr (.inl ⟨isNull, List.any_eq_true.1 accepts⟩))
  · rw [if_neg byNull]
    refine ⟨fun accepted => .inr (.inr accepted), ?_⟩
    rintro (⟨absent, _⟩ | ⟨rfl, accepts⟩ | accepted)
    · exact absurd absent present
    · exact absurd (List.any_eq_true.2 accepts) byNull
    · exact accepted

theorem wrapped_accepts_absent :
    validate definitions (schema.wrappedIn stack) .absent path = .ok [] ↔
      schema.IsAcceptedBySome definitions stack .absent path ∧
        Wrapper.outermost? stack ≠ some .nullable := by
  rw [validate_wrapped_absent]
  cases found : Wrapper.outermost? stack with
  | none =>
    have brands : ¬ ∃ wrapper ∈ stack, wrapper.acceptsAbsent = true := by
      rintro ⟨wrapper, mem, accepts⟩
      have brand := List.find?_eq_none.1 found wrapper mem
      cases wrapper with
      | nullable | brand name => cases accepts
      | optional | default fallback => exact brand rfl
    simp [IsAcceptedBySome, brands]
  | some wrapper =>
    have mem : wrapper ∈ stack := List.mem_of_find?_eq_some found
    have noBrand := List.find?_some found
    cases wrapper with
    | optional | default fallback => exact iff_of_true rfl ⟨.inl ⟨rfl, _, mem, rfl⟩, nofun⟩
    | nullable => exact iff_of_false nofun fun accepted => accepted.2 rfl
    | brand name => cases noBrand

/-- **A stack accepts what its schema or one of its wrappers accepts**, in whatever order they
stand, but for what is absent if the outermost wrapper that is no brand is nullable. -/
theorem wrapped_accepts_iff (subject : Value) :
    validate definitions (schema.wrappedIn stack) subject path = .ok [] ↔
      schema.IsAcceptedBySome definitions stack subject path ∧
        ¬ (subject = .absent ∧ Wrapper.outermost? stack = some .nullable) := by
  by_cases absent : subject = .absent
  · rw [absent, wrapped_accepts_absent]
    simp
  · rw [wrapped_accepts_present stack schema path absent]
    simp [absent]

/-- Null that may be optional is refused when it is absent, though one of its wrappers is optional.
-/
theorem optionalNullable_refuses :
    ¬ (validate [] (string.wrappedIn [.nullable, .optional]) .absent [] = .ok [] ↔
      string.IsAcceptedBySome [] [.nullable, .optional] .absent []) := by
  have accepted : string.IsAcceptedBySome [] [.nullable, .optional] .absent [] :=
    .inl ⟨rfl, .optional, by simp, rfl⟩
  have refused : validate [] (string.wrappedIn [.nullable, .optional]) .absent [] =
      .ok [⟨[], "Required"⟩] := validate_wrapped_absent _ _ _
  rw [refused]
  exact fun same => nomatch same.2 accepted

end Schema

end Specimen
