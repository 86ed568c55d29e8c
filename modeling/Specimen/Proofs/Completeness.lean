/-
**A lenient generation always gives a value.**

Every fault on the way is contained but one that names an unknown kind. A caller who does not ask to
be told of unknown kinds gets a value for every schema, as long as no function of the caller fails
with such a fault itself. That no fault names an unknown kind is a correspondence that looks at one
side only.
-/

import Specimen.Proofs.Agreement

namespace Specimen

open Run (Yields Gives)

namespace Run

variable {α β : Type}

/-- The run never fails with an unknown kind. -/
def IsOrdinary (action : Run α) : Prop :=
  ∀ session fault after, action session = (.error fault, after) → fault.isUnknownType = false

/-- A run that fails with unknown kinds at most, and not with them, gives a value. -/
theorem IsOrdinary.gives {action : Run α} (ordinary : action.IsOrdinary)
    (unknown : action.FailsWith fun fault => fault.isUnknownType = true) :
    Gives action fun _ => True := by
  intro session
  rcases ended : action session with ⟨fault | value, after⟩
  · have known := ordinary session fault after ended
    rw [unknown session fault after ended] at known
    cases known
  · exact ⟨value, after, rfl, True.intro⟩

/-- The run never fails with an unknown kind, and what it gives has a counterpart. -/
def HasCounterpart (related : α → α → Prop) (action : Run α) : Prop :=
  action.IsOrdinary ∧ Yields action fun value => ∃ other, related value other

namespace HasCounterpart

variable {related : α → α → Prop}

theorem pure {value other : α} (alike : related value other) :
    HasCounterpart related (pure value) := by
  refine ⟨fun session fault after ended => ?_, Yields.pure ⟨other, alike⟩⟩
  cases ended

theorem bind {further : β → β → Prop} {action : Run α} {next : α → Run β}
    (begun : HasCounterpart related action)
    (goesOn : ∀ value other, related value other → HasCounterpart further (next value)) :
    HasCounterpart further (action >>= next) := by
  refine ⟨fun session fault last ended => ?_, begun.2.bind fun value ⟨other, alike⟩ =>
    (goesOn value other alike).2⟩
  rw [bind_apply] at ended
  rcases first : action session with ⟨failed | value, after⟩
  · rw [first] at ended
    cases ended
    exact begun.1 session _ _ first
  · rw [first] at ended
    obtain ⟨other, alike⟩ := begun.2 session value after first
    exact (goesOn value other alike).1 after fault last ended

theorem lift {result : Except Fault α} (ordinary : Ordinary result) :
    HasCounterpart Eq (lift result) := by
  cases result with
  | ok value => exact pure rfl
  | error failed =>
    refine ⟨fun session fault after ended => ?_, Yields.throw _⟩
    cases ended
    exact ordinary

/-- A run that gives a value whatever the session. -/
theorem of_gives {action : Run α} {property : α → Prop} (gives : Gives action property)
    (alike : ∀ value, property value → ∃ other, related value other) :
    HasCounterpart related action := by
  refine ⟨fun session fault after ended => ?_, fun session value after ended => ?_⟩
  · obtain ⟨value, reached, given, _⟩ := gives session
    rw [ended] at given
    cases given
  · obtain ⟨found, reached, given, holds⟩ := gives session
    rw [ended] at given
    cases given
    exact alike value holds

/-- Every value is its own counterpart. -/
theorem of_ordinary {action : Run α} (ordinary : action.IsOrdinary) : HasCounterpart Eq action :=
  ⟨ordinary, fun _ value _ _ => ⟨value, rfl⟩⟩

end HasCounterpart

end Run

/-! ### The environment -/

/-- Neither the provider nor functions of the caller fail with an unknown kind, and no definition
does. -/
structure Environment.IsOrdinary (environment : Environment) : Prop where
  provider : ∀ call, (environment.provider call).IsOrdinary
  invoke : ∀ hook invocation, (environment.invoke hook invocation).IsOrdinary
  generator : ∀ hook invocation, Yields (environment.invoke hook invocation) fun reply =>
    ∀ make, reply = .generator make → make.IsOrdinary
  definitions : ∀ name definition, (name, definition) ∈ environment.definitions →
    Ordinary definition

theorem Environment.IsOrdinary.invokeValue {environment : Environment}
    (ordinary : environment.IsOrdinary) (hook : Hook) (invocation : Invocation) :
    (environment.invokeValue hook invocation).HasCounterpart Eq := by
  have reply := Run.HasCounterpart.of_ordinary (ordinary.invoke hook invocation)
  refine reply.bind fun value _ _ => ?_
  cases value with
  | value returned => exact .pure rfl
  | generator make =>
    have identity : (Run.fresh).HasCounterpart fun first second : Nat => first = second :=
      .of_gives Gives.fresh fun value _ => ⟨value, rfl⟩
    exact identity.bind fun _ _ _ => .pure rfl

theorem Schema.resolve_ordinary {definitions : Definitions} (schema : Schema)
    (ordinary : ∀ name definition, (name, definition) ∈ definitions → Ordinary definition) :
    Ordinary (schema.resolve definitions) := by
  unfold resolve
  split
  · exact rfl
  · next name reference =>
    split
    · next found listed =>
      exact ordinary name found (mem_of_lookup listed)
    · exact rfl

theorem Schema.fault_ordinary {definitions : Definitions} {schema : Schema} {fault : Fault}
    (ordinary : ∀ name definition, (name, definition) ∈ definitions → Ordinary definition)
    (unresolved : schema.resolve definitions = .error fault) :
    Ordinary (.error fault : Except Fault Value) := by
  have known := schema.resolve_ordinary ordinary
  rw [unresolved] at known
  exact known

/-- A reply for a generator never fails with an unknown kind, nor does its generator. -/
theorem Environment.IsOrdinary.reply {environment : Environment}
    (ordinary : environment.IsOrdinary) (hook : Hook) (invocation : Invocation) :
    (environment.invoke hook invocation).HasCounterpart
      (Reply.Alike fun left _ => left.HasCounterpart Eq) := by
  refine ⟨ordinary.invoke hook invocation, (ordinary.generator hook invocation).mono
    fun reply generator => ⟨reply, ?_⟩⟩
  cases reply with
  | value returned => exact .value returned
  | generator make => exact .generator (.of_ordinary (generator make rfl))

/-! ### Nodes -/

/-- The caller does not want to be told of unknown kinds, and fills no nodes of a tag. -/
structure Context.IsLenient (context : Context) : Prop where
  overrides : context.overrides = []
  lenient : context.throwOnUnknownType.isTruthy = false

theorem Context.IsLenient.fills {schema child : Schema} {context below : Context}
    (lenient : context.IsLenient) (fills : schema.Fills context child below) :
    below.IsLenient := by
  obtain ⟨depth, name, rfl⟩ := fills.context_eq
  exact ⟨lenient.overrides, lenient.lenient⟩

theorem Context.IsLenient.follows {definitions : Schema.Definitions} {schema target : Schema}
    {context below : Context} (lenient : context.IsLenient)
    (follows : schema.Follows definitions context target below) : below.IsLenient := by
  obtain ⟨depth, rfl⟩ := follows.context_eq
  exact ⟨lenient.overrides, lenient.lenient⟩

namespace Make

variable {tag : String} {context : Context}

theorem filled_ordinary {rule : Run Value} (ordinary : rule.HasCounterpart Eq) :
    (filled tag context rule).HasCounterpart Eq := by
  refine .of_ordinary fun session fault after ended => ?_
  rcases made : rule session with ⟨failed | value, reached⟩
  · rw [filled_contained (ordinary.1 session failed reached made) made] at ended
    cases ended
  · rw [filled_ok made] at ended
    cases ended

/-- A node without a rule is absent, where the caller does not want to be told. -/
theorem unfilled_gives (lenient : context.throwOnUnknownType.isTruthy = false) :
    Gives (unfilled tag context) (· = .absent) := by
  unfold unfilled withoutRule
  rw [lenient]
  intro session
  exact ⟨_, _, rfl, rfl⟩

end Make

/-! ### Generation -/

/-- Never failing with an unknown kind, as a correspondence of an environment with itself. -/
def Correspondence.ordinary {environment : Environment} (ordinary : environment.IsOrdinary) :
    Correspondence environment environment where
  twin := id
  suits _ context := context.IsLenient
  runs related left _ := left.HasCounterpart related
  rules left _ := left.HasCounterpart Eq
  pure := .pure
  bind begun goesOn := begun.bind goesOn
  lift := .lift
  draw property drawing holds := .of_gives (Gives.draw holds) fun value holds =>
    ⟨value, rfl, holds⟩
  log level origin message _ := .of_gives (Gives.log level origin message) fun value _ =>
    ⟨value, rfl⟩
  fresh := .of_gives Gives.fresh fun value _ => ⟨value, rfl⟩
  copy value := .of_gives (Gives.copy value) fun value _ => ⟨value, rfl⟩
  newFunction name _ _ _ := .of_gives (Gives.newFunction name _)
    fun value _ => ⟨value, rfl⟩
  setting := .refl environment
  unresolved found := .lift (Schema.fault_ordinary ordinary.definitions found)
  provider call := .of_ordinary (ordinary.provider call)
  resolver key _ _ := ordinary.reply _ (.onKey key)
  mapper key _ _ := ordinary.reply _ (.onKey key)
  override suits chosen := by
    rw [suits.overrides] at chosen
    cases chosen
  bare hook := ordinary.invokeValue hook .bare
  onValue hook value := ordinary.invokeValue hook (.onValue value)
  rule := id
  thenRule begun goesOn := begun.bind goesOn
  filled _ rules := Make.filled_ordinary rules
  unfilled suits := .of_gives (Make.unfilled_gives suits.lenient) fun value _ => ⟨value, rfl⟩
  choices := Context.SameChoices.refl
  forKey := Context.forKey_id
  deeper _ _ := Context.deeper_id _
  fills := Context.IsLenient.fills
  follows := Context.IsLenient.follows

/-- **A lenient generation gives a value** for every schema, whatever the session. -/
theorem generate_gives {environment : Environment} (ordinary : environment.IsOrdinary)
    (schema : Schema) {context : Context} (lenient : context.IsLenient) :
    Gives (generate environment schema context) fun _ => True := by
  have suits : (Correspondence.ordinary ordinary).suits schema context := lenient
  have complete : (generate environment schema context).HasCounterpart Eq :=
    (Correspondence.ordinary ordinary).generate suits rfl
  exact complete.1.gives (generate_failsWith environment schema context)

end Specimen
