/-
**What runs lead to.**

A run takes a session to a result and a session. A few ways to speak of the result are enough for
most of what is said about filling nodes:

* `Run.Yields`: a value that the run gives has a property, whatever the session was;
* `Run.FailsWith`: a fault that the run fails with has a property;
* `Run.Gives`: the run gives a value, and the value has the property.

Each has a rule for every way of building a run: for values, sequences, lists and draws.
-/

import Mathlib.Data.List.Forall2
import Specimen.Generation

namespace Specimen

/-! ### Operations that may fail -/

/-- If a sequence has a result, so has its first part, and what follows. -/
theorem of_bind_ok {First Last : Type} {first : Except Fault First}
    {next : First → Except Fault Last} {result : Last} (ended : first >>= next = .ok result) :
    ∃ value, first = .ok value ∧ next value = .ok result := by
  cases first with
  | error fault => cases ended
  | ok value => exact ⟨value, rfl, ended⟩

/-- A list of steps has results if each of them has one. -/
theorem exists_mapM_ok {Member Result : Type} {step : Member → Except Fault Result}
    {members : List Member} (each : ∀ member ∈ members, ∃ result, step member = .ok result) :
    ∃ results, members.mapM step = .ok results := by
  induction members with
  | nil => exact ⟨[], rfl⟩
  | cons first rest hypothesis =>
    rw [List.forall_mem_cons] at each
    obtain ⟨result, first⟩ := each.1
    obtain ⟨results, rest⟩ := hypothesis each.2
    exact ⟨result :: results, by rw [List.mapM_cons, first, rest]; rfl⟩

/-- A list of steps fails if one of them does. -/
theorem mapM_error {Member Result : Type} {step : Member → Except Fault Result}
    {members : List Member} {member : Member} (mem : member ∈ members) {fault : Fault}
    (fails : step member = .error fault) :
    ∃ first, members.mapM step = .error first := by
  induction members with
  | nil => cases mem
  | cons head tail hypothesis =>
    rw [List.mapM_cons]
    cases found : step head with
    | error first => exact ⟨first, rfl⟩
    | ok result =>
      have later : member ∈ tail := by
        rcases List.mem_cons.1 mem with rfl | later
        · rw [fails] at found
          cases found
        · exact later
      obtain ⟨first, stops⟩ := hypothesis later
      exact ⟨first, by rw [stops]; rfl⟩

namespace Run

variable {α β : Type}

/-! ### Steps -/

/-- A sequence goes on with the value of its first part. -/
theorem bind_apply (action : Run α) (next : α → Run β) (session : Session) :
    (action >>= next) session = match action session with
      | (.ok value, after) => next value after
      | (.error fault, after) => (.error fault, after) := by
  show ExceptT.bindCont next (action session).1 (action session).2 = _
  rcases action session with ⟨result, after⟩
  cases result <;> rfl

/-- After a run that gives a value the next one starts where it stopped. -/
theorem bind_ok {action : Run α} {session after : Session} {value : α}
    (ended : action session = (.ok value, after)) (next : α → Run β) :
    (action >>= next) session = next value after := by
  rw [bind_apply, ended]

/-- After a run that fails nothing is run. -/
theorem bind_error {action : Run α} {session after : Session} {fault : Fault}
    (ended : action session = (.error fault, after)) (next : α → Run β) :
    (action >>= next) session = (.error fault, after) := by
  rw [bind_apply, ended]

/-- A run whose value is changed. -/
theorem bind_pure_apply (action : Run α) (change : α → β) (session : Session) :
    (action >>= fun value => pure (change value)) session =
      ((action session).1.map change, (action session).2) := by
  rw [bind_apply]
  rcases action session with ⟨fault | value, after⟩ <;> rfl

/-- A sequence that gives a value is made of two runs that give one. -/
theorem bind_eq_ok {action : Run α} {next : α → Run β} {session last : Session} {result : β}
    (ended : (action >>= next) session = (.ok result, last)) :
    ∃ value after, action session = (.ok value, after) ∧ next value after = (.ok result, last) := by
  rw [bind_apply] at ended
  rcases first : action session with ⟨fault | value, after⟩
  · rw [first] at ended
    cases ended
  · rw [first] at ended
    exact ⟨value, after, rfl, ended⟩

theorem lift_ok (value : α) : lift (.ok value) = (pure value : Run α) := rfl

theorem lift_apply (result : Except Fault α) (session : Session) :
    lift result session = (result, session) := by
  cases result <;> rfl

/-- Drawing moves the generator on and leaves all else. -/
theorem draw_apply (drawing : Twister → α × Twister) (session : Session) :
    draw drawing session = (.ok (drawing session.source.twister).1,
      { session with source :=
        { session.source with twister := (drawing session.source.twister).2 } }) := rfl

/-- A run whose fault is caught gives its result, and goes on where it stopped. -/
theorem caught_apply (action : Run α) (session : Session) :
    caught action session = (.ok (action session).1, (action session).2) := rfl

/-- A record is put before the earlier ones. -/
theorem log_apply (level : LogLevel) (origin : LogOrigin) (message : String) (session : Session) :
    log level origin message session =
      (.ok (), { session with log := ⟨level, origin, message⟩ :: session.log }) := rfl

theorem fresh_apply (session : Session) :
    fresh session = (.ok session.fresh, { session with fresh := session.fresh + 1 }) := rfl

/-- A copy takes fresh identities for what it copies. -/
theorem copy_apply (value : Value) (session : Session) :
    copy value session = (.ok (Value.copyFrom session.fresh value).1,
      { session with fresh := (Value.copyFrom session.fresh value).2 }) := rfl

/-- A new function has a fresh identity, under which its closure is kept. -/
theorem newFunction_apply (name : FunctionName) (closure : Closure) (session : Session) :
    newFunction name closure session = (.ok (.function name session.fresh),
      { session with
        fresh := session.fresh + 1
        closures := (session.fresh, closure) :: session.closures }) := rfl

/-! ### Values that a run yields -/

/-- The run gives the value in some session. -/
def MayGive (action : Run α) (value : α) : Prop :=
  ∃ session after, action session = (.ok value, after)

/-- Every value that the run gives has the property, whatever the session. -/
def Yields (action : Run α) (property : α → Prop) : Prop :=
  ∀ session value after, action session = (.ok value, after) → property value

namespace Yields

/-- A run yields nothing but what it may give. -/
theorem mayGive (action : Run α) : Yields action action.MayGive :=
  fun session _ after given => ⟨session, after, given⟩

variable {property : α → Prop} {other : β → Prop}

theorem pure {value : α} (holds : property value) : Yields (pure value) property := by
  intro session result after ended
  cases ended
  exact holds

theorem throw (fault : Fault) : Yields (throw fault) property := by
  intro session result after ended
  cases ended

theorem trivial (action : Run α) : Yields action fun _ => True := fun _ _ _ _ => True.intro

theorem mono {weaker : α → Prop} {action : Run α} (yields : Yields action property)
    (implies : ∀ value, property value → weaker value) : Yields action weaker :=
  fun session value after ended => implies value (yields session value after ended)

theorem bind {action : Run α} {next : α → Run β} (first : Yields action property)
    (second : ∀ value, property value → Yields (next value) other) :
    Yields (action >>= next) other := by
  intro session result last ended
  obtain ⟨value, after, begun, finished⟩ := bind_eq_ok ended
  exact second value (first session value after begun) after result last finished

/-- A sequence of which only the second part matters. -/
theorem last {action : Run α} {next : α → Run β} (second : ∀ value, Yields (next value) other) :
    Yields (action >>= next) other :=
  bind (trivial action) fun value _ => second value

theorem lift {result : Except Fault α} (holds : ∀ value, result = .ok value → property value) :
    Yields (lift result) property := by
  cases result with
  | ok value => exact pure (holds value rfl)
  | error fault => exact throw fault

/-- A value that is caught is a value of the run. -/
theorem caught {action : Run α} (yields : Yields action property) :
    Yields (caught action) fun result => ∀ value, result = .ok value → property value := by
  intro session result after ended value found
  rw [caught_apply] at ended
  cases ended
  exact yields session value (action session).2 (Prod.ext found rfl)

/-- A list of runs, each with a property of its own. -/
theorem mapM {γ : Type} {items : List γ} {action : γ → Run α} {related : γ → α → Prop}
    (each : ∀ item ∈ items, Yields (action item) (related item)) :
    Yields (items.mapM action) fun values => List.Forall₂ related items values := by
  induction items with
  | nil => exact pure .nil
  | cons item rest hypothesis =>
    rw [List.mapM_cons]
    refine bind (each item List.mem_cons_self) fun value holds => ?_
    refine bind (hypothesis fun other mem => each other (List.mem_cons_of_mem _ mem))
      fun values others => ?_
    exact pure (.cons holds others)

end Yields

/-! ### Faults that a run fails with -/

/-- Every fault that the run fails with has the property, whatever the session. -/
def FailsWith (action : Run α) (property : Fault → Prop) : Prop :=
  ∀ session fault after, action session = (.error fault, after) → property fault

namespace FailsWith

variable {property : Fault → Prop}

theorem pure (value : α) : FailsWith (pure value) property := by
  intro session fault after ended
  cases ended

theorem bind {action : Run α} {next : α → Run β} (first : FailsWith action property)
    (second : ∀ value, FailsWith (next value) property) : FailsWith (action >>= next) property := by
  intro session fault last ended
  rw [bind_apply] at ended
  rcases made : action session with ⟨failed | value, after⟩
  · rw [made] at ended
    cases ended
    exact first _ _ _ made
  · rw [made] at ended
    exact second value _ _ _ ended

theorem mapM {γ : Type} {items : List γ} {action : γ → Run α}
    (each : ∀ item ∈ items, FailsWith (action item) property) :
    FailsWith (items.mapM action) property := by
  induction items with
  | nil => exact pure []
  | cons item rest hypothesis =>
    rw [List.forall_mem_cons] at each
    rw [List.mapM_cons]
    exact each.1.bind fun value => (hypothesis each.2).bind fun values => pure (value :: values)

end FailsWith

/-! ### Values that a run gives -/

/-- Whatever the session, the run gives a value, and the value has the property. -/
def Gives (action : Run α) (property : α → Prop) : Prop :=
  ∀ session, ∃ value after, action session = (.ok value, after) ∧ property value

namespace Gives

variable {property : α → Prop} {other : β → Prop}

theorem pure {value : α} (holds : property value) : Gives (pure value) property :=
  fun session => ⟨value, session, rfl, holds⟩

theorem mono {weaker : α → Prop} {action : Run α} (gives : Gives action property)
    (implies : ∀ value, property value → weaker value) : Gives action weaker := by
  intro session
  obtain ⟨value, after, ended, holds⟩ := gives session
  exact ⟨value, after, ended, implies value holds⟩

/-- What a run gives in every session is all that it yields. -/
theorem yields {action : Run α} (gives : Gives action property) : Yields action property := by
  intro session value after ended
  obtain ⟨other, last, begun, holds⟩ := gives session
  cases begun.symm.trans ended
  exact holds

/-- What a run gives also has every property of what it yields. -/
theorem and {more : α → Prop} {action : Run α} (gives : Gives action property)
    (yields : Yields action more) : Gives action fun value => property value ∧ more value := by
  intro session
  obtain ⟨value, after, ended, holds⟩ := gives session
  exact ⟨value, after, ended, holds, yields session value after ended⟩

theorem bind {action : Run α} {next : α → Run β} (first : Gives action property)
    (second : ∀ value, property value → Gives (next value) other) :
    Gives (action >>= next) other := by
  intro session
  obtain ⟨value, after, begun, holds⟩ := first session
  obtain ⟨result, last, ended, reached⟩ := second value holds after
  exact ⟨result, last, (bind_ok begun next).trans ended, reached⟩

theorem lift {value : α} {result : Except Fault α} (ended : result = .ok value)
    (holds : property value) : Gives (lift result) property := by
  rw [ended]
  exact pure holds

theorem draw {drawing : Twister → α × Twister} (holds : ∀ twister, property (drawing twister).1) :
    Gives (draw drawing) property :=
  fun session => ⟨_, _, draw_apply drawing session, holds _⟩

theorem log (level : LogLevel) (origin : LogOrigin) (message : String) :
    Gives (log level origin message) fun _ => True :=
  fun session => ⟨(), _, log_apply level origin message session, True.intro⟩

theorem fresh : Gives fresh fun _ => True :=
  fun session => ⟨_, _, fresh_apply session, True.intro⟩

theorem copy (value : Value) : Gives (copy value) fun _ => True :=
  fun session => ⟨_, _, copy_apply value session, True.intro⟩

theorem newFunction (name : FunctionName) (closure : Closure) :
    Gives (newFunction name closure) fun made => ∃ identity, made = .function name identity :=
  fun session => ⟨_, _, newFunction_apply name closure session, _, rfl⟩

/-- A list of runs, each with a property of its own. -/
theorem mapM {γ : Type} {items : List γ} {action : γ → Run α} {related : γ → α → Prop}
    (each : ∀ item ∈ items, Gives (action item) (related item)) :
    Gives (items.mapM action) fun values => List.Forall₂ related items values := by
  induction items with
  | nil => exact pure .nil
  | cons item rest hypothesis =>
    rw [List.mapM_cons]
    refine bind (each item List.mem_cons_self) fun value holds => ?_
    refine bind (hypothesis fun other mem => each other (List.mem_cons_of_mem _ mem))
      fun values others => ?_
    exact pure (.cons holds others)

end Gives

end Run

/-! ### Samples -/

/-- With choices that mean something, a sample is made in the context of the choices. -/
theorem sample_eq {environment : Environment} {schema : Schema} {settings : Settings}
    (known : Context.unknownNames settings = []) :
    sample environment schema .null settings =
      generate environment schema (Context.ofSettings .null settings) := by
  have built : Context.build .null settings = pure (Context.ofSettings .null settings) := by
    unfold Context.build
    rw [known]
    rfl
  rw [sample, built]
  rfl

end Specimen
