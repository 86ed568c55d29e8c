/-
**A contained fault is as good as absence.**

A function of the caller that fills nodes and fails is compared with one that makes the same draws
and returns the absent value. Both samples are the same, and so are the sessions they end in, except
that in the first a record of level error has been inserted for every call that failed.

Between the call that fails and the record there are the enclosing parts of the rule, which do
nothing more: `Run.FailsOrAbsent` is what two rules come to in the meantime.
-/

import Specimen.Proofs.Agreement

namespace Specimen

/-! ### Logs with more errors -/

/-- The first log is the second one with a number of records of contained faults inserted. -/
inductive LogRecord.MoreErrors : Nat → List LogRecord → List LogRecord → Prop
  | nil : MoreErrors 0 [] []
  | both {more : Nat} {first second : List LogRecord} (record : LogRecord)
      (rest : MoreErrors more first second) : MoreErrors more (record :: first) (record :: second)
  | inserted {more : Nat} {first second : List LogRecord} (tag : String) (context : Context)
      (rest : MoreErrors more first second) :
      MoreErrors (more + 1) (Make.containedRecord tag context :: first) second

namespace LogRecord.MoreErrors

theorem refl (records : List LogRecord) : MoreErrors 0 records records := by
  induction records with
  | nil => exact .nil
  | cons record rest hypothesis => exact .both record hypothesis

/-- So many more of the records are of level error. -/
theorem count_errors {more : Nat} {first second : List LogRecord}
    (errors : MoreErrors more first second) :
    first.countP (·.level = .error) = second.countP (·.level = .error) + more := by
  induction errors with
  | nil => rfl
  | both record rest hypothesis =>
    rw [List.countP_cons, List.countP_cons, hypothesis]
    omega
  | inserted tag context rest hypothesis =>
    rw [List.countP_cons, hypothesis]
    rfl

end LogRecord.MoreErrors

/-! ### Sessions -/

/-- How often a counting function was called. -/
def Session.calls (session : Session) (counter : Nat) : Nat :=
  (session.counters.lookup counter).getD 0

/-- Two sessions that are the same but for the records of calls that failed in the first: one for
each call since the counter stood at `start`, apart from those that are `pending`. -/
structure Session.SameButErrors (counter start pending : Nat) (first second : Session) : Prop where
  source : first.source = second.source
  fresh : first.fresh = second.fresh
  counters : first.counters = second.counters
  closures : first.closures = second.closures
  log : ∃ more, LogRecord.MoreErrors more first.log second.log ∧
    first.calls counter = start + more + pending

namespace Session.SameButErrors

variable {counter start pending : Nat}

theorem refl (session : Session) : session.SameButErrors counter (session.calls counter) 0 session :=
  ⟨rfl, rfl, rfl, rfl, 0, .refl session.log, rfl⟩

theorem kept : Run.Agree.KeptBySteps (SameButErrors counter start pending) where
  source same := same.source
  fresh same := same.fresh
  withSource _ same := ⟨rfl, same.fresh, same.counters, same.closures, same.log⟩
  withFresh _ same := ⟨same.source, rfl, same.counters, same.closures, same.log⟩
  withRecord record same := by
    obtain ⟨more, errors, calls⟩ := same.log
    exact ⟨same.source, same.fresh, same.counters, same.closures, more, .both record errors, calls⟩
  withClosure closure same :=
    ⟨same.source, same.fresh, same.counters, congrArg (closure :: ·) same.closures, same.log⟩

/-- Counting a call leaves one more call pending. -/
theorem count {first second : Session} (same : SameButErrors counter start 0 first second) :
    SameButErrors counter start 1 (Run.count counter first).2 (Run.count counter second).2 := by
  obtain ⟨more, errors, calls⟩ := same.log
  have counted : ∀ session : Session, Run.count counter session = (.ok (session.calls counter),
      { session with counters := (counter, session.calls counter + 1) ::
          session.counters.filter fun entry => entry.1 != counter }) := fun _ => rfl
  have equal : first.calls counter = second.calls counter := by
    rw [Session.calls, Session.calls, same.counters]
  rw [counted, counted, ← equal, ← same.counters]
  refine ⟨same.source, same.fresh, rfl, same.closures, more, errors, ?_⟩
  rw [Session.calls, List.lookup_cons_self, Option.getD_some, calls]

end Session.SameButErrors

/-! ### Rules -/

/-- What two rules come to: the same, or the first one fails and the second one gives the absent
value, with one call pending. -/
def Run.FailsOrAbsent (counter start : Nat) (first second : Run Value) : Prop :=
  ∀ session other, session.SameButErrors counter start 0 other →
    (Results Eq (first session).1 (second other).1 ∧
        (first session).2.SameButErrors counter start 0 (second other).2) ∨
      ∃ fault, fault.isUnknownType = false ∧ (first session).1 = .error fault ∧
        (second other).1 = .ok .absent ∧
        (first session).2.SameButErrors counter start 1 (second other).2

section Rules

variable {counter start : Nat}

theorem Run.FailsOrAbsent.bind {α : Type} {related : α → α → Prop} {left right : Run α}
    {next continued : α → Run Value}
    (begun : Run.Agree (Session.SameButErrors counter start 0) related left right)
    (goesOn : ∀ value other, related value other →
      FailsOrAbsent counter start (next value) (continued other)) :
    FailsOrAbsent counter start (left >>= next) (right >>= continued) := by
  intro session other same
  have begins := begun session other same
  rw [Run.bind_apply, Run.bind_apply]
  revert begins
  rcases left session with ⟨result, after⟩
  rcases right other with ⟨outcome, reached⟩
  rintro ⟨results, kept⟩
  cases results with
  | ok alike => exact goesOn _ _ alike after reached kept
  | error fault => exact .inl ⟨.error fault, kept⟩

/-- Once the fault is contained, its record is there and the node is absent on both sides. -/
theorem Make.filled_agree {tag : String} {context : Context} {left right : Run Value}
    (rules : Run.FailsOrAbsent counter start left right) :
    Run.Agree (Session.SameButErrors counter start 0) Eq (filled tag context left)
      (filled tag context right) := by
  intro first second same
  have outcomes := rules first second same
  revert outcomes
  rcases made : left first with ⟨result, after⟩
  rcases reached : right second with ⟨outcome, other⟩
  rintro (⟨results, kept⟩ | ⟨fault, ordinary, rfl, rfl, kept⟩)
  · cases results with
    | ok alike =>
      rw [filled_ok made, filled_ok reached]
      exact ⟨.ok alike, kept⟩
    | error fault =>
      cases unknown : fault.isUnknownType with
      | false =>
        rw [filled_contained unknown made, filled_contained unknown reached]
        exact ⟨.ok rfl, Session.SameButErrors.kept.withRecord _ kept⟩
      | true =>
        cases fault with
        | unknownType kind =>
          rw [filled_unknown made, filled_unknown reached]
          exact ⟨.error _, kept⟩
        | _ => cases unknown
  · rw [filled_contained ordinary made, filled_ok reached]
    obtain ⟨more, errors, calls⟩ := kept.log
    refine ⟨.ok rfl, kept.source, kept.fresh, kept.counters, kept.closures, more + 1,
      .inserted tag context errors, ?_⟩
    exact calls

theorem Make.unfilled_agree {tag : String} {context : Context} :
    Run.Agree (Session.SameButErrors counter start 0) Eq (unfilled tag context)
      (unfilled tag context) := by
  have outcome : Run.Agree (Session.SameButErrors counter start 0) Eq (withoutRule tag context)
      (withoutRule tag context) := by
    unfold withoutRule
    split
    · exact .throw _
    · exact .bind (.log Session.SameButErrors.kept _ _ _) fun _ _ _ => .pure rfl
  exact .bind outcome fun _ _ same => same ▸ .pure rfl

end Rules

/-! ### Functions of the caller that fail -/

namespace Environment

/-- The environment in which a function of the caller makes draws, counts the call, and goes on in a
way that may depend on the fault that was drawn. -/
def interrupting (environment : Environment) (hook : Hook) (counter : Nat)
    (draws : Invocation → Run Fault) (ending : Fault → Run Reply) : Environment :=
  { environment with
    invoke := fun called invocation =>
      if called = hook then do
        let fault ← draws invocation
        let _ ← Run.count counter
        ending fault
      else environment.invoke called invocation }

/-- A function of the caller makes draws and fails. -/
def failing (environment : Environment) (hook : Hook) (counter : Nat)
    (draws : Invocation → Run Fault) : Environment :=
  environment.interrupting hook counter draws fun fault => throw fault

/-- A function of the caller makes the same draws and returns the absent value. -/
def returningAbsent (environment : Environment) (hook : Hook) (counter : Nat)
    (draws : Invocation → Run Fault) : Environment :=
  environment.interrupting hook counter draws fun _ => pure (.value .absent)

theorem interrupting_setting (environment : Environment) (hook : Hook) (counter : Nat)
    (draws : Invocation → Run Fault) :
    (environment.failing hook counter draws).SameSetting
      (environment.returningAbsent hook counter draws) := ⟨rfl, rfl, rfl, rfl⟩

end Environment

variable {environment : Environment} {hook : Hook} {counter start : Nat}
variable {draws : Invocation → Run Fault}

/-- What is drawn does not depend on the records of failed calls, and is always a fault that is
contained. -/
structure Invocation.DrawsFaults (counter : Nat) (draws : Invocation → Run Fault) : Prop where
  agree : ∀ start invocation,
    Run.Agree (Session.SameButErrors counter start 0) Eq (draws invocation) (draws invocation)
  gives : ∀ invocation, Run.Gives (draws invocation) fun fault => fault.isUnknownType = false

/-- The provider and the other functions of the caller do not look at the records of failed calls
and leave the counter alone. -/
structure Environment.IgnoresErrors (environment : Environment) (hook : Hook) (counter : Nat) :
    Prop where
  provider : ∀ start call, Run.Agree (Session.SameButErrors counter start 0) Eq
    (environment.provider call) (environment.provider call)
  invoke : ∀ start other invocation, other ≠ hook →
    Run.Agree (Session.SameButErrors counter start 0)
      (Reply.Alike (Run.Agree (Session.SameButErrors counter start 0) Eq))
      (environment.invoke other invocation) (environment.invoke other invocation)

theorem Environment.interrupting_apply {ending : Fault → Run Reply} {invocation : Invocation}
    {session after : Session} {fault : Fault}
    (drawn : draws invocation session = (.ok fault, after)) :
    (environment.interrupting hook counter draws ending).invoke hook invocation session =
      ending fault (Run.count counter after).2 := by
  unfold interrupting
  simp only [if_true]
  rw [Run.bind_ok drawn, Run.bind_apply]
  rfl

/-- A call that fails is as good as one that returns the absent value, once it is contained. -/
theorem Environment.interrupted_rules (draw : Invocation.DrawsFaults counter draws)
    (invocation : Invocation) :
    Run.FailsOrAbsent counter start
      ((environment.failing hook counter draws).invokeValue hook invocation)
      ((environment.returningAbsent hook counter draws).invokeValue hook invocation) := by
  intro session other same
  obtain ⟨fault, after, drawn, ordinary⟩ := draw.gives invocation session
  obtain ⟨results, kept⟩ := draw.agree start invocation session other same
  rw [drawn] at results kept
  rcases redrawn : draws invocation other with ⟨outcome, reached⟩
  rw [redrawn] at results kept
  cases results with
  | ok equal =>
    have fails : (environment.failing hook counter draws).invokeValue hook invocation session =
        (.error fault, (Run.count counter after).2) :=
      Run.bind_error (interrupting_apply drawn) _
    have replied : (environment.returningAbsent hook counter draws).invoke hook invocation other =
        (.ok (.value .absent), (Run.count counter reached).2) := interrupting_apply redrawn
    have absent : (environment.returningAbsent hook counter draws).invokeValue hook invocation
        other = (.ok .absent, (Run.count counter reached).2) :=
      (Run.bind_ok replied Reply.toValue).trans rfl
    rw [fails, absent]
    exact .inr ⟨fault, ordinary, rfl, rfl, Session.SameButErrors.count kept⟩

/-! ### The correspondence -/

/-- Calls of other functions of the caller are left as they are. -/
theorem Environment.interrupting_other {ending : Fault → Run Reply} {other : Hook}
    (different : other ≠ hook) (invocation : Invocation) :
    (environment.interrupting hook counter draws ending).invoke other invocation =
      environment.invoke other invocation := by
  unfold interrupting
  simp only [if_neg different]

section Correspondence

variable (ignores : environment.IgnoresErrors hook counter)
variable (draw : Invocation.DrawsFaults counter draws)
include ignores

theorem Environment.uninterrupted_replies {other : Hook} (different : other ≠ hook)
    (invocation : Invocation) :
    Run.Agree (Session.SameButErrors counter start 0)
      (Reply.Alike (Run.Agree (Session.SameButErrors counter start 0) Eq))
      ((environment.failing hook counter draws).invoke other invocation)
      ((environment.returningAbsent hook counter draws).invoke other invocation) := by
  rw [failing, returningAbsent, interrupting_other different, interrupting_other different]
  exact ignores.invoke start other invocation different

include draw in
/-- Whichever function is called for the value of a node, the rules fit each other. -/
theorem Environment.invokeValue_rules (called : Hook) (invocation : Invocation) :
    Run.FailsOrAbsent counter start
      ((environment.failing hook counter draws).invokeValue called invocation)
      ((environment.returningAbsent hook counter draws).invokeValue called invocation) := by
  by_cases same : called = hook
  · rw [same]
    exact interrupted_rules draw invocation
  · intro session other alike
    exact .inl (Run.Agree.toValue Session.SameButErrors.kept
      (uninterrupted_replies ignores same invocation) session other alike)

/-- Failing and returning the absent value correspond, where the function is not asked for
generators. -/
def Correspondence.containment (start : Nat) :
    Correspondence (environment.failing hook counter draws)
      (environment.returningAbsent hook counter draws) where
  twin := id
  suits _ context := context.resolver ≠ some hook ∧ context.mapper ≠ some hook
  runs := Run.Agree (Session.SameButErrors counter start 0)
  rules := Run.FailsOrAbsent counter start
  pure := .pure
  bind := .bind
  lift _ := .lift _
  draw property _ holds := .draw Session.SameButErrors.kept property holds
  log level origin message _ := .log Session.SameButErrors.kept level origin message
  fresh := .fresh Session.SameButErrors.kept
  copy := .copy Session.SameButErrors.kept
  newFunction name _ _ _ := .newFunction Session.SameButErrors.kept name _
  setting := Environment.interrupting_setting environment hook counter draws
  unresolved _ := .throw _
  provider := ignores.provider start
  resolver key suits chosen := Environment.uninterrupted_replies ignores
    (fun same => suits.1 (same ▸ chosen)) (.onKey key)
  mapper key suits chosen := Environment.uninterrupted_replies ignores
    (fun same => suits.2 (same ▸ chosen)) (.onKey key)
  override _ _ := Environment.invokeValue_rules ignores draw _ _
  bare hook := Environment.invokeValue_rules ignores draw hook .bare
  onValue hook value := Environment.invokeValue_rules ignores draw hook (.onValue value)
  rule agree session other same := .inl (agree session other same)
  thenRule := .bind
  filled _ := Make.filled_agree
  unfilled _ := Make.unfilled_agree
  choices := Context.SameChoices.refl
  forKey := Context.forKey_id
  deeper _ _ := Context.deeper_id _
  fills suits fills := by
    obtain ⟨depth, name, rfl⟩ := fills.context_eq
    exact suits
  follows suits follows := by
    obtain ⟨depth, rfl⟩ := follows.context_eq
    exact suits

end Correspondence

/-! ### Generation -/

/-- **A contained fault is as good as absence.** Where a function of the caller fails after its
draws, the sample is the one that is made where it returns the absent value instead, and so is the
session; but the log has one more error for every call that failed. -/
theorem generate_contained_fault (environment : Environment) (hook : Hook) (counter : Nat)
    (draws : Invocation → Run Fault) (ignores : environment.IgnoresErrors hook counter)
    (draw : Invocation.DrawsFaults counter draws) (schema : Schema) (context : Context)
    (noResolver : context.resolver ≠ some hook) (noMapper : context.mapper ≠ some hook)
    (session : Session) :
    ∃ result after other more,
      generate (environment.failing hook counter draws) schema context session = (result, after) ∧
      generate (environment.returningAbsent hook counter draws) schema context session =
        (result, other) ∧
      after.source = other.source ∧ after.fresh = other.fresh ∧ after.closures = other.closures ∧
      after.calls counter = session.calls counter + more ∧
      LogRecord.MoreErrors more after.log other.log ∧
      after.log.countP (·.level = .error) = other.log.countP (·.level = .error) + more := by
  have agree : Run.Agree (Session.SameButErrors counter (session.calls counter) 0) Eq
      (generate (environment.failing hook counter draws) schema context)
      (generate (environment.returningAbsent hook counter draws) schema context) :=
    (Correspondence.containment ignores draw _).generate ⟨noResolver, noMapper⟩ rfl
  obtain ⟨results, same⟩ := agree session session (.refl session)
  obtain ⟨more, errors, calls⟩ := same.log
  refine ⟨_, _, (generate (environment.returningAbsent hook counter draws) schema context
    session).2, more, rfl, ?_, same.source, same.fresh, same.closures, calls, errors,
    errors.count_errors⟩
  exact Prod.ext results.eq.symm rfl

/-- Draws a bit and then gives the same fault, whatever the call. -/
def bitThenFault (_ : Invocation) : Run Fault := do
  let _ ← Run.draw fun twister => twister.bits 1
  pure .wrongType

/-- An array of texts, each of which is filled by a function that fails. -/
theorem failingTexts_contained :
    ∃ result after other more,
      generate (Environment.failing (.ofStock [] []) ⟨0⟩ 0 bitThenFault) (.array .string)
        { overrides := [("string", ⟨0⟩)] } (.start ⟨.ofSeed 0, .int 0⟩ 0) = (result, after) ∧
      generate (Environment.returningAbsent (.ofStock [] []) ⟨0⟩ 0 bitThenFault) (.array .string)
        { overrides := [("string", ⟨0⟩)] } (.start ⟨.ofSeed 0, .int 0⟩ 0) = (result, other) ∧
      after.source = other.source ∧ after.fresh = other.fresh ∧ after.closures = other.closures ∧
      after.calls 0 = 0 + more ∧ LogRecord.MoreErrors more after.log other.log ∧
      after.log.countP (·.level = .error) = other.log.countP (·.level = .error) + more := by
  refine generate_contained_fault (.ofStock [] []) ⟨0⟩ 0 bitThenFault
    ⟨fun _ _ => .throw _, fun _ _ _ _ => .throw _⟩ ⟨fun _ _ => ?_, fun _ => ?_⟩
    (.array .string) { overrides := [("string", ⟨0⟩)] } nofun nofun (.start ⟨.ofSeed 0, .int 0⟩ 0)
  · exact .bind (.draw Session.SameButErrors.kept (fun _ => True) fun _ => True.intro)
      fun _ _ _ => .pure rfl
  · have drawn : Run.Gives (Run.draw fun twister => twister.bits 1) fun _ => True :=
      .draw fun _ => True.intro
    exact drawn.bind fun _ _ => .pure rfl

end Specimen
