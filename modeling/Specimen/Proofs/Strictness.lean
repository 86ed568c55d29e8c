/-
**Strict generation simulates lenient generation.**

A lenient run writes a record for every node that it meets whose kind has no rule, and goes on; a
strict run breaks off there. Until then the two do the same: they draw alike, log alike and give the
same values, functions apart, which remember the context that they were made in.

`Run.Simulates` says this of two runs. It looks at the records that the lenient run has added: if no
node without a rule is among them, the runs agree; otherwise the strict run has ended with the kind
of the first such node. Containment keeps the relation because it lets exactly that fault through.
-/

import Specimen.Proofs.Agreement

namespace Specimen

/-! ### Sessions up to strictness -/

/-- The context, strict about unknown kinds. -/
def Context.strict (context : Context) : Context :=
  { context with throwOnUnknownType := .bool true }

/-- The closure with its strictness forgotten. -/
def Closure.forgetStrictness (closure : Closure) : Closure :=
  { closure with context := { closure.context with throwOnUnknownType := .null } }

/-- Two sessions that are the same but for the strictness of the functions that were generated. -/
structure Session.SameButStrictness (first second : Session) : Prop where
  source : first.source = second.source
  fresh : first.fresh = second.fresh
  counters : first.counters = second.counters
  closures : first.closures.map (fun entry => (entry.1, entry.2.forgetStrictness)) =
    second.closures.map fun entry => (entry.1, entry.2.forgetStrictness)
  log : first.log = second.log

theorem Session.SameButStrictness.refl (session : Session) : session.SameButStrictness session :=
  ⟨rfl, rfl, rfl, rfl, rfl⟩

/-! ### Records of unknown kinds -/

namespace LogRecord

/-- The record of a node whose kind has no rule. -/
def unknownKind (tag : String) : LogRecord :=
  ⟨.debug, .generation, "No synthesizer for type '" ++ tag ++ "'"⟩

/-- No record is about a node without a rule. -/
def NoneUnknown (records : List LogRecord) : Prop := ∀ record ∈ records, ∀ tag, record ≠ unknownKind tag

/-- The first record about a node without a rule names a kind; the latest records come first. -/
def FirstUnknown (records : List LogRecord) (tag : String) : Prop :=
  ∃ later earlier, records = later ++ unknownKind tag :: earlier ∧ NoneUnknown earlier

theorem NoneUnknown.nil : NoneUnknown [] := List.forall_mem_nil _

/-- There is no unknown kind in two parts of a log if there is none in either. -/
theorem NoneUnknown.append {later earlier : List LogRecord} (ofLater : NoneUnknown later)
    (ofEarlier : NoneUnknown earlier) : NoneUnknown (later ++ earlier) :=
  List.forall_mem_append.2 ⟨ofLater, ofEarlier⟩

theorem NoneUnknown.singleton {record : LogRecord} (known : ∀ tag, record ≠ unknownKind tag) :
    NoneUnknown [record] := List.forall_mem_singleton.2 known

/-- Later records do not change which unknown kind came first. -/
theorem FirstUnknown.append {earlier : List LogRecord} {tag : String}
    (first : FirstUnknown earlier tag) (later : List LogRecord) : FirstUnknown (later ++ earlier) tag := by
  obtain ⟨between, before, rfl, known⟩ := first
  exact ⟨later ++ between, before, (List.append_assoc ..).symm, known⟩

/-- Earlier records without unknown kinds do not change which came first. -/
theorem FirstUnknown.after {later earlier : List LogRecord} {tag : String}
    (first : FirstUnknown later tag) (known : NoneUnknown earlier) :
    FirstUnknown (later ++ earlier) tag := by
  obtain ⟨between, before, rfl, unknown⟩ := first
  refine ⟨between, before ++ earlier, ?_, unknown.append known⟩
  rw [List.append_assoc, List.cons_append]

end LogRecord

open LogRecord (NoneUnknown FirstUnknown)

/-! ### The relation -/

/-- What a lenient and a strict run from alike sessions have come to, given the session that the
lenient one has started from. -/
inductive Compared {α : Type} (related : α → α → Prop) (before : Session) :
    Except Fault α × Session → Except Fault α × Session → Prop
  | alike {first second : Except Fault α} {after other : Session} {records : List LogRecord}
      (added : after.log = records ++ before.log) (known : NoneUnknown records)
      (ordinary : Ordinary first) (results : Results related first second)
      (sessions : after.SameButStrictness other) : Compared related before (first, after) (second, other)
  | stopped {first : Except Fault α} {after other : Session} {records : List LogRecord}
      {tag : String} (added : after.log = records ++ before.log) (unknown : FirstUnknown records tag)
      (ordinary : Ordinary first) (possible : ∀ value, first = .ok value → ∃ other, related value other) :
      Compared related before (first, after) (.error (.unknownType tag), other)

/-- The strict run does what the lenient one does until it meets a node without a rule. -/
def Run.Simulates {α : Type} (related : α → α → Prop) (lenient strict : Run α) : Prop :=
  ∀ first second, first.SameButStrictness second →
    Compared related first (lenient first) (strict second)

namespace Compared

variable {α : Type} {related : α → α → Prop} {before middle : Session}

/-- The lenient run has not failed with an unknown kind. -/
theorem ordinary {left right : Except Fault α × Session}
    (compared : Compared related before left right) : Ordinary left.1 := by
  cases compared with
  | alike _ _ ordinary _ _ => exact ordinary
  | stopped _ _ ordinary _ => exact ordinary

/-- Records that were there before and name no unknown kind change nothing. -/
theorem since {left right : Except Fault α × Session} {records : List LogRecord}
    (compared : Compared related middle left right) (added : middle.log = records ++ before.log)
    (known : NoneUnknown records) : Compared related before left right := by
  cases compared with
  | alike further unknown ordinary results sessions =>
    refine .alike ?_ (unknown.append known) ordinary results sessions
    rw [further, added, List.append_assoc]
  | stopped further unknown ordinary possible =>
    refine .stopped ?_ (unknown.after known) ordinary possible
    rw [further, added, List.append_assoc]

/-- After a record that names an unknown kind, the strict run has stopped. -/
theorem afterStop {left right : Except Fault α × Session} {records : List LogRecord} {tag : String}
    (compared : Compared related middle left right) (added : middle.log = records ++ before.log)
    (unknown : FirstUnknown records tag) (other : Session) :
    Compared related before left (.error (.unknownType tag), other) := by
  have both : ∀ {after : Session} {more : List LogRecord}, after.log = more ++ middle.log →
      after.log = (more ++ records) ++ before.log := by
    intro after more further
    rw [further, added, List.append_assoc]
  cases compared with
  | alike further known ordinary results sessions =>
    refine .stopped (both further) (unknown.append _) ordinary ?_
    rintro value rfl
    cases results with
    | ok alike => exact ⟨_, alike⟩
  | stopped further _ ordinary possible =>
    exact .stopped (both further) (unknown.append _) ordinary possible

end Compared

namespace Run.Simulates

variable {α β : Type} {related : α → α → Prop} {further : β → β → Prop}

theorem pure {value other : α} (alike : related value other) :
    Simulates related (pure value) (pure other) :=
  fun _ _ sessions => .alike rfl .nil (.ok _) (.ok alike) sessions

/-- A sequence is simulated step by step; once the strict run has stopped, the lenient one goes on
alone. -/
theorem bind {lenient strict : Run α} {next continued : α → Run β}
    (begun : Simulates related lenient strict)
    (goesOn : ∀ value other, related value other →
      Simulates further (next value) (continued other)) :
    Simulates further (lenient >>= next) (strict >>= continued) := by
  intro first second sessions
  have begins := begun first second sessions
  rw [bind_apply, bind_apply]
  revert begins
  rcases lenient first with ⟨result, after⟩
  rcases strict second with ⟨outcome, reached⟩
  intro begins
  cases begins with
  | alike added known ordinary results sessions =>
    cases results with
    | ok alike => exact (goesOn _ _ alike after reached sessions).since added known
    | error fault => exact .alike added known ordinary (.error fault) sessions
  | stopped added unknown ordinary possible =>
    cases result with
    | ok value =>
      obtain ⟨other, alike⟩ := possible value rfl
      exact (goesOn value other alike after after (.refl after)).afterStop added unknown reached
    | error fault => exact .stopped added unknown ordinary nofun

/-- An operation with ordinary faults is the same in both runs. -/
theorem lift {result : Except Fault α} (ordinary : Ordinary result) :
    Simulates Eq (lift result) (lift result) := by
  intro first second sessions
  rw [lift_apply, lift_apply]
  exact .alike rfl .nil ordinary (.refl (fun _ => rfl) result) sessions

theorem throw {fault : Fault} (ordinary : fault.isUnknownType = false) :
    Simulates related (throw fault) (throw fault) :=
  fun _ _ sessions => .alike rfl .nil ordinary (.error fault) sessions

/-- Both runs draw the same. -/
theorem draw (property : α → Prop) {drawing : Twister → α × Twister}
    (holds : ∀ twister, property (drawing twister).1) :
    Simulates (fun value other => value = other ∧ property value) (draw drawing) (draw drawing) := by
  intro first second sessions
  rw [draw_apply, draw_apply, ← sessions.source]
  refine .alike rfl .nil (.ok _) (.ok ⟨rfl, holds _⟩) ?_
  exact ⟨rfl, sessions.fresh, sessions.counters, sessions.closures, sessions.log⟩

theorem log (level : LogLevel) (origin : LogOrigin) (message : String)
    (known : ∀ tag, LogRecord.mk level origin message ≠ .unknownKind tag) :
    Simulates Eq (log level origin message) (log level origin message) := by
  intro first second sessions
  rw [log_apply, log_apply, ← sessions.log]
  have added : LogRecord.mk level origin message :: first.log =
      [LogRecord.mk level origin message] ++ first.log := rfl
  refine .alike added (.singleton known) (.ok _) (.ok rfl) ?_
  exact ⟨sessions.source, sessions.fresh, sessions.counters, sessions.closures, rfl⟩

theorem fresh : Simulates Eq fresh fresh := by
  intro first second sessions
  rw [fresh_apply, fresh_apply, ← sessions.fresh]
  refine .alike rfl .nil (.ok _) (.ok rfl) ?_
  exact ⟨sessions.source, rfl, sessions.counters, sessions.closures, sessions.log⟩

theorem copy (value : Value) : Simulates Eq (copy value) (copy value) := by
  intro first second sessions
  rw [copy_apply, copy_apply, ← sessions.fresh]
  refine .alike rfl .nil (.ok _) (.ok rfl) ?_
  exact ⟨sessions.source, rfl, sessions.counters, sessions.closures, sessions.log⟩

/-- A generated function remembers whether it is strict, which is not compared. -/
theorem newFunction (name : FunctionName) (returns : Option Schema) (context : Context) :
    Simulates Eq (newFunction name ⟨returns, context⟩) (newFunction name ⟨returns, context.strict⟩) := by
  intro first second sessions
  rw [newFunction_apply, newFunction_apply, ← sessions.fresh]
  refine .alike rfl .nil (.ok _) (.ok rfl) ?_
  refine ⟨sessions.source, rfl, sessions.counters, ?_, sessions.log⟩
  rw [List.map_cons, List.map_cons, sessions.closures]
  rfl

end Run.Simulates

/-! ### Nodes -/

section Nodes

variable {tag : String} {context : Context}

/-- The rule of a node: a contained fault leaves the same record on both sides, and the fault that
stops the strict run gets through. -/
theorem Make.filled_simulates {lenient strict : Run Value}
    (simulates : Run.Simulates Eq lenient strict) :
    Run.Simulates Eq (filled tag context lenient) (filled tag context.strict strict) := by
  intro first second sessions
  have rules := simulates first second sessions
  revert rules
  rcases ended : lenient first with ⟨result, after⟩
  rcases reached : strict second with ⟨outcome, other⟩
  intro rules
  cases rules with
  | alike added known ordinary results same =>
    cases results with
    | ok alike =>
      rw [filled_ok ended, filled_ok reached]
      exact .alike added known ordinary (.ok alike) same
    | error fault =>
      rw [filled_contained ordinary ended, filled_contained ordinary reached]
      have contained : ∀ kind, containedRecord tag context ≠ .unknownKind kind := nofun
      refine .alike ?_ (.append (.singleton contained) known) (.ok _) (.ok rfl) ?_
      · rw [added, List.append_assoc, List.singleton_append]
      · refine ⟨same.source, same.fresh, same.counters, same.closures, ?_⟩
        exact congrArg (containedRecord tag context :: ·) same.log
  | stopped added unknown ordinary possible =>
    rw [filled_unknown reached]
    cases result with
    | ok value =>
      rw [filled_ok ended]
      exact .stopped added unknown ordinary possible
    | error fault =>
      rw [filled_contained ordinary ended]
      have both : containedRecord tag context :: after.log =
          (containedRecord tag context :: _) ++ first.log := congrArg _ added
      exact .stopped both (unknown.append [_]) (.ok _) fun value _ => ⟨value, rfl⟩

/-- A node without a rule: the lenient run writes a record, and the strict run stops. -/
theorem Make.unfilled_simulates (lenient : context.throwOnUnknownType.isTruthy = false) :
    Run.Simulates Eq (unfilled tag context) (unfilled tag context.strict) := by
  intro first second sessions
  have skipped : unfilled tag context first =
      (.ok .absent, { first with log := .unknownKind tag :: first.log }) := by
    rw [unfilled, withoutRule, lenient]
    rfl
  have stopped : unfilled tag context.strict second = (.error (.unknownType tag), second) := rfl
  rw [skipped, stopped]
  have added : LogRecord.unknownKind tag :: first.log = [.unknownKind tag] ++ first.log := rfl
  exact .stopped added ⟨[], [], rfl, .nil⟩ (.ok _) fun value _ => ⟨value, rfl⟩

end Nodes

/-! ### Functions of the caller -/

/-- The runs do not tell strictness, leave records of unknown kinds to the library, and do not fail
with an unknown kind. -/
def Run.IgnoresStrictness {α : Type} (related : α → α → Prop) (first second : Run α) : Prop :=
  ∀ session other, session.SameButStrictness other →
    (∃ records, (first session).2.log = records ++ session.log ∧ NoneUnknown records) ∧
      Ordinary (first session).1 ∧ Results related (first session).1 (second other).1 ∧
      (first session).2.SameButStrictness (second other).2

theorem Run.IgnoresStrictness.simulates {α : Type} {related : α → α → Prop} {first second : Run α}
    (ignores : IgnoresStrictness related first second) : Simulates related first second := by
  intro session other sessions
  obtain ⟨⟨records, added, known⟩, ordinary, results, same⟩ := ignores session other sessions
  exact .alike added known ordinary results same

theorem Run.IgnoresStrictness.mono {α : Type} {related weaker : α → α → Prop}
    {first second : Run α} (ignores : IgnoresStrictness related first second)
    (implies : ∀ value other, related value other → weaker value other) :
    IgnoresStrictness weaker first second := by
  intro session other sessions
  obtain ⟨added, ordinary, results, same⟩ := ignores session other sessions
  exact ⟨added, ordinary, results.mono implies, same⟩

/-- A reply of a function of the caller as a value. -/
theorem Run.IgnoresStrictness.toValue {first second : Run Reply}
    (ignores : IgnoresStrictness (Reply.Alike (IgnoresStrictness Eq)) first second) :
    Simulates Eq (first >>= Reply.toValue) (second >>= Reply.toValue) := by
  refine .bind ignores.simulates fun reply other alike => ?_
  cases alike with
  | value returned => exact .pure rfl
  | generator alike => exact .bind .fresh fun value _ same => same ▸ .pure rfl

/-- The functions of the caller and the provider ignore strictness, and no definition was kept from
being built by an unknown kind. -/
structure Environment.IgnoresStrictness (environment : Environment) : Prop where
  provider : ∀ call, Run.IgnoresStrictness Eq (environment.provider call) (environment.provider call)
  node : ∀ hook schema context, Run.IgnoresStrictness (Reply.Alike (Run.IgnoresStrictness Eq))
    (environment.invoke hook (.onNode schema context))
    (environment.invoke hook (.onNode schema context.strict))
  invoke : ∀ hook invocation, Run.IgnoresStrictness (Reply.Alike (Run.IgnoresStrictness Eq))
    (environment.invoke hook invocation) (environment.invoke hook invocation)
  definitions : ∀ name fault, (name, .error fault) ∈ environment.definitions →
    fault.isUnknownType = false

namespace Environment.IgnoresStrictness

variable {environment : Environment} (ignores : environment.IgnoresStrictness)
include ignores

/-- A function of the caller replies alike in both runs. -/
theorem reply (hook : Hook) (invocation : Invocation) :
    Run.Simulates (Reply.Alike (Run.Simulates Eq)) (environment.invoke hook invocation)
      (environment.invoke hook invocation) := by
  have replies := ignores.invoke hook invocation
  exact (replies.mono fun _ _ alike => alike.mono fun _ _ runs => runs.simulates).simulates

theorem unresolved {schema : Schema} {fault : Fault}
    (found : schema.resolve environment.definitions = .error fault) :
    fault.isUnknownType = false := by
  unfold Schema.resolve at found
  split at found
  · cases found
    rfl
  · next name reference =>
    split at found
    · next definition listed =>
      exact ignores.definitions name fault (found ▸ mem_of_lookup listed)
    · cases found
      rfl

end Environment.IgnoresStrictness

/-- A strict run simulating a lenient one is a correspondence. -/
def Correspondence.strictness {environment : Environment}
    (ignores : environment.IgnoresStrictness) : Correspondence environment environment where
  twin := Context.strict
  suits _ context := context.throwOnUnknownType.isTruthy = false
  runs := Run.Simulates
  rules := Run.Simulates Eq
  pure := .pure
  bind := .bind
  lift := .lift
  draw property _ holds := .draw property holds
  log level origin message other := .log level origin message fun _ same =>
    other (congrArg LogRecord.origin same)
  fresh := .fresh
  copy := .copy
  newFunction name returns _ _ := .newFunction name returns _
  setting := .refl environment
  unresolved found := .throw (ignores.unresolved found)
  provider call := (ignores.provider call).simulates
  resolver _ _ _ := ignores.reply _ _
  mapper _ _ _ := ignores.reply _ _
  override _ _ := (ignores.node _ _ _).toValue
  bare hook := (ignores.invoke hook .bare).toValue
  onValue hook value := (ignores.invoke hook (.onValue value)).toValue
  rule := id
  thenRule := .bind
  filled _ := Make.filled_simulates
  unfilled := Make.unfilled_simulates
  choices _ := ⟨rfl, rfl, rfl, rfl, rfl, rfl, rfl, rfl⟩
  forKey _ _ := rfl
  deeper _ _ := Context.deeper_change rfl rfl fun _ => rfl
  fills := Context.lenient_fills
  follows := Context.lenient_follows

/-! ### Generation -/

/-- **Strict generation simulates lenient generation.** The lenient run gives a value. If it meets
no node without a rule, the strict run gives the same value in the same session; otherwise the
strict run fails with the kind of the first such node that the lenient run meets. -/
theorem generate_strict_simulates (environment : Environment)
    (ignores : environment.IgnoresStrictness) (schema : Schema) (context : Context)
    (lenient : context.throwOnUnknownType.isTruthy = false) (session : Session) :
    ∃ value after records,
      generate environment schema context session = (.ok value, after) ∧
        after.log = records ++ session.log ∧
        ((NoneUnknown records ∧ ∃ other,
            generate environment schema context.strict session = (.ok value, other) ∧
              after.SameButStrictness other) ∨
          ∃ tag other, FirstUnknown records tag ∧
            generate environment schema context.strict session =
              (.error (.unknownType tag), other)) := by
  have simulates : Run.Simulates Eq (generate environment schema context)
      (generate environment schema context.strict) :=
    (Correspondence.strictness ignores).generate lenient rfl
  have compared := simulates session session (.refl session)
  rcases ended : generate environment schema context session with ⟨fault | value, after⟩
  · have unknown := fault_of_generate ended
    rw [ended] at compared
    have known : fault.isUnknownType = false := compared.ordinary
    rw [known] at unknown
    cases unknown
  · rw [ended] at compared
    revert compared
    rcases generate environment schema context.strict session with ⟨outcome, other⟩
    intro compared
    cases compared with
    | alike added known ordinary results same =>
      cases results with
      | ok equal => exact ⟨value, after, _, rfl, added, .inl ⟨known, other, by rw [equal], same⟩⟩
    | stopped added unknown ordinary possible =>
      exact ⟨value, after, _, rfl, added, .inr ⟨_, other, unknown, rfl⟩⟩

/-- A tuple with a kind that has no rule between two that have one. -/
def mysteryTuple : Schema := .tuple [.boolean, .leaf (.other "mystery") {}, .null] none

/-- Both runs of a tuple with an unknown kind in the middle: the lenient one has a value, and the
strict one has the same or stops at the first unknown kind. -/
theorem mysteryTuple_strict_simulates :
    ∃ value after records,
      generate (.ofStock [] []) mysteryTuple {} (.start ⟨.ofSeed 0, .int 0⟩ 0) = (.ok value, after) ∧
        after.log = records ++ [] ∧
        ((NoneUnknown records ∧ ∃ other,
            generate (.ofStock [] []) mysteryTuple (Context.strict {}) (.start ⟨.ofSeed 0, .int 0⟩ 0) =
                (.ok value, other) ∧ after.SameButStrictness other) ∨
          ∃ tag other, FirstUnknown records tag ∧
            generate (.ofStock [] []) mysteryTuple (Context.strict {}) (.start ⟨.ofSeed 0, .int 0⟩ 0) =
              (.error (.unknownType tag), other)) := by
  have fails : ∀ {α : Type} {related : α → α → Prop} {fault : Fault},
      fault.isUnknownType = false → Run.IgnoresStrictness related (throw fault) (throw fault) :=
    fun known _ _ sessions => ⟨⟨[], rfl, .nil⟩, known, .error _, sessions⟩
  exact generate_strict_simulates (.ofStock [] [])
    ⟨fun _ => fails rfl, fun _ _ _ => fails rfl, fun _ _ => fails rfl, nofun⟩ mysteryTuple {} rfl
    (.start ⟨.ofSeed 0, .int 0⟩ 0)

end Specimen
