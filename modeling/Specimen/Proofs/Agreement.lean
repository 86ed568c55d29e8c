/-
**Runs that agree.**

Two runs agree up to a relation between sessions if from related sessions they lead to related
sessions, and to related values or to the same fault. Up to equality this is a correspondence
whatever the environment, `Correspondence.equality`: it shows that two ways of filling a node are
the same run once they fill the same children alike.
-/

import Specimen.Callback
import Specimen.Proofs.Runs
import Specimen.Proofs.Simulation

namespace Specimen

/-- Two results: related values, or the same fault. -/
inductive Results {α : Type} (related : α → α → Prop) : Except Fault α → Except Fault α → Prop
  | ok {value other : α} (alike : related value other) : Results related (.ok value) (.ok other)
  | error (fault : Fault) : Results related (.error fault) (.error fault)

namespace Results

variable {α : Type} {first second : Except Fault α}

theorem eq (alike : Results Eq first second) : first = second := by
  cases alike with
  | ok alike => rw [alike]
  | error fault => rfl

theorem refl {related : α → α → Prop} (reflexive : ∀ value, related value value)
    (result : Except Fault α) : Results related result result := by
  cases result with
  | ok value => exact .ok (reflexive value)
  | error fault => exact .error fault

theorem mono {related weaker : α → α → Prop} (alike : Results related first second)
    (implies : ∀ value other, related value other → weaker value other) :
    Results weaker first second := by
  cases alike with
  | ok alike => exact .ok (implies _ _ alike)
  | error fault => exact .error fault

end Results

namespace Run

variable {α β : Type}

/-- From related sessions, the runs lead to related sessions and results. -/
def Agree (sessions : Session → Session → Prop) (related : α → α → Prop) (left right : Run α) :
    Prop :=
  ∀ first second, sessions first second →
    Results related (left first).1 (right second).1 ∧ sessions (left first).2 (right second).2

namespace Agree

variable {sessions : Session → Session → Prop} {related : α → α → Prop} {further : β → β → Prop}

theorem pure {value other : α} (alike : related value other) :
    Agree sessions related (pure value) (pure other) :=
  fun _ _ same => ⟨.ok alike, same⟩

/-- Sequences agree if their first runs do and what follows agrees on alike values. -/
theorem bind {left right : Run α} {next continued : α → Run β}
    (begun : Agree sessions related left right)
    (goesOn : ∀ value other, related value other →
      Agree sessions further (next value) (continued other)) :
    Agree sessions further (left >>= next) (right >>= continued) := by
  intro first second same
  have begins := begun first second same
  rw [bind_apply, bind_apply]
  revert begins
  rcases left first with ⟨result, reached⟩
  rcases right second with ⟨other, arrived⟩
  rintro ⟨results, after⟩
  cases results with
  | ok alike => exact goesOn _ _ alike reached arrived after
  | error fault => exact ⟨.error fault, after⟩

theorem throw (fault : Fault) : Agree sessions related (throw fault) (throw fault) :=
  fun _ _ same => ⟨.error fault, same⟩

theorem lift (result : Except Fault α) : Agree sessions Eq (lift result) (lift result) := by
  intro first second same
  rw [lift_apply, lift_apply]
  exact ⟨.refl (fun _ => rfl) result, same⟩

/-- The relation between sessions is kept by the steps of a run that both sides make. -/
structure KeptBySteps (sessions : Session → Session → Prop) : Prop where
  source : ∀ {first second}, sessions first second → first.source = second.source
  fresh : ∀ {first second}, sessions first second → first.fresh = second.fresh
  withSource : ∀ {first second} source, sessions first second →
    sessions { first with source := source } { second with source := source }
  withFresh : ∀ {first second} fresh, sessions first second →
    sessions { first with fresh := fresh } { second with fresh := fresh }
  withRecord : ∀ {first second} record, sessions first second →
    sessions { first with log := record :: first.log } { second with log := record :: second.log }
  withClosure : ∀ {first second} closure, sessions first second →
    sessions { first with closures := closure :: first.closures }
      { second with closures := closure :: second.closures }

section Steps

variable (kept : KeptBySteps sessions)
include kept

/-- Runs that draw the same agree where sessions that are alike have the same generator. -/
theorem draw (property : α → Prop) {drawing : Twister → α × Twister}
    (holds : ∀ twister, property (drawing twister).1) :
    Agree sessions (fun value other => value = other ∧ property value) (draw drawing)
      (draw drawing) := by
  intro first second same
  rw [draw_apply, draw_apply, ← kept.source same]
  exact ⟨.ok ⟨rfl, holds _⟩, kept.withSource _ same⟩

/-- Runs that log the same agree. -/
theorem log (level : LogLevel) (origin : LogOrigin) (message : String) :
    Agree sessions Eq (log level origin message) (log level origin message) := by
  intro first second same
  rw [log_apply, log_apply]
  exact ⟨.ok rfl, kept.withRecord _ same⟩

theorem fresh : Agree sessions Eq fresh fresh := by
  intro first second same
  rw [fresh_apply, fresh_apply, ← kept.fresh same]
  exact ⟨.ok rfl, kept.withFresh _ same⟩

theorem copy (value : Value) : Agree sessions Eq (copy value) (copy value) := by
  intro first second same
  rw [copy_apply, copy_apply, ← kept.fresh same]
  exact ⟨.ok rfl, kept.withFresh _ same⟩

/-- Runs that make the same function agree where sessions that are alike give it the same identity.
-/
theorem newFunction (name : FunctionName) (closure : Closure) :
    Agree sessions Eq (newFunction name closure) (newFunction name closure) := by
  intro first second same
  rw [newFunction_apply, newFunction_apply, ← kept.fresh same]
  exact ⟨.ok rfl, kept.withClosure (first.fresh, closure) (kept.withFresh (first.fresh + 1) same)⟩

/-- A reply of a function of the caller as a value. -/
theorem toValue {left right : Run Reply} {generators : Run Value → Run Value → Prop}
    (replies : Agree sessions (Reply.Alike generators) left right) :
    Agree sessions Eq (left >>= Reply.toValue) (right >>= Reply.toValue) := by
  refine bind replies fun reply other alike => ?_
  cases alike with
  | value returned => exact pure rfl
  | generator alike => exact bind (fresh kept) fun value _ same => same ▸ pure rfl

end Steps

/-- Every run agrees with itself from equal sessions. -/
theorem self (reflexive : ∀ value, related value value) (action : Run α) :
    Agree Eq related action action := by
  intro first second same
  rw [same]
  exact ⟨.refl reflexive _, rfl⟩

/-- Every run agrees with itself on equal sessions. -/
theorem refl (action : Run α) : Agree Eq Eq action action := self (fun _ => rfl) action

theorem of_eq {left right : Run α} (same : left = right) : Agree Eq Eq left right :=
  same ▸ refl left

/-- Runs that agree on equal sessions are equal. -/
theorem eq {left right : Run α} (agree : Agree Eq Eq left right) : left = right := by
  funext session
  obtain ⟨results, after⟩ := agree session session rfl
  exact Prod.ext results.eq after

end Agree

end Run

theorem Reply.Alike.mono {related weaker : Run Value → Run Value → Prop} {reply other : Reply}
    (alike : Reply.Alike related reply other)
    (implies : ∀ first second, related first second → weaker first second) :
    Reply.Alike weaker reply other := by
  cases alike with
  | value returned => exact .value returned
  | generator alike => exact .generator (implies _ _ alike)

theorem Reply.Alike.refl {related : Run Value → Run Value → Prop}
    (reflexive : ∀ action, related action action) (reply : Reply) :
    Reply.Alike related reply reply := by
  cases reply with
  | value returned => exact .value returned
  | generator make => exact .generator (reflexive make)

/-- An environment whose functions of the caller come from the stock, and without a provider. -/
def Environment.ofStock (definitions : Schema.Definitions) (stock : List Callback) :
    Environment where
  definitions := definitions
  provider _ := throw .missingPart
  words := []
  sample _ _ _ := .ok ""
  invoke hook := (stock[hook.id]?.getD (.fail .wrongType)).invoke fun _ => throw .missingPart
  today := ⟨0, none⟩

/-! ### Equality -/

theorem Context.forKey_id (context : Context) (name : Value) :
    id (context.forKey name) = (id context).forKey name := rfl

theorem Context.deeper_id (context : Context) :
    (id context).deeper = context.deeper.map (Option.map id) := by
  rw [Option.map_id, Except.map_id]
  rfl

/-- Equality of runs is a correspondence, in contexts with any property that the contexts of the
calls of a node inherit. -/
def Correspondence.equality (environment : Environment) (suits : Schema → Context → Prop)
    (fills : ∀ {schema child : Schema} {context below : Context}, suits schema context →
      schema.Fills context child below → suits child below)
    (follows : ∀ {schema target : Schema} {context below : Context}, suits schema context →
      schema.Follows environment.definitions context target below → suits target below) :
    Correspondence environment environment where
  twin := id
  suits := suits
  runs := Run.Agree Eq
  rules := Run.Agree Eq Eq
  pure := Run.Agree.pure
  bind := Run.Agree.bind
  lift _ := Run.Agree.refl _
  draw property drawing holds := by
    rintro first second rfl
    exact ⟨.ok ⟨rfl, holds _⟩, rfl⟩
  log _ _ _ _ := Run.Agree.refl _
  fresh := Run.Agree.refl _
  copy _ := Run.Agree.refl _
  newFunction _ _ _ _ := Run.Agree.refl _
  setting := .refl environment
  unresolved _ := Run.Agree.refl _
  provider _ := Run.Agree.refl _
  resolver _ _ _ := Run.Agree.self (Reply.Alike.refl Run.Agree.refl) _
  mapper _ _ _ := Run.Agree.self (Reply.Alike.refl Run.Agree.refl) _
  override _ _ := Run.Agree.refl _
  bare _ := Run.Agree.refl _
  onValue _ _ := Run.Agree.refl _
  rule := id
  thenRule := Run.Agree.bind
  filled _ agree := by
    rw [agree.eq]
    exact Run.Agree.refl _
  unfilled _ := Run.Agree.refl _
  choices := Context.SameChoices.refl
  forKey := Context.forKey_id
  deeper _ _ := Context.deeper_id _
  fills := fills
  follows := follows

end Specimen
