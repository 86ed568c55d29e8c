/-
**Overrides do not influence generation.**

A call of a factory makes a sample and lays attributes over it; only then it looks whether the
result may be made and, if it is asked to, whether it conforms. So a call leaves the source and the
session as the sample left them, whatever the attributes are and whether the call succeeds
(`Factory.answer_eq`), and what it does not override is the sample's own
(`Factory.lookup_of_finished`). Two sequences of calls, with whatever overrides, then go along with
each other (`Factory.answers_agree`).
-/

import Specimen.Factory
import Specimen.Proofs.Numbered
import Specimen.Proofs.Overlaying

namespace Specimen

open Value (lookup? HaveKeys)

theorem Run.bind_lift_apply {α β : Type} (action : Run α) (next : α → Except Fault β)
    (session : Session) :
    (action >>= fun value => lift (next value)) session =
      ((action session).1 >>= next, (action session).2) := by
  rw [bind_apply]
  rcases action session with ⟨fault | value, after⟩
  · rfl
  · exact lift_apply (next value) after

/-- The session on another source. -/
def Session.on (session : Session) (source : Source) : Session := { session with source := source }

namespace Factory

/-! ### Calls -/

/-- A call for a sample, with attributes that override fields. -/
inductive Call where
  | raw (attributes : Value)
  | create (attributes : Value)

namespace Call

/-- The attributes of a call. -/
def attributes : Call → Value
  | .raw attributes => attributes
  | .create attributes => attributes

/-- The entries that a call lays over a sample. -/
def entries (call : Call) : List (Value × Value) := call.attributes.entries

/-- Two results agree, where both are dictionaries, on every key that neither call overrides. -/
def Agree (call other : Call) (result outcome : Except Fault Value) : Prop :=
  ∀ entries more key, result = .ok (.dictionary entries) → outcome = .ok (.dictionary more) →
    key.isHashable = true → lookup? call.entries key = none → lookup? other.entries key = none →
    lookup? entries key = lookup? more key

end Call

/-- What a call runs. -/
def call (environment : Environment) (factory : Factory) : Call → Run Value
  | .raw attributes => factory.raw environment attributes
  | .create attributes => factory.create environment attributes

/-- What is left after a call. -/
structure Answer where
  result : Except Fault Value
  factory : Factory
  session : Session

/-- Makes a call. -/
def answer (environment : Environment) (factory : Factory) (session : Session) (call : Call) :
    Answer :=
  let (result, factory, session) := factory.perform (factory.call environment call) session
  ⟨result, factory, session⟩

/-- Makes one call after another. -/
def answers (environment : Environment) (factory : Factory) (session : Session) :
    List Call → List Answer
  | [] => []
  | call :: calls =>
    let first := factory.answer environment session call
    first :: answers environment first.factory first.session calls

/-! ### One call -/

variable (environment : Environment) (factory : Factory)

/-- A sample, if it conforms to a schema. -/
def conforming (schema : Schema) (made : Value) : Except Fault Value := do
  match ← safeParse environment.definitions schema made with
  | .accepted value => .ok value
  | .rejected issues => .error (.invalidInput issues)

/-- What a call makes of a sample. -/
def finished (schema : Schema) : Call → Value → Except Fault Value
  | .raw attributes, made => overlay made attributes
  | .create attributes, made => do conforming environment schema (← overlay made attributes)

/-- A checked sample is a raw one that conforms. -/
theorem create_eq (attributes : Value) :
    factory.create environment attributes = (do
      Run.lift (conforming environment factory.schema (← factory.raw environment attributes))) := by
  unfold create conforming
  refine congrArg _ (funext fun made => ?_)
  cases safeParse environment.definitions factory.schema made with
  | error fault => rfl
  | ok parsed => cases parsed <;> rfl

/-- A call is a sample and what is made of it. -/
theorem call_eq (call : Call) :
    factory.call environment call = (do
      Run.lift (finished environment factory.schema call (← factory.sample environment))) := by
  cases call with
  | raw attributes => rfl
  | create attributes =>
    rw [Factory.call, create_eq, raw, bind_assoc]
    refine congrArg _ (funext fun made => ?_)
    rw [finished]
    cases overlay made attributes <;> rfl

theorem answer_eq (session : Session) (call : Call) :
    factory.answer environment session call =
      { result := (factory.sample environment (session.on factory.source)).1 >>=
          finished environment factory.schema call
        factory := { factory with source :=
          (factory.sample environment (session.on factory.source)).2.source }
        session := { (factory.sample environment (session.on factory.source)).2 with
          source := session.source } } := by
  have ran : (factory.call environment call).run { session with source := factory.source } =
      ((factory.sample environment (session.on factory.source)).1 >>=
          finished environment factory.schema call,
        (factory.sample environment (session.on factory.source)).2) := by
    rw [call_eq]
    exact Run.bind_lift_apply _ _ _
  unfold answer perform
  rw [ran]

variable {environment factory}

/-- Only attributes that are a dictionary, or none, are laid over a sample. -/
theorem overlay_eq_ok {made attributes : Value} {entries : List (Value × Value)}
    (laid : overlay made attributes = .ok (.dictionary entries)) :
    ∃ base more, made = .dictionary base ∧ entries = Value.putAll base more ∧
      (more = [] ∨ attributes = .dictionary more) := by
  unfold overlay at laid
  split at laid
  · cases laid
    exact ⟨entries, [], rfl, rfl, .inl rfl⟩
  · split at laid <;> cases laid
    exact ⟨_, _, rfl, rfl, .inr rfl⟩

/-- A sample that conforms is left as it is. -/
theorem conforming_eq {schema : Schema} {made value : Value}
    (given : conforming environment schema made = .ok value) : made = value := by
  unfold conforming safeParse at given
  cases judged : validate environment.definitions schema made [] with
  | error fault =>
    rw [judged] at given
    cases given
  | ok issues =>
    rw [judged] at given
    cases issues with
    | nil =>
      cases given
      rfl
    | cons issue issues => cases given

/-- What a call gives was laid over the sample. -/
theorem overlay_of_finished {call : Call} {made value : Value}
    (given : finished environment factory.schema call made = .ok value) :
    overlay made call.attributes = .ok value := by
  cases call with
  | raw attributes => exact given
  | create attributes =>
    rw [finished] at given
    cases laid : overlay made attributes with
    | error fault =>
      rw [laid] at given
      cases given
    | ok found =>
      rw [laid] at given
      rw [Call.attributes, laid, conforming_eq given]

/-- A key that a call does not override is the sample's own. -/
theorem lookup_of_finished {call : Call} {made : Value} {entries : List (Value × Value)}
    {key : Value}
    (given : finished environment factory.schema call made = .ok (.dictionary entries))
    (free : lookup? call.entries key = none) :
    ∃ base, made = .dictionary base ∧ lookup? entries key = lookup? base key := by
  obtain ⟨base, more, isBase, laid, source⟩ := overlay_eq_ok (overlay_of_finished given)
  refine ⟨base, isBase, ?_⟩
  rw [laid]
  rcases source with rfl | isMore
  · rfl
  · have same : call.entries = more := by
      rw [Call.entries, isMore]
      rfl
    rw [same] at free
    have unlisted : lookup? more.reverse key = none := by
      rw [Value.lookup_eq_none_iff] at free ⊢
      exact fun entry mem => free entry (List.mem_reverse.1 mem)
    rw [Value.lookup_putAll, unlisted, Option.none_or]

/-! ### Sequences of calls -/

/-- **Overrides do not influence generation.** Two sequences of as many calls, on factories that are
alike, leave the sources and the sessions the same after each call, also where calls fail; and where
both calls give dictionaries these agree on every key that neither call overrides. -/
theorem answers_agree (environment : Environment) (factory : Factory) (session : Session)
    (calls : List (Call × Call)) :
    List.Forall₂
      (fun pair (answers : Answer × Answer) =>
        answers.1.factory.source = answers.2.factory.source ∧
        answers.1.session = answers.2.session ∧
        pair.1.Agree pair.2 answers.1.result answers.2.result)
      calls
      ((factory.answers environment session (calls.map (·.1))).zip
        (factory.answers environment session (calls.map (·.2)))) := by
  induction calls generalizing factory session with
  | nil => exact .nil
  | cons pair calls hypothesis =>
    simp only [List.map_cons, answers, List.zip_cons_cons, answer_eq]
    refine .cons ⟨rfl, rfl, ?_⟩ (hypothesis _ _)
    intro entries more key given found _ free unlisted
    revert given found
    cases (factory.sample environment (session.on factory.source)).1 with
    | error fault => exact fun given => nomatch given
    | ok made =>
      intro given found
      obtain ⟨base, isBase, same⟩ := lookup_of_finished given free
      obtain ⟨other, isOther, alsoSame⟩ := lookup_of_finished found unlisted
      cases isBase.symm.trans isOther
      exact same.trans alsoSame.symm

/-- A factory of objects with a label and a size. -/
def parcels : Factory where
  schema := .object [("label", .string), ("size", .number)]
  callback := none
  layers := []
  seed := .int 1
  settings := []
  source := ⟨.ofSeed 1, .int 1⟩

/-- Calls for parcels with a label, of which the second asks for a label that does not conform, and
then calls with a size, of which the first asks for attributes that are no dictionary. -/
def parcelCalls : List (Call × Call) :=
  [(.raw (.dictionary [(.text "label", .text "fragile")]),
      .create (.dictionary [(.text "label", .int 3), (.int 1, .null)])),
    (.create (.list [.null]), .raw (.dictionary [(.text "size", .int 2)]))]

/-- The parcels are the same but for their labels and sizes, whether or not a call fails. -/
theorem parcels_agree :
    List.Forall₂
      (fun pair (answers : Answer × Answer) =>
        answers.1.factory.source = answers.2.factory.source ∧
        answers.1.session = answers.2.session ∧
        pair.1.Agree pair.2 answers.1.result answers.2.result)
      parcelCalls
      ((parcels.answers (.numbered []) (.start parcels.source 0) (parcelCalls.map (·.1))).zip
        (parcels.answers (.numbered []) (.start parcels.source 0) (parcelCalls.map (·.2)))) :=
  answers_agree (.numbered []) parcels (.start parcels.source 0) parcelCalls

end Factory

end Specimen
