/-
**What generation does not look at.**

A relation between sessions says in what two sessions may differ. If the steps of a run keep the
relation and the provider and the functions of the caller respect it, then so does generation: from
related sessions it makes the same sample and leaves related sessions. The log is such a difference,
`Session.SameButLog`: nothing in a run reads it.
-/

import Specimen.Proofs.Agreement
import Specimen.Proofs.Numbered

namespace Specimen

open Run (Agree)

theorem Run.Agree.mono {α : Type} {sessions : Session → Session → Prop}
    {related weaker : α → α → Prop} {left right : Run α} (agree : Agree sessions related left right)
    (implies : ∀ value other, related value other → weaker value other) :
    Agree sessions weaker left right := fun first second same =>
  ⟨(agree first second same).1.mono implies, (agree first second same).2⟩

/-- From related sessions the provider and the functions of the caller lead to the same replies and
to related sessions. -/
structure Environment.Respects (environment : Environment) (alike : Session → Session → Prop) :
    Prop where
  provider : ∀ call, Agree alike Eq (environment.provider call) (environment.provider call)
  invoke : ∀ hook invocation, Agree alike (Reply.Alike (Agree alike Eq))
    (environment.invoke hook invocation) (environment.invoke hook invocation)

variable {environment : Environment} {alike : Session → Session → Prop}

/-- Every environment respects equality. -/
theorem Environment.respects_eq (environment : Environment) : environment.Respects Eq where
  provider _ := .refl _
  invoke _ _ := .self (Reply.Alike.refl .refl) _

section Kept

variable (kept : Agree.KeptBySteps alike)
include kept

/-- The numbered provider only draws. -/
theorem Environment.numbered_respects (definitions : Schema.Definitions) :
    (numbered definitions).Respects alike where
  provider call := by
    refine .bind (.draw kept (fun _ => True) fun _ => True.intro) fun number other equal => ?_
    exact equal.1 ▸ .lift _
  invoke _ _ := .throw _

/-! ### Nodes -/

namespace Make

variable {tag : String} {context : Context}

/-- Where both rules fail the node is absent on both sides, so absence has to be related to itself.
-/
theorem filled_alike {related : Value → Value → Prop} (absent : related .absent .absent)
    {left right : Run Value} (rules : Agree alike related left right) :
    Agree alike related (filled tag context left) (filled tag context right) := by
  intro first second same
  have outcomes := rules first second same
  revert outcomes
  rcases made : left first with ⟨result, after⟩
  rcases reached : right second with ⟨outcome, other⟩
  rintro ⟨results, still⟩
  cases results with
  | ok agree =>
    rw [filled_ok made, filled_ok reached]
    exact ⟨.ok agree, still⟩
  | error fault =>
    cases unknown : fault.isUnknownType with
    | false =>
      rw [filled_contained unknown made, filled_contained unknown reached]
      exact ⟨.ok absent, kept.withRecord _ still⟩
    | true =>
      cases fault with
      | unknownType kind =>
        rw [filled_unknown made, filled_unknown reached]
        exact ⟨.error _, still⟩
      | _ => cases unknown

theorem unfilled_alike :
    Agree alike Eq (unfilled tag context) (unfilled tag context) := by
  have outcome : Agree alike Eq (withoutRule tag context) (withoutRule tag context) := by
    unfold withoutRule
    split
    · exact .throw _
    · exact .bind (.log kept _ _ _) fun _ _ _ => .pure rfl
  exact .bind outcome fun _ _ same => same ▸ .pure rfl

end Make

/-! ### The correspondence -/

/-- Generation from related sessions corresponds to itself. -/
def Correspondence.indifference (respects : environment.Respects alike) :
    Correspondence environment environment where
  twin := id
  suits _ _ := True
  runs := Agree alike
  rules := Agree alike Eq
  pure := .pure
  bind := .bind
  lift _ := .lift _
  draw property _ holds := .draw kept property holds
  log level origin message _ := .log kept level origin message
  fresh := .fresh kept
  copy := .copy kept
  newFunction name _ _ _ := .newFunction kept name _
  setting := .refl environment
  unresolved _ := .throw _
  provider := respects.provider
  resolver key _ _ := respects.invoke _ (.onKey key)
  mapper key _ _ := respects.invoke _ (.onKey key)
  override _ _ := .toValue kept (respects.invoke _ _)
  bare hook := .toValue kept (respects.invoke hook .bare)
  onValue hook value := .toValue kept (respects.invoke hook (.onValue value))
  rule := id
  thenRule := .bind
  filled _ := Make.filled_alike kept rfl
  unfilled _ := Make.unfilled_alike kept
  choices := Context.SameChoices.refl
  forKey := Context.forKey_id
  deeper _ _ := Context.deeper_id _
  fills _ _ := True.intro
  follows _ _ := True.intro

/-- From related sessions the same sample is made. -/
theorem generate_alike (respects : environment.Respects alike) (schema : Schema)
    (context : Context) :
    Agree alike Eq (generate environment schema context) (generate environment schema context) :=
  (Correspondence.indifference kept respects).generate True.intro rfl

end Kept

/-! ### The log -/

/-- Two sessions that are the same but for their logs. -/
structure Session.SameButLog (first second : Session) : Prop where
  source : first.source = second.source
  fresh : first.fresh = second.fresh
  counters : first.counters = second.counters
  closures : first.closures = second.closures

namespace Session.SameButLog

theorem refl (session : Session) : session.SameButLog session := ⟨rfl, rfl, rfl, rfl⟩

theorem kept : Agree.KeptBySteps SameButLog where
  source same := same.source
  fresh same := same.fresh
  withSource _ same := ⟨rfl, same.fresh, same.counters, same.closures⟩
  withFresh _ same := ⟨same.source, rfl, same.counters, same.closures⟩
  withRecord _ same := ⟨same.source, same.fresh, same.counters, same.closures⟩
  withClosure closure same :=
    ⟨same.source, same.fresh, same.counters, congrArg (closure :: ·) same.closures⟩

end Session.SameButLog

end Specimen
