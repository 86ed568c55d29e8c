/-
**What is picked for a field.**

The name of a field decides where its text comes from: one of the categories, or what the resolver,
the mapper or the catalog has for it, or just a word. If what is picked makes a value and the
provider has words, then the field has a text, whatever the length that is aimed at.
-/

import Specimen.Proofs.CatalogIndex
import Specimen.Proofs.Sizes

namespace Specimen

open Run (Gives)

/-- The provider has words: any word, and one for a pattern of letters. -/
structure Environment.HasWords (environment : Environment) : Prop where
  any : Gives (environment.ask "word") fun _ => True
  madeUp : ∀ pattern, Gives (environment.provider ⟨"lexify", [.text pattern], []⟩) fun _ => True

/-- A field has a name that is a text, and the generator that is picked for it by its name makes a
value. -/
structure Context.Picks (environment : Environment) (context : Context) : Prop where
  named : context.keyName.isTruthy = true → ∃ name, context.keyName = .text name
  category : ∀ field source, TextSynthesis.fieldName context = .ok field →
    TextSynthesis.category? field [] = some source →
    Gives (source.make environment context) fun _ => True
  resolved : ∀ field, TextSynthesis.fieldName context = .ok field →
    TextSynthesis.category? field [] = none → context.keyName.isTruthy = true →
    Gives (TextSynthesis.resolved environment context) fun reply =>
      reply.isNull = true ∨ Gives reply.call fun _ => True

namespace TextSynthesis

variable {environment : Environment} {context : Context}

theorem word_gives (words : environment.HasWords) {count : Nat}
    (short : (count : Int) < Draw.lengthBound) :
    Gives (Draw.word environment (.int count)) fun _ => True := by
  have notNull : (Value.int count).isNull ≠ true := nofun
  unfold Draw.word
  rw [if_neg notNull, Value.compares_of_toInt .lessEqual rfl rfl, Run.lift_ok, pure_bind]
  split
  · exact Gives.pure True.intro
  · simp only
    split
    · unfold Draw.madeUpWord
      simp only [Value.toInt?]
      rw [if_neg (by omega)]
      exact words.madeUp _
    · next candidates =>
      have nonempty : environment.wordsOfLength (.int count) ≠ [] := by
        rintro none
        rw [none] at candidates
        exact candidates rfl
      exact (Draw.member_gives nonempty).bind fun _ _ => Gives.pure True.intro

/-- Where nothing is picked there is a word. -/
theorem plainWord_gives (words : environment.HasWords) (target : Nat) :
    Gives (plainWord environment target) fun _ => True := by
  unfold plainWord
  by_cases long : usualLength < (target : Int)
  · rw [if_pos long]
    exact words.any
  · rw [if_neg long]
    have usual : usualLength < Draw.lengthBound := by decide
    exact word_gives words (by omega)

/-- A text is found for the field. -/
theorem rawText_gives (words : environment.HasWords) (picks : context.Picks environment)
    (target : Nat) : Gives (rawText environment {} context target) fun _ => True := by
  obtain ⟨field, isField⟩ : ∃ field, fieldName context = .ok field := by
    unfold fieldName
    by_cases truthy : context.keyName.isTruthy = true
    · obtain ⟨name, isName⟩ := picks.named truthy
      rw [if_pos truthy, isName]
      exact ⟨_, rfl⟩
    · rw [if_neg truthy]
      exact ⟨none, rfl⟩
  unfold rawText
  rw [isField, Run.lift_ok, pure_bind]
  cases found : category? field ({} : TextBounds).formats with
  | some source =>
    have made := picks.category field source isField found
    exact made.bind fun _ _ => Gives.pure True.intro
  | none =>
    have text : Gives (fieldText environment context target) fun _ => True := by
      unfold fieldText
      by_cases truthy : context.keyName.isTruthy = true
      · rw [if_pos truthy]
        refine (picks.resolved field isField found truthy).bind fun reply picked => ?_
        by_cases isNull : reply.isNull = true
        · rw [if_pos isNull]
          exact plainWord_gives words target
        · rw [if_neg isNull]
          exact picked.resolve_left isNull
      · rw [if_neg truthy]
        exact plainWord_gives words target
    exact text.bind fun _ _ => Gives.pure True.intro

end TextSynthesis

/-! ### Providers -/

/-- The provider answers whatever may be asked for a field, with dates that go back from a
reference. -/
structure Environment.AnswersFields (environment : Environment) (reference : Moment) : Prop where
  sources : ∀ name, .provided name ∈ TextSynthesis.categories.map (·.2) →
    Gives (environment.ask name) fun _ => True
  mapped : ∀ name call, Catalog.mapped? name = some call →
    Gives (environment.provider call) fun _ => True
  entries : ∀ entry ∈ catalog, entry.domain.isPrimitive = true →
    Gives (entry.request.make environment (.moment reference)) fun _ => True

namespace Environment.AnswersFields

variable {environment : Environment} {reference : Moment} {context : Context}
variable (answers : environment.AnswersFields reference)
variable (isReference : environment.referenceDate context = .moment reference)

include answers isReference

/-- A text comes from its category. -/
theorem category (late : microsPerDay ≤ reference.wall) (valid : reference.wall < Moment.limit)
    {field : Option String} {source : TextSynthesis.TextSource}
    (found : TextSynthesis.category? field [] = some source) :
    Gives (source.make environment context) fun _ => True := by
  obtain ⟨entry, listed, rfl⟩ := Option.map_eq_some_iff.1 found
  have mem := List.mem_map_of_mem (f := (·.2)) (List.mem_of_find?_eq_some listed)
  cases isSource : entry.2 with
  | provided name => exact answers.sources name (isSource ▸ mem)
  | recentMoment =>
    unfold TextSynthesis.TextSource.make
    rw [isReference]
    have day : 1 * microsPerDay ≤ reference.wall := by omega
    refine (Draw.recent_gives (by decide) day valid).bind fun moment _ => Gives.pure True.intro

/-- What mapper and catalog pick for a field makes a value, if they pick anything. -/
theorem picked (noMapper : context.mapper = none) {name : String}
    (isName : context.keyName = .text name) :
    Gives (Catalog.generator environment context.mapper (environment.referenceDate context)
      context.keyName) fun reply => reply.isNull = true ∨ Gives reply.call fun _ => True := by
  have mapped : Gives (Catalog.askMapper environment none (.text name)) fun reply =>
      reply.isTruthy = true → Gives reply.call fun _ => True := by
    show Gives (Catalog.builtinMapper environment (.text name)) _
    unfold Catalog.builtinMapper
    by_cases truthy : (Value.text name).isTruthy = true
    · rw [truthy, Catalog.nameText, Run.lift_ok, pure_bind]
      cases found : Catalog.mapped? (lowerCase name) with
      | some call => exact Gives.pure fun _ => answers.mapped _ call found
      | none => exact Gives.pure fun truthy => absurd truthy Bool.false_ne_true
    · rw [eq_false_of_ne_true truthy]
      exact Gives.pure fun truthy => absurd truthy Bool.false_ne_true
  rw [noMapper, isName, isReference]
  refine mapped.bind fun reply made => ?_
  split
  · next truthy => exact Gives.pure (.inr (made truthy))
  · rw [Catalog.nameText, Run.lift_ok, pure_bind]
    split
    · exact Gives.pure (.inl rfl)
    · next entry found =>
      obtain ⟨mem, primitive⟩ := Catalog.of_select found
      exact Gives.pure (.inr (answers.entries entry mem primitive))

/-- Where the provider answers, every field has a generator that makes a value. -/
theorem picks (late : microsPerDay ≤ reference.wall) (valid : reference.wall < Moment.limit)
    (noMapper : context.mapper = none) (noResolver : context.resolver = none)
    (named : context.keyName.isTruthy = true → ∃ name, context.keyName = .text name) :
    context.Picks environment where
  named := named
  category _ _ _ found := answers.category isReference late valid found
  resolved _ _ _ truthy := by
    obtain ⟨name, isName⟩ := named truthy
    unfold TextSynthesis.resolved
    rw [noResolver]
    exact answers.picked isReference noMapper isName

end Environment.AnswersFields

end Specimen
