/-
**Validation has a result.**

Validating a value by a schema that builders make ends, without a fault, in success or in issues, at
least one (`safeParse_total`). Two checks are the exception: a text that is checked for a location
may have an authority that is none, and an integer that is asked to be whole may be too large for a
binary64 number. Neither fault is caught on the way (`Schema.Trips.fails`).
-/

import Specimen.Proofs.Answering
import Specimen.Proofs.Building

namespace Specimen

namespace Schema

/-! ### Checks that fail -/

/-- An integer is told whole, unless it is too large. -/
theorem isWhole_cases (number : Int) :
    (∃ answer, Judge.isWhole (.int number) = .ok answer) ∨
      Judge.isWhole (.int number) = .error .overflow := by
  unfold Judge.isWhole
  simp only [Value.toBinary64, Value.toInt?]
  cases Binary64.ofInt? number with
  | none => exact .inr rfl
  | some rounded => exact .inl ⟨_, rfl⟩

section Checks

variable [Format.LocationRules] {definitions : Definitions} {schema : Schema}

/-- A check of the node fails on the value, instead of telling whether the value passes it. -/
inductive Trips (schema : Schema) : Value → Prop
  | location {text : String} (kind : schema.kind = .string) (asked : .url ∈ schema.checks)
      (broken : Format.isUrl text = .error .outOfDomain) : Trips schema (.text text)
  | magnitude {number : Int} (kind : schema.kind = .number) (asked : .integer ∈ schema.checks)
      (large : Judge.isWhole (.int number) = .error .overflow) : Trips schema (.int number)

/-- A text is told apart from locations, unless its authority is none. -/
theorem isUrl_cases (text : String) :
    (∃ answer, Format.isUrl text = .ok answer) ∨ Format.isUrl text = .error .outOfDomain := by
  unfold Format.isUrl
  dsimp only
  split
  · exact .inr rfl
  · exact .inl ⟨_, rfl⟩

/-- A readable pattern is found in a text, or not. -/
theorem formatMessage_of_readable {check : Check} (readable : check.IsReadable) (text : String)
    (located : check = .url → ∃ answer, Format.isUrl text = .ok answer) :
    ∃ message, Judge.formatMessage text check = .ok message := by
  cases check with
  | regex pattern =>
    obtain ⟨source, tree, rfl, reads⟩ := readable
    simp only [Judge.formatMessage, Judge.occurs, reads]
    exact ⟨_, rfl⟩
  | url =>
    obtain ⟨answer, found⟩ := located rfl
    simp only [Judge.formatMessage, found]
    exact ⟨_, rfl⟩
  | _ => exact ⟨_, rfl⟩

/-- The checks of a node that does not trip can tell whether they hold. -/
theorem IsFormed.copes (formed : schema.IsFormed) {subject : Value} (steady : ¬ schema.Trips subject) :
    schema.CopesWith subject where
  formats := by
    intro kind text isText check mem
    refine formatMessage_of_readable (formed.checks check mem) text fun isUrl => ?_
    rcases isUrl_cases text with answers | broken
    · exact answers
    · exact absurd (.location kind (isUrl ▸ mem) broken) (isText ▸ steady)
  whole := by
    intro kind asked number isInt
    rcases isWhole_cases number with answers | large
    · exact isInt ▸ answers
    · exact absurd (.magnitude kind asked large) (isInt ▸ steady)

/-- A node that trips over a value gives no result for it. -/
theorem Trips.fails {subject : Value} (trips : schema.Trips subject) (path : Path) :
    ∃ fault, validate definitions schema subject path = .error fault := by
  rw [validate_eq]
  cases trips with
  | @location text kind asked broken =>
    have stops : Judge.formatMessage text .url = .error .outOfDomain := by
      simp only [Judge.formatMessage, broken]
      rfl
    obtain ⟨first, failed⟩ := mapM_error asked stops
    refine ⟨first, ?_⟩
    simp only [Judge.ofNode, Judge.ofKind, kind, Judge.string, failed]
    rfl
  | @magnitude number kind asked large =>
    have whole : (schema.checks.any fun check => check.name == Check.integer.name) = true :=
      List.any_eq_true.2 ⟨.integer, asked, rfl⟩
    refine ⟨.overflow, ?_⟩
    simp only [Judge.ofNode, Judge.ofKind, kind, Judge.number, Judge.numberIssues, whole, large]
    rfl

end Checks

/-! ### Nodes that are reached -/

/-- What holds everywhere in a schema and in the definitions holds throughout. -/
theorem Everywhere.throughout {definitions : Definitions} {schema : Schema}
    {property : Schema → Prop} (every : schema.Everywhere property)
    (defined : ∀ name target, (name, .ok target) ∈ definitions → target.Everywhere property) :
    schema.Throughout definitions Judges property := by
  intro last leads
  suffices last.Everywhere property from this.here
  induction leads with
  | refl => exact every
  | tail _ next hypothesis =>
    rcases next with judges | ⟨_, found⟩
    · exact hypothesis.inside _ (mem_children_of_judged judges)
    · obtain ⟨name, listed⟩ := resolve_mem found
      exact defined name _ listed

end Schema

end Specimen
