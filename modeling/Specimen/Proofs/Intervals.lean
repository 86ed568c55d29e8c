/-
**Numbers are drawn exactly from their interval.**

The bounds of a number denote rationals. The closed interval that they are rounded to holds the
integers within the bounds and no others (`NumberBounds.integers_of_denote`). Where it holds one, a
number is drawn from it (`Make.number_draws`); where it holds none, nothing is drawn and this is
logged (`Make.number_of_empty`).
-/

import Specimen.Proofs.Keywords
import Specimen.Proofs.NumberRange

namespace Specimen

open Run (Gives)

namespace Json

variable {inclusive : Bool} {bound : Option Rat}

theorem limits_none_left : Limits inclusive none bound := fun _ _ isLow => nomatch isLow

theorem limits_none_right : Limits inclusive bound none := fun _ _ _ isHigh => nomatch isHigh

end Json

namespace Value

/-- The value has a place among the rationals. -/
abbrev Denotes (bound : Value) (limit : Rat) : Prop := bound.toExtended? = some (.rational limit)

/-- The value is an integer that is wanted, or absent if there is none. -/
def IsWanted (wanted : Int → Prop) (value : Value) : Prop :=
  (∃ number, value = .int number ∧ wanted number) ∨ (value = .absent ∧ ∀ number, ¬ wanted number)

theorem IsWanted.congr {wanted other : Int → Prop} {value : Value} (found : value.IsWanted wanted)
    (same : ∀ number, wanted number ↔ other number) : value.IsWanted other :=
  (funext fun number => propext (same number) : wanted = other) ▸ found

end Value

namespace NumberBounds

variable {bounds : NumberBounds} {lower upper : Option Rat}

/-- The bounds denote rationals, as far as they are there. -/
structure Denote (bounds : NumberBounds) (lower upper : Option Rat) : Prop where
  min : Option.Rel Value.Denotes bounds.min lower
  max : Option.Rel Value.Denotes bounds.max upper

/-- The integer is within bounds that denote rationals. -/
structure Admit (bounds : NumberBounds) (lower upper : Option Rat) (number : Int) : Prop where
  above : Json.Limits bounds.minInclusive lower (some number)
  below : Json.Limits bounds.maxInclusive (some number) upper

/-- Rounding a bound that is there, so that the integers beyond it are those that it asks for. -/
theorem mapM_of_denote {bound : Option Value} {limit : Option Rat}
    (denotes : Option.Rel Value.Denotes bound limit)
    (round : Value → Except Fault Int) (beyond : Int → Int → Prop) (asks : Option Rat → Int → Prop)
    (free : ∀ number, asks none number)
    (each : ∀ bound limit, Value.Denotes bound limit →
      ∃ edge, round bound = .ok edge ∧ ∀ number, beyond edge number ↔ asks (some limit) number) :
    ∃ edge, bound.mapM round = .ok edge ∧
      ∀ number, (∀ known, edge = some known → beyond known number) ↔ asks limit number := by
  cases denotes with
  | none => exact ⟨none, rfl, fun number => ⟨fun _ => free number, fun _ => nofun⟩⟩
  | @some bound limit isLimit =>
    obtain ⟨edge, rounded, same⟩ := each bound limit isLimit
    refine ⟨some edge, ?_, fun number => ?_⟩
    · rw [Option.mapM_some, rounded]
      rfl
    · rw [← same number]
      exact ⟨fun holds => holds edge rfl, fun holds known same => Option.some.inj same ▸ holds⟩

/-- **The closed interval holds the integers within the bounds, and no others.** -/
theorem integers_of_denote (denote : bounds.Denote lower upper) :
    ∃ least greatest, bounds.integers = .ok (least, greatest) ∧
      ∀ number : Int, ((∀ low, least = some low → low ≤ number) ∧
        ∀ high, greatest = some high → number ≤ high) ↔ bounds.Admit lower upper number := by
  obtain ⟨least, isLeast, above⟩ := mapM_of_denote denote.min (lowest · bounds.minInclusive)
    (fun low number => low ≤ number)
    (fun limit number => Json.Limits bounds.minInclusive limit (some number))
    (fun _ => Json.limits_none_left) fun bound limit isLimit => by
      simpa only [Json.limits_iff] using lowest_of_rational isLimit bounds.minInclusive
  obtain ⟨greatest, isGreatest, below⟩ := mapM_of_denote denote.max (highest · bounds.maxInclusive)
    (fun high number => number ≤ high)
    (fun limit number => Json.Limits bounds.maxInclusive (some number) limit)
    (fun _ => Json.limits_none_right) fun bound limit isLimit => by
      simpa only [Json.limits_iff] using highest_of_rational isLimit bounds.maxInclusive
  refine ⟨least, greatest, ?_, fun number => ?_⟩
  · unfold integers
    rw [isLeast, isGreatest]
    rfl
  · rw [above number, below number]
    exact ⟨fun holds => ⟨holds.1, holds.2⟩, fun within => ⟨within.above, within.below⟩⟩

end NumberBounds

namespace Make

/-- An interval without integers has two bounds, in the wrong order. -/
theorem closeInterval_empty {least greatest : Option Int}
    (empty : ∀ number : Int, ¬ ((∀ low, least = some low → low ≤ number) ∧
      ∀ high, greatest = some high → number ≤ high)) :
    (closeInterval least greatest).2 < (closeInterval least greatest).1 := by
  cases least with
  | none =>
    cases greatest with
    | none => exact absurd ⟨nofun, nofun⟩ (empty 0)
    | some high => exact absurd ⟨nofun, fun _ same => (Option.some.inj same).le⟩ (empty high)
  | some low =>
    cases greatest with
    | none => exact absurd ⟨fun _ same => (Option.some.inj same).ge, nofun⟩ (empty low)
    | some high =>
      by_contra ordered
      refine empty low ⟨fun _ same => (Option.some.inj same).ge, fun _ same => ?_⟩
      cases same
      exact Int.not_lt.1 ordered

variable {checks : List Check} {lower upper : Option Rat}

/-- Where an integer is within the bounds, one is drawn. -/
theorem number_draws (denote : (NumberBounds.ofChecks checks).Denote lower upper) {found : Int}
    (within : (NumberBounds.ofChecks checks).Admit lower upper found) (context : Context) :
    Gives (number checks context) fun value => ∃ drawn : Int, value = .int drawn ∧
      (NumberBounds.ofChecks checks).Admit lower upper drawn := by
  obtain ⟨least, greatest, bounds, admitted⟩ := NumberBounds.integers_of_denote denote
  obtain ⟨above, below⟩ := (admitted found).2 within
  obtain ⟨ordered, inside⟩ := closeInterval_mem above below
  unfold number
  rw [bounds, Run.lift_ok, pure_bind]
  simp only
  rw [if_neg (Int.not_lt.2 ordered)]
  refine (Draw.integer_gives ordered).bind fun drawn ⟨atLeast, atMost⟩ => .pure ?_
  exact ⟨drawn, rfl, (admitted drawn).1 (inside drawn atLeast atMost)⟩

/-- Where no integer is within the bounds, nothing is drawn. -/
theorem number_of_empty (denote : (NumberBounds.ofChecks checks).Denote lower upper)
    (empty : ∀ number : Int, ¬ (NumberBounds.ofChecks checks).Admit lower upper number)
    (context : Context) :
    ∃ message, number checks context = (do
      Run.log .debug .synthesis message
      pure .absent) := by
  obtain ⟨least, greatest, bounds, admitted⟩ := NumberBounds.integers_of_denote denote
  have disordered :=
    closeInterval_empty fun number holds => empty number ((admitted number).1 holds)
  unfold number
  rw [bounds, Run.lift_ok, pure_bind]
  simp only
  rw [if_pos disordered]
  exact ⟨_, rfl⟩

/-- **A number is drawn from the integers within the bounds, and is absent exactly if there are
none.** -/
theorem number_decides (denote : (NumberBounds.ofChecks checks).Denote lower upper)
    (context : Context) :
    Gives (number checks context)
      (Value.IsWanted ((NumberBounds.ofChecks checks).Admit lower upper)) := by
  by_cases satisfiable : ∃ found : Int, (NumberBounds.ofChecks checks).Admit lower upper found
  · obtain ⟨found, within⟩ := satisfiable
    exact (number_draws denote within context).mono fun value => .inl
  · have empty := not_exists.1 satisfiable
    obtain ⟨message, same⟩ := number_of_empty denote empty context
    rw [same]
    exact (Gives.log _ _ _).bind fun _ _ => .pure (.inr ⟨rfl, empty⟩)

end Make

end Specimen
