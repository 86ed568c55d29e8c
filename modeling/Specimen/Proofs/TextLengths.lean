/-
**The length of a text.**

The checks of a text leave two bounds on its length, each that of the last check about it. A text is
padded to the least length and then cut to the greatest, which comes to `fittedLength`, whatever the
text was before:

* `TextSynthesis.fit_gives_fitted`: a text is fitted, and has exactly that length;
* `isFitting_fittedLength`: that length is between the bounds if they are in order, and the greatest
  length if they are not;
* `TextSynthesis.targetLength_gives`: the length to aim at is drawn from the bounds, in order.

Hence a text that is made has a fitting length, and it is made if one was found for every length
that may be aimed at (`TextSynthesis.make_fitting`).
-/

import Specimen.Proofs.Draws
import Specimen.Proofs.LastChecks

namespace Specimen

open Run (Yields Gives)

/-! ### Lengths -/

/-- The length is no more than the greatest, no less than the least unless the greatest is smaller,
and the greatest if it is smaller. -/
structure IsFitting (least greatest : Option Int) (length : Int) : Prop where
  atMost : ∀ most, greatest = some most → length ≤ most
  atLeast : ∀ few, least = some few → (∀ most, greatest = some most → few ≤ most) → few ≤ length
  exactly : ∀ few most, least = some few → greatest = some most → most < few → length = most

/-- The length of a text that is padded to the least length and cut to the greatest. -/
def fittedLength (least greatest : Option Int) (length : Nat) : Int :=
  let padded := max (least.getD 0) length
  match greatest with
  | none => padded
  | some most => min most padded

theorem isFitting_fittedLength (least greatest : Option Int) (length : Nat) :
    IsFitting least greatest (fittedLength least greatest length) where
  atMost := by
    rintro most rfl
    exact min_le_left _ _
  atLeast := by
    rintro few rfl ordered
    cases greatest with
    | none => exact le_max_left _ _
    | some most => exact le_min (ordered most rfl) (le_max_left _ _)
  exactly := by
    rintro few most rfl rfl crossed
    exact min_eq_left (crossed.le.trans (le_max_left _ _))

namespace Check

/-- The least length that the checks ask for. -/
def leastLength? (checks : List Check) : Option Int :=
  (last? boundsBelow checks).bind fun check => check.argument.toInt?

/-- The greatest length that the checks ask for. -/
def greatestLength? (checks : List Check) : Option Int :=
  (last? boundsAbove checks).bind fun check => check.argument.toInt?

/-- The checks bound lengths by integers, the greatest length by one that is not negative, and ask
for no pattern. -/
structure BoundLengths (checks : List Check) : Prop where
  noPattern : ∀ check ∈ checks, check.name ≠ "regex"
  integers : ∀ check ∈ checks, check.boundsBelow = true ∨ check.boundsAbove = true →
    ∃ length, check.argument.toInt? = some length
  natural : ∀ most, greatestLength? checks = some most → 0 ≤ most

end Check

/-- The bounds of a text are integers, as far as they are there, and ask for no pattern. -/
structure TextBounds.Measure (bounds : TextBounds) (least greatest : Option Int) : Prop where
  min : Option.Rel (fun bound length => bound.toInt? = some length) bounds.min least
  max : Option.Rel (fun bound length => bound.toInt? = some length) bounds.max greatest
  noPattern : bounds.pattern = none

/-- A bound that the last check about it leaves is an integer if those of all checks are. -/
theorem Check.last?_bind_toInt {concerns : Check → Bool} {checks : List Check}
    (integers : ∀ check ∈ checks, concerns check = true →
      ∃ length, check.argument.toInt? = some length) :
    Option.Rel (fun bound length => bound.toInt? = some length)
      ((last? concerns checks).bind fun check => check.argument.nonNull?)
      ((last? concerns checks).bind fun check => check.argument.toInt?) := by
  cases found : last? concerns checks with
  | none => exact .none
  | some check =>
    obtain ⟨length, isLength⟩ := integers check (last?_mem found) (last?_concerns found)
    rw [Option.bind_some, Option.bind_some, Value.nonNull_of_toInt isLength, isLength]
    exact .some isLength

theorem Check.BoundLengths.measure {checks : List Check} (bounded : BoundLengths checks) :
    (TextBounds.ofChecks checks).Measure (leastLength? checks) (greatestLength? checks) where
  min := by
    rw [TextBounds.ofChecks_min]
    exact last?_bind_toInt fun check mem below => bounded.integers check mem (.inl below)
  max := by
    rw [TextBounds.ofChecks_max]
    exact last?_bind_toInt fun check mem above => bounded.integers check mem (.inr above)
  noPattern := by
    rw [TextBounds.ofChecks_pattern]
    cases found : last? (·.name == "regex") checks with
    | none => rfl
    | some check =>
      have isPattern : (check.name == "regex") = true := last?_concerns found
      exact absurd (beq_iff_eq.1 isPattern) (bounded.noPattern check (last?_mem found))

namespace TextSynthesis

variable {bounds : TextBounds} {least greatest : Option Int}

/-! ### Aiming -/

/-- The lengths to aim at: from the least to the greatest, or the other way round. -/
def lengthsToDraw (least greatest : Option Int) : Int × Int :=
  match least, greatest with
  | some few, some most => (min few most, max few most)
  | some few, none => (few, max few usualLength)
  | none, some most => (0, most)
  | none, none => (0, usualLength)

theorem lengthsToDraw_ordered (natural : ∀ most, greatest = some most → 0 ≤ most) :
    (lengthsToDraw least greatest).1 ≤ (lengthsToDraw least greatest).2 := by
  have usual : usualLength = 10 := rfl
  cases least <;> cases greatest <;> simp only [lengthsToDraw]
  · omega
  · exact natural _ rfl
  · omega
  · omega

theorem atLeastUsual_of_toInt {bound : Value} {length : Int}
    (isLength : bound.toInt? = some length) :
    ∃ longer, atLeastUsual bound = .ok longer ∧ longer.toInt? = some (max length usualLength) := by
  unfold atLeastUsual
  rw [Value.greater_of_toInt isLength rfl]
  by_cases above : usualLength < length
  · rw [decide_eq_true above, max_eq_left above.le]
    exact ⟨bound, rfl, isLength⟩
  · rw [decide_eq_false above, max_eq_right (Int.not_lt.1 above)]
    exact ⟨.int usualLength, rfl, rfl⟩

theorem lengthInterval_eq (measure : bounds.Measure least greatest) :
    ∃ first last, lengthInterval bounds = .ok (first, last) ∧
      first.toInt? = some (lengthsToDraw least greatest).1 ∧
      last.toInt? = some (lengthsToDraw least greatest).2 := by
  obtain ⟨low, high, pattern, formats⟩ := bounds
  obtain ⟨isLeast, isGreatest, _⟩ := measure
  unfold lengthInterval
  cases isLeast with
  | none =>
    cases isGreatest with
    | none => exact ⟨_, _, rfl, rfl, rfl⟩
    | some isMost => exact ⟨_, _, rfl, rfl, isMost⟩
  | @some low few isFew =>
    cases isGreatest with
    | none =>
      obtain ⟨longer, found, isLonger⟩ := atLeastUsual_of_toInt isFew
      refine ⟨low, longer, ?_, isFew, isLonger⟩
      simp only [found]
      rfl
    | @some high most isMost =>
      simp only [Value.greater_of_toInt isFew isMost, lengthsToDraw]
      by_cases crossed : most < few
      · rw [decide_eq_true crossed, min_eq_right crossed.le, max_eq_left crossed.le]
        exact ⟨high, low, rfl, isMost, isFew⟩
      · have ordered := Int.not_lt.1 crossed
        rw [decide_eq_false crossed, min_eq_left ordered, max_eq_right ordered]
        exact ⟨low, high, rfl, isFew, isMost⟩

/-- The length to aim at is one of those to draw. -/
theorem targetLength_gives (measure : bounds.Measure least greatest)
    (natural : ∀ most, greatest = some most → 0 ≤ most) :
    Gives (targetLength bounds) fun target =>
      (lengthsToDraw least greatest).1 ≤ target ∧ target ≤ (lengthsToDraw least greatest).2 := by
  obtain ⟨first, last, interval, isFirst, isLast⟩ := lengthInterval_eq measure
  unfold targetLength
  rw [interval, Run.lift_ok, pure_bind]
  exact Draw.integer_gives_of_toInt isFirst isLast (lengthsToDraw_ordered natural)

/-! ### Fitting -/

/-- A text is filled up to a least length, and keeps its own length if it is longer. -/
theorem padTo_gives {bound : Value} {few : Int} (isFew : bound.toInt? = some few) (text : String) :
    Gives (padTo bound text) fun padded => (padded.length : Int) = max few text.length := by
  unfold padTo
  rw [Value.less_of_toInt rfl isFew, Run.lift_ok, pure_bind]
  by_cases short : (text.length : Int) < few
  · obtain ⟨missing, rfl⟩ : ∃ missing : Nat, few = text.length + missing :=
      ⟨(few - text.length).toNat, by omega⟩
    have gap : (text.length : Int) + missing - text.length = missing := add_sub_cancel_left _ _
    rw [decide_eq_true short, isFew]
    simp only [gap]
    refine (Draw.alpha_gives missing).bind fun letters length => Gives.pure ?_
    rw [String.length_append, length]
    omega
  · rw [decide_eq_false short]
    exact Gives.pure (by omega)

/-- A text is cut to a greatest length, and keeps its own length if it is shorter. -/
theorem cutTo_ok {bound : Value} {most : Int} (isMost : bound.toInt? = some most)
    (natural : 0 ≤ most) (text : String) :
    ∃ cut : String, cutTo bound text = .ok cut ∧ (cut.length : Int) = min most text.length := by
  unfold cutTo
  rw [isMost]
  refine ⟨_, rfl, ?_⟩
  rw [if_neg (Int.not_lt.2 natural), String.length_ofList, List.length_take, String.length_toList]
  omega

/-- **A text is fitted**, and has exactly the length that its bounds and its own length come to. -/
theorem fit_gives_fitted (measure : bounds.Measure least greatest)
    (natural : ∀ most, greatest = some most → 0 ≤ most) (text : String) :
    Gives (fit bounds text) fun fitted =>
      (fitted.length : Int) = fittedLength least greatest text.length := by
  obtain ⟨low, high, pattern, formats⟩ := bounds
  obtain ⟨isLeast, isGreatest, _⟩ := measure
  unfold fit
  cases isGreatest with
  | none =>
    cases isLeast with
    | none => exact Gives.pure (max_eq_right (Int.natCast_nonneg _)).symm
    | some isFew => exact (padTo_gives isFew text).bind fun padded length => Gives.pure length
  | @some bound most isMost =>
    have cut : ∀ padded : String, (padded.length : Int) = max (least.getD 0) text.length →
        Gives (Run.lift (cutTo bound padded)) fun fitted =>
          (fitted.length : Int) = fittedLength least (some most) text.length := by
      intro padded length
      obtain ⟨cut, isCut, short⟩ := cutTo_ok isMost (natural most rfl) padded
      refine Gives.lift isCut ?_
      rw [short, length]
      rfl
    cases isLeast with
    | none => exact cut text (max_eq_right (Int.natCast_nonneg _)).symm
    | some isFew => exact (padTo_gives isFew text).bind cut

/-! ### Functions of the caller -/

variable {context : Context}

/-- A field that no function of the caller is for is filled by none. -/
theorem callersFunction_none {chosen : Option Hook}
    (unmapped : ∀ name, context.keyName = .text name → context.stringMap.lookup name = none)
    (found : callersFunction? context = .ok chosen) : chosen = none := by
  unfold callersFunction? at found
  split at found
  · exact (Except.ok.inj found).symm
  · split at found
    · cases found
    · split at found
      · next name isName =>
        rw [unmapped name isName] at found
        exact (Except.ok.inj found).symm
      · exact (Except.ok.inj found).symm

/-- It can be told that no function of the caller is for the field, if its name can be looked up. -/
theorem callersFunction_ok
    (unmapped : ∀ name, context.keyName = .text name → context.stringMap.lookup name = none)
    (hashable : context.keyName.isTruthy = true → context.keyName.isHashable = true) :
    callersFunction? context = .ok none := by
  have answered : ∃ chosen, callersFunction? context = .ok chosen := by
    unfold callersFunction?
    by_cases truthy : context.keyName.isTruthy = true
    · rw [truthy, hashable truthy]
      simp only [Bool.not_true, Bool.false_eq_true, if_false]
      split <;> exact ⟨_, rfl⟩
    · rw [eq_false_of_ne_true truthy]
      exact ⟨none, rfl⟩
  obtain ⟨chosen, found⟩ := answered
  rw [found, callersFunction_none unmapped found]

/-! ### Making -/

/-- Without a pattern, a text is not made from one. -/
theorem make_eq_unpatterned {checks : List Check}
    (noPattern : (TextBounds.ofChecks checks).pattern = none) (environment : Environment) :
    make environment checks context =
      unpatterned environment (TextBounds.ofChecks checks) context := by
  unfold make
  simp only [noPattern]

section Unpatterned

variable {environment : Environment} (measure : bounds.Measure least greatest)
variable (natural : ∀ most, greatest = some most → 0 ≤ most)

include measure natural

/-- Where a text comes from does not matter to its length. -/
theorem unpatterned_yields
    (unfilled : ∀ chosen, callersFunction? context = .ok chosen → chosen = none) :
    Yields (unpatterned environment bounds context) fun value =>
      ∃ text : String, value = .text text ∧ IsFitting least greatest text.length := by
  refine (Yields.lift unfilled).bind fun chosen isNone => ?_
  rw [isNone]
  refine Yields.last fun target => Yields.last fun text => ?_
  refine (fit_gives_fitted measure natural text).yields.bind fun fitted length => Yields.pure ?_
  exact ⟨fitted, rfl, length ▸ isFitting_fittedLength least greatest text.length⟩

/-- A text is made if one is found for every length that may be aimed at. -/
theorem unpatterned_gives (unfilled : callersFunction? context = .ok none)
    (found : ∀ target, (lengthsToDraw least greatest).1 ≤ target →
      target ≤ (lengthsToDraw least greatest).2 →
      Gives (rawText environment bounds context target) fun _ => True) :
    Gives (unpatterned environment bounds context) fun value =>
      ∃ text : String, value = .text text ∧ IsFitting least greatest text.length := by
  have made : Gives (unpatterned environment bounds context) fun _ => True := by
    unfold unpatterned
    rw [unfilled, Run.lift_ok, pure_bind]
    refine (targetLength_gives measure natural).bind fun target ⟨long, short⟩ => ?_
    refine (found target long short).bind fun text _ => ?_
    exact (fit_gives_fitted measure natural text).bind fun fitted _ => Gives.pure True.intro
  have none : ∀ chosen, callersFunction? context = .ok chosen → chosen = none :=
    fun chosen isChosen => (Except.ok.inj (unfilled.symm.trans isChosen)).symm
  exact (made.and (unpatterned_yields measure natural none)).mono fun value both => both.2

end Unpatterned

/-- **A text has a fitting length, wherever it comes from**, and it is made if one is found for
every length that may be aimed at. -/
theorem make_fitting {checks : List Check} (bounded : Check.BoundLengths checks)
    (unmapped : ∀ name, context.keyName = .text name → context.stringMap.lookup name = none)
    (environment : Environment) :
    (Yields (make environment checks context) fun value => ∃ text : String, value = .text text ∧
      IsFitting (Check.leastLength? checks) (Check.greatestLength? checks) text.length) ∧
    ((context.keyName.isTruthy = true → context.keyName.isHashable = true) →
      (∀ target,
        (lengthsToDraw (Check.leastLength? checks) (Check.greatestLength? checks)).1 ≤ target →
        target ≤ (lengthsToDraw (Check.leastLength? checks) (Check.greatestLength? checks)).2 →
        Gives (rawText environment (TextBounds.ofChecks checks) context target) fun _ => True) →
      Gives (make environment checks context) fun value => ∃ text : String, value = .text text ∧
        IsFitting (Check.leastLength? checks) (Check.greatestLength? checks) text.length) := by
  have measure := bounded.measure
  rw [make_eq_unpatterned measure.noPattern]
  refine ⟨unpatterned_yields measure bounded.natural fun chosen => callersFunction_none unmapped, ?_⟩
  exact fun hashable => unpatterned_gives measure bounded.natural
    (callersFunction_ok unmapped hashable)

/-- An environment whose provider has the same answer to everything. -/
def answering (answer : String) : Environment where
  definitions := []
  provider _ := pure (.text answer)
  words := []
  sample _ _ _ := .ok answer
  invoke _ _ := throw .wrongType
  today := .startOf ⟨738885⟩ none

/-- Checks for an address that leave a least length of 14 and a greatest of 12. -/
def crossedLengths : List Check :=
  [.length (.int 4), .min (.int 14) true, .max (.int 12) true, .email]

theorem crossedLengths_bounded : Check.BoundLengths crossedLengths where
  noPattern := by simp [crossedLengths, Check.name]
  integers := by
    simp [crossedLengths, Check.boundsBelow, Check.boundsAbove, Check.name, Check.argument,
      Value.toInt?]
  natural := by
    have greatest : Check.greatestLength? crossedLengths = some 12 := by decide +kernel
    intro most isMost
    cases greatest.symm.trans isMost
    decide

/-- The field of a nickname, where the caller fills the field of a name. -/
def nicknameField : Context := { keyName := .text "nickname", stringMap := [("name", ⟨0⟩)] }

/-- If the greatest length is below the least, a text has the greatest. -/
theorem crossedLengths_fit : Gives (make (answering "ann@example.com") crossedLengths nicknameField)
    fun value => ∃ text : String, value = .text text ∧ text.length = 12 := by
  have least : Check.leastLength? crossedLengths = some 14 := by decide +kernel
  have greatest : Check.greatestLength? crossedLengths = some 12 := by decide +kernel
  have unmapped : ∀ name, nicknameField.keyName = .text name →
      nicknameField.stringMap.lookup name = none := by
    rintro _ ⟨⟩
    decide
  have address (target : Int) : Gives (rawText (answering "ann@example.com")
      (TextBounds.ofChecks crossedLengths) nicknameField target) fun _ => True := by
    have isField : fieldName nicknameField = .ok (some "nickname") := by decide +kernel
    have formats : (TextBounds.ofChecks crossedLengths).formats = ["email"] := rfl
    have picked : category? (some "nickname") ["email"] = some (.provided "email") := by
      decide +kernel
    unfold rawText
    rw [isField, Run.lift_ok, pure_bind, formats, picked]
    exact Gives.pure True.intro
  have made := (make_fitting crossedLengths_bounded unmapped (answering "ann@example.com")).2
    (fun _ => rfl) fun target _ _ => address target
  refine made.mono fun value ⟨text, isText, fitting⟩ => ⟨text, isText, ?_⟩
  exact Int.ofNat.inj (fitting.exactly 14 12 least greatest (by decide))

end TextSynthesis

end Specimen
