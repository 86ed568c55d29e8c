/-
**Drawing again and again.**

A collection is filled by making one run again and again: `Run.Repeats` says which values it gives,
one after another, and `Run.CountEnds` how making it a number of times ends.

A loop adds what is drawn to a state until the state is enough or no attempt is left, and an
addition may be refused (`Run.IsLoop`). However it ends, a loop has drawn some values, the state was
not enough before any of them, and the result is that of adding them in order (`Run.IsLoop.ends`):
`Run.LoopEnds` has a case each for a loop that is done, for one whose last addition was refused, and
for one whose next draw failed.

Sets and dictionaries are filled by such loops. `Make.AreNeeded` says that no draw was made that was
not needed, in terms of what the draws come to.
-/

import Specimen.Proofs.Runs

namespace Specimen

namespace Run

variable {α State : Type}

/-! ### Repetition -/

/-- Made again and again the run gives the values one after another and leaves the last session. -/
inductive Repeats (action : Run α) : Session → List α → Session → Prop
  | nil (session : Session) : Repeats action session [] session
  | cons {session next last : Session} {value : α} {values : List α}
      (first : action session = (.ok value, next)) (others : Repeats action next values last) :
      Repeats action session (value :: values) last

/-- Every value has what the run yields. -/
theorem Repeats.holds {action : Run α} {property : α → Prop} {session last : Session}
    {values : List α} (repeats : Repeats action session values last)
    (yields : Yields action property) : ∀ value ∈ values, property value := by
  induction repeats with
  | nil => exact List.forall_mem_nil _
  | cons first _ hypothesis =>
    exact List.forall_mem_cons.2 ⟨yields _ _ _ first, hypothesis⟩

/-- How making the run a number of times ends: with as many values, or where it fails. -/
inductive CountEnds (action : Run α) (count : Nat) (session : Session) :
    Except Fault (List α) × Session → Prop
  | all {values : List α} {last : Session} (repeats : Repeats action session values last)
      (enough : values.length = count) : CountEnds action count session (.ok values, last)
  | failed {values : List α} {fault : Fault} {after last : Session}
      (repeats : Repeats action session values after) (fewer : values.length < count)
      (fails : action after = (.error fault, last)) :
      CountEnds action count session (.error fault, last)

namespace CountEnds

variable {action : Run α} {count : Nat} {session next last : Session}

theorem cons {value : α} {result : Except Fault (List α)}
    (first : action session = (.ok value, next))
    (ends : CountEnds action count next (result, last)) :
    CountEnds action (count + 1) session (result.map (value :: ·), last) := by
  cases ends with
  | all repeats enough => exact .all (.cons first repeats) (congrArg Nat.succ enough)
  | failed repeats fewer fails => exact .failed (.cons first repeats) (Nat.succ_lt_succ fewer) fails

/-- What breaks the repetition off is a fault of the run. -/
theorem fault {property : Fault → Prop} {fault : Fault}
    (ends : CountEnds action count session (.error fault, last))
    (each : FailsWith action property) : property fault := by
  cases ends with
  | failed _ _ fails => exact each _ _ _ fails

end CountEnds

/-! ### Loops -/

section Loops

variable (loop : Nat → State → Run State) (enough : State → Prop) (draw : Run α)
variable (add : State → α → Except Fault State)

/-- The runs draw and add what was drawn, until the state is enough or no attempt is left. -/
structure IsLoop : Prop where
  ended : ∀ state, loop 0 state = pure state
  stops : ∀ attempts state, enough state → loop (attempts + 1) state = pure state
  goesOn : ∀ attempts state, ¬ enough state →
    loop (attempts + 1) state = do loop attempts (← lift (add state (← draw)))

variable {loop enough draw add}

/-- What additions keep holds of what a loop yields. -/
theorem IsLoop.yields {property : α → Prop} {invariant : State → Prop}
    (isLoop : IsLoop loop enough draw add) (each : Yields draw property)
    (kept : ∀ state value next, invariant state → ¬ enough state → property value →
      add state value = .ok next → invariant next)
    (attempts : Nat) {state : State} (holds : invariant state) :
    Yields (loop attempts state) invariant := by
  induction attempts generalizing state with
  | zero =>
    rw [isLoop.ended]
    exact Yields.pure holds
  | succ attempts hypothesis =>
    by_cases reached : enough state
    · rw [isLoop.stops attempts state reached]
      exact Yields.pure holds
    rw [isLoop.goesOn attempts state reached]
    refine each.bind fun value drawn => ?_
    have added : Yields (lift (add state value)) invariant :=
      Yields.lift fun next => kept state value next holds reached drawn
    exact added.bind fun next keeps => hypothesis keeps

/-- If no addition is refused, a loop gives what additions keep. -/
theorem IsLoop.gives {property : α → Prop} {invariant : State → Prop}
    (isLoop : IsLoop loop enough draw add) (each : Gives draw property)
    (kept : ∀ state value, invariant state → ¬ enough state → property value →
      ∃ next, add state value = .ok next ∧ invariant next)
    (attempts : Nat) {state : State} (holds : invariant state) :
    Gives (loop attempts state) invariant := by
  induction attempts generalizing state with
  | zero =>
    rw [isLoop.ended]
    exact Gives.pure holds
  | succ attempts hypothesis =>
    by_cases reached : enough state
    · rw [isLoop.stops attempts state reached]
      exact Gives.pure holds
    rw [isLoop.goesOn attempts state reached]
    refine each.bind fun value drawn => ?_
    obtain ⟨next, added, keeps⟩ := kept state value holds reached drawn
    exact (Gives.lift added keeps).bind fun next keeps => hypothesis keeps

variable (enough draw add)

/-- How a loop ends that has drawn these values. -/
inductive LoopEnds (attempts : Nat) (state : State) (drawn : List α) (after : Session) :
    Except Fault State × Session → Prop
  | done {found : State} (added : drawn.foldlM add state = .ok found)
      (last : enough found ∨ drawn.length = attempts) :
      LoopEnds attempts state drawn after (.ok found, after)
  | refused {fault : Fault} (added : drawn.foldlM add state = .error fault) :
      LoopEnds attempts state drawn after (.error fault, after)
  | failed {found : State} {fault : Fault} {last : Session}
      (added : drawn.foldlM add state = .ok found) (wanted : ¬ enough found)
      (left : drawn.length < attempts) (fails : draw after = (.error fault, last)) :
      LoopEnds attempts state drawn after (.error fault, last)

/-- After each of the draws but the last one more was wanted. -/
def IsWanted (state : State) (drawn : List α) : Prop :=
  ∀ count < drawn.length, ∃ found, (drawn.take count).foldlM add state = .ok found ∧ ¬ enough found

variable {enough draw add}

theorem IsWanted.cons {state next : State} {value : α} {drawn : List α} (wanted : ¬ enough state)
    (added : add state value = .ok next) (others : IsWanted enough add next drawn) :
    IsWanted enough add state (value :: drawn) := by
  intro count less
  cases count with
  | zero => exact ⟨state, rfl, wanted⟩
  | succ count =>
    rw [List.take_succ_cons, List.foldlM_cons, added]
    exact others count (Nat.lt_of_succ_lt_succ less)

theorem LoopEnds.cons {attempts : Nat} {state next : State} {value : α} {drawn : List α}
    {after : Session} {result : Except Fault State × Session}
    (added : add state value = .ok next)
    (ends : LoopEnds enough draw add attempts next drawn after result) :
    LoopEnds enough draw add (attempts + 1) state (value :: drawn) after result := by
  have first : (value :: drawn).foldlM add state = drawn.foldlM add next := by
    rw [List.foldlM_cons, added]
    rfl
  cases ends with
  | done found last => exact .done (first.trans found) (last.imp_right (congrArg Nat.succ))
  | refused found => exact .refused (first.trans found)
  | failed found wanted left fails =>
    exact .failed (first.trans found) wanted (Nat.succ_lt_succ left) fails

/-- **A loop adds what it draws, as long as more is wanted.** -/
theorem IsLoop.ends (isLoop : IsLoop loop enough draw add) (attempts : Nat) (state : State)
    (session : Session) : ∃ drawn after, Repeats draw session drawn after ∧
      drawn.length ≤ attempts ∧ IsWanted enough add state drawn ∧
        LoopEnds enough draw add attempts state drawn after (loop attempts state session) := by
  -- The first draw is added here, and the hypothesis is about the state and the session after it.
  induction attempts generalizing state session with
  | zero =>
    rw [isLoop.ended]
    exact ⟨[], session, .nil session, Nat.le_refl 0, nofun, .done rfl (.inr rfl)⟩
  | succ attempts hypothesis =>
    by_cases wanted : enough state
    · rw [isLoop.stops attempts state wanted]
      exact ⟨[], session, .nil session, Nat.zero_le _, nofun, .done rfl (.inl wanted)⟩
    rw [isLoop.goesOn attempts state wanted]
    rcases drew : draw session with ⟨fault | value, next⟩
    · rw [bind_error drew]
      exact ⟨[], session, .nil session, Nat.zero_le _, nofun,
        .failed rfl wanted (Nat.succ_pos attempts) drew⟩
    rw [bind_ok drew]
    cases added : add state value with
    | error fault =>
      -- What is refused has been drawn all the same.
      refine ⟨[value], next, .cons drew (.nil next), Nat.succ_le_succ (Nat.zero_le _), ?_,
        .refused ?_⟩
      · intro count less
        rw [List.length_singleton, Nat.lt_one_iff] at less
        exact ⟨state, by rw [less]; rfl, wanted⟩
      · rw [List.foldlM_cons, added]
        rfl
    | ok found =>
      obtain ⟨drawn, after, repeats, limited, others, ends⟩ := hypothesis found next
      exact ⟨value :: drawn, after, .cons drew repeats, Nat.succ_le_succ limited,
        .cons wanted added others, ends.cons added⟩

end Loops

end Run

/-! ### Attempts -/

namespace Make

/-- There are as many attempts as ten for each member that is wanted, and ten at least. -/
theorem attemptsFor_eq (target : Int) : (attemptsFor target : Int) = max 10 (10 * target) := by
  rw [attemptsFor]
  omega

/-- Fewer draws do not come to the target, and there are no more than attempts. -/
structure AreNeeded {α : Type} (size : List α → Nat) (target : Int) (drawn : List α) : Prop where
  wanted : ∀ fewer < drawn.length, (size (drawn.take fewer) : Int) < target
  limited : (drawn.length : Int) ≤ max 10 (10 * target)

/-- The draws of a loop are needed, if what is added to tells the size that they come to. -/
theorem AreNeeded.of_wanted {α State : Type} {size : List α → Nat} {target : Int}
    {enough : State → Prop} {add : State → α → Except Fault State} {state : State} {drawn : List α}
    (wanted : Run.IsWanted enough add state drawn) (limited : drawn.length ≤ attemptsFor target)
    (few : ∀ fewer found, (drawn.take fewer).foldlM add state = .ok found → ¬ enough found →
      (size (drawn.take fewer) : Int) < target) : AreNeeded size target drawn where
  wanted fewer less := by
    obtain ⟨found, added, more⟩ := wanted fewer less
    exact few _ found added more
  limited := by
    rw [← attemptsFor_eq]
    exact Int.ofNat_le.2 limited

/-- What grows by one at most with each draw does not get beyond the target. -/
theorem AreNeeded.size_le {α : Type} {size : List α → Nat} {target : Int} {drawn : List α}
    (needed : AreNeeded size target drawn) (nothing : size [] = 0)
    (slowly : ∀ drawn value, size (drawn ++ [value]) ≤ size drawn + 1) :
    (size drawn : Int) ≤ max target 0 := by
  rcases List.eq_nil_or_concat' drawn with rfl | ⟨earlier, value, rfl⟩
  · rw [nothing]
    omega
  · have short := needed.wanted earlier.length (by simp)
    rw [List.take_left] at short
    have grown := slowly earlier value
    omega

/-- The record of a collection that stays too small. -/
def exhaustedRecord (domain noun : String) (found : Nat) (target : Int) : LogRecord :=
  ⟨.debug, .synthesis, domain ++ " domain exhausted: " ++ toString found ++ " of " ++
    toString target ++ " distinct " ++ noun⟩

theorem logExhausted_apply (domain noun : String) (found : Nat) (target : Int) (session : Session) :
    logExhausted domain noun found target session = (.ok (),
      { session with log := exhaustedRecord domain noun found target :: session.log }) := rfl

end Make

end Specimen
