/-
**Patterns never name an unknown kind.**

Reading a pattern and sampling it may fail, but not with `Fault.unknownType`. Readers carry a state,
so `PatternReader.Mild` says it for every state, with a rule for each way of putting readers
together; the readers that call each other are treated together by induction on their fuel. The
sampler of an environment has only other faults to fail with.
-/

import Specimen.Proofs.Faults

namespace Specimen

/-! ### Reading patterns -/

namespace PatternReader

variable {α β : Type}

/-- Reading may fail, but not with an unknown kind. -/
def Mild (reading : Reading α) : Prop := ∀ state, Ordinary (reading state)

namespace Mild

theorem pure (value : α) : Mild (pure value) := fun _ => .pure _

/-- Reading one thing after another is mild if reading each of them is. -/
theorem bind {first : Reading α} {next : α → Reading β} (begun : Mild first)
    (continued : ∀ value, Mild (next value)) : Mild (first >>= next) :=
  fun state => (begun state).bind fun ended => continued ended.1 ended.2

theorem get : Mild (get : Reading State) := fun _ => .pure _

theorem modify (change : State → State) : Mild (modify change : Reading PUnit) := fun _ => .pure _

theorem throw {fault : Fault} (known : fault.isUnknownType = false) :
    Mild (throw fault : Reading α) := fun _ => known

theorem malformed : Mild (malformed : Reading α) := throw rfl

theorem ite {condition : Prop} [Decidable condition] {first second : Reading α} (yes : Mild first)
    (no : Mild second) : Mild (if condition then first else second) := by
  split
  · exact yes
  · exact no

end Mild

theorem rest_mild : Mild rest := Mild.get.bind fun _ => .pure _

theorem setRest_mild (text : List Char) : Mild (setRest text) := .modify _

theorem accept_mild (member : Char) : Mild (accept member) := by
  refine rest_mild.bind fun text => ?_
  split
  · exact .ite ((setRest_mild _).bind fun _ => .pure _) (.pure _)
  · exact .pure _

theorem takeUpTo_mild (limit : Nat) (condition : Char → Bool) : Mild (takeUpTo limit condition) :=
  rest_mild.bind fun _ => (setRest_mild _).bind fun _ => .pure _

theorem octalEscape_mild (digits : List Char) : Mild (octalEscape digits) :=
  .ite (.pure _) .malformed

theorem hexEscape_mild (count : Nat) : Mild (hexEscape count) :=
  (takeUpTo_mild _ _).bind fun _ => .ite (.pure _) .malformed

/-- An escape of a character is read or malformed. -/
theorem characterEscape_mild (mark : Char) : Mild (characterEscape mark) := by
  unfold characterEscape
  split
  · exact hexEscape_mild 2
  · exact hexEscape_mild 4
  · exact hexEscape_mild 8
  · exact .ite .malformed (.pure _)

theorem groupReference_mild (number : Nat) : Mild (groupReference number) :=
  Mild.get.bind fun _ => .ite (.pure _) .malformed

/-- An escape outside a class is read or malformed. -/
theorem escape_mild (mark : Char) : Mild (escape mark) := by
  unfold escape
  split
  · exact .pure _
  · split
    · exact .pure _
    · split
      · exact .pure _
      · refine .ite ((takeUpTo_mild _ _).bind fun _ => (octalEscape_mild _).bind fun _ => .pure _) ?_
        refine .ite ((takeUpTo_mild _ _).bind fun second => ?_)
          ((characterEscape_mild _).bind fun _ => .pure _)
        split
        · rename_i second
          have last : ∀ third : List Char, Mild (if third.isEmpty then
              groupReference (numeral 10 [mark, second])
            else do pure (.literal (← octalEscape (mark :: second :: third)))) := fun third =>
            .ite (groupReference_mild _) ((octalEscape_mild _).bind fun _ => .pure _)
          exact .ite ((takeUpTo_mild _ _).bind last) ((Mild.pure _).bind last)
        · exact groupReference_mild _

/-- An escape inside a class is read or malformed. -/
theorem classEscape_mild (mark : Char) : Mild (classEscape mark) := by
  unfold classEscape
  refine .ite (.pure _) ?_
  split
  · exact .pure _
  · split
    · exact .pure _
    · refine .ite ((takeUpTo_mild _ _).bind fun _ => (octalEscape_mild _).bind fun _ => .pure _) ?_
      exact .ite .malformed ((characterEscape_mild _).bind fun _ => .pure _)

theorem classAtom_mild (first : Char) : Mild (classAtom first) := by
  refine .ite (rest_mild.bind fun text => ?_) (.pure _)
  split
  · exact (setRest_mild _).bind fun _ => classEscape_mild _
  · exact .malformed

/-- A range of characters is read, or malformed if it is the wrong way round. -/
theorem classRange_mild (first last : ClassItem) : Mild (classRange first last) := by
  unfold classRange
  split
  · exact .ite (.pure _) .malformed
  · exact .malformed

/-- The items of a class are read one after another; by induction on the fuel. -/
theorem classItems_mild (fuel : Nat) : ∀ found, Mild (classItems fuel found) := by
  induction fuel with
  | zero => exact fun _ => .malformed
  | succ fuel hypothesis =>
    intro found
    refine rest_mild.bind fun text => ?_
    split
    · exact .malformed
    · refine (setRest_mild _).bind fun _ => .ite (.pure _) ?_
      refine (classAtom_mild _).bind fun item => (accept_mild _).bind fun range => ?_
      refine .ite (rest_mild.bind fun text => ?_) (hypothesis _)
      split
      · exact .malformed
      · exact (setRest_mild _).bind fun _ => .pure _
      · exact (setRest_mild _).bind fun _ => (classAtom_mild _).bind fun last =>
          (classRange_mild _ _).bind fun range => hypothesis _

theorem readClass_mild : Mild readClass :=
  (accept_mild _).bind fun _ => rest_mild.bind fun _ => (classItems_mild _ _).bind fun _ => .pure _

/-- What stands in braces is a count, or a text like any other. -/
theorem braces_mild : Mild braces := by
  refine rest_mild.bind fun start => (takeUpTo_mild _ _).bind fun low => ?_
  refine (accept_mild _).bind fun comma => ?_
  refine .ite ((takeUpTo_mild _ _).bind fun high => ?_) ((Mild.pure _).bind fun high => ?_)
  all_goals
    refine (accept_mild _).bind fun closed => .ite ?_ ((setRest_mild _).bind fun _ => .pure _)
    exact .ite (.throw rfl) (.ite .malformed (.pure _))

theorem readGreed_mild : Mild readGreed :=
  (accept_mild _).bind fun _ => .ite (.pure _) ((accept_mild _).bind fun _ => .ite (.pure _) (.pure _))

/-- Only a piece that can be repeated is repeated. -/
theorem repeatLast_mild (min : Nat) (max : Option Nat) (pieces : List Piece) :
    Mild (repeatLast min max pieces) := by
  unfold repeatLast
  split
  · exact .malformed
  · exact .ite (readGreed_mild.bind fun _ => .pure _) .malformed

theorem closing_mild : Mild closing := (accept_mild _).bind fun _ => .ite (.pure _) .malformed

theorem comment_mild : Mild comment := by
  refine rest_mild.bind fun text => ?_
  split
  · exact setRest_mild _
  · exact .malformed

/-- The four readers call each other with less fuel, so they are treated together. -/
theorem readers_mild (fuel : Nat) :
    Mild (alternatives fuel) ∧ Mild (moreAlternatives fuel) ∧
      (∀ pieces, Mild (sequence fuel pieces)) ∧ Mild (group fuel) := by
  induction fuel with
  | zero => exact ⟨.malformed, .malformed, fun _ => .malformed, .malformed⟩
  | succ fuel hypothesis =>
    obtain ⟨whole, more, run, inner⟩ := hypothesis
    refine ⟨?_, ?_, fun pieces => ?_, ?_⟩
    · exact (run _).bind fun first => more.bind fun others => .pure _
    · exact (accept_mild _).bind fun _ =>
        .ite ((run _).bind fun first => more.bind fun others => .pure _) (.pure _)
    · refine rest_mild.bind fun text => ?_
      have repeated : ∀ min max, Mild (repeatLast min max pieces >>= sequence fuel) :=
        fun min max => (repeatLast_mild min max pieces).bind run
      split
      · exact .pure _
      · exact .pure _
      · exact .pure _
      · exact .malformed
      · exact (setRest_mild _).bind fun _ => (escape_mild _).bind fun _ => run _
      · exact (setRest_mild _).bind fun _ => readClass_mild.bind fun _ => run _
      · exact (setRest_mild _).bind fun _ => repeated _ _
      · exact (setRest_mild _).bind fun _ => repeated _ _
      · exact (setRest_mild _).bind fun _ => repeated _ _
      · refine (setRest_mild _).bind fun _ => .ite (run _) (braces_mild.bind fun counts => ?_)
        split
        · exact repeated _ _
        · exact run _
      · exact (setRest_mild _).bind fun _ => run _
      · exact (setRest_mild _).bind fun _ => run _
      · exact (setRest_mild _).bind fun _ => run _
      · refine (setRest_mild _).bind fun _ => inner.bind fun piece => ?_
        split
        · exact run _
        · exact run _
      · exact (setRest_mild _).bind fun _ => run _
    · refine rest_mild.bind fun text => ?_
      split
      · exact (setRest_mild _).bind fun _ => whole.bind fun _ => closing_mild.bind fun _ => .pure _
      · exact (setRest_mild _).bind fun _ => comment_mild.bind fun _ => .pure _
      · exact (setRest_mild _).bind fun _ => whole.bind fun _ => closing_mild.bind fun _ => .pure _
      · exact (setRest_mild _).bind fun _ => whole.bind fun _ => closing_mild.bind fun _ => .pure _
      · exact .malformed
      · exact Mild.get.bind fun _ => (Mild.modify _).bind fun _ => whole.bind fun _ =>
          closing_mild.bind fun _ => (Mild.modify _).bind fun _ => .pure _

end PatternReader

/-- A pattern that cannot be read is an ordinary fault. -/
theorem readPattern_ordinary (source : String) : Ordinary (readPattern source) := by
  refine ((PatternReader.readers_mild _).1 _).bind fun read => ?_
  show Ordinary (if read.2.rest.isEmpty then pure read.1 else throw .malformedPattern)
  split
  · exact .pure _
  · exact .throw rfl

/-! ### Sampling patterns -/

/-- A sampler that fails does so with an ordinary fault. -/
theorem Environment.sampleText_ordinary (environment : Environment) (nodes : List PatternNode)
    (limit : Value) (seed : Nat) : Ordinary (environment.sampleText nodes limit seed) := by
  unfold sampleText
  cases environment.sample nodes limit seed with
  | ok text => exact .ok text
  | error fault => exact fault.2

end Specimen
