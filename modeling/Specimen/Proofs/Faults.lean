/-
**Which operations name an unknown kind.**

Only a node without a rule may end in `Fault.unknownType`, since that fault alone is not contained.
Every operation on values, bounds and dates that filling a node relies on is `Ordinary`: it may
fail, but never with that fault. The operations on patterns follow in
`Specimen.Proofs.PatternFaults`.
-/

import Specimen.Generation

namespace Specimen

/-- The operation does not fail with an unknown kind. -/
def Ordinary {α : Type} : Except Fault α → Prop
  | .ok _ => True
  | .error fault => fault.isUnknownType = false

namespace Ordinary

variable {α β : Type}

@[simp] theorem ok (value : α) : Ordinary (.ok value : Except Fault α) := True.intro

@[simp] theorem pure (value : α) : Ordinary (pure value : Except Fault α) := True.intro

@[simp] theorem error_iff (fault : Fault) :
    Ordinary (.error fault : Except Fault α) ↔ fault.isUnknownType = false := Iff.rfl

theorem throw {fault : Fault} (known : fault.isUnknownType = false) :
    Ordinary (throw fault : Except Fault α) := known

/-- A sequence fails with ordinary faults alone if all its parts do. -/
theorem bind {first : Except Fault α} {next : α → Except Fault β} (begun : Ordinary first)
    (continued : ∀ value, Ordinary (next value)) : Ordinary (first >>= next) := by
  cases first with
  | ok value => exact continued value
  | error fault => exact begun

theorem mapOption {item : Option α} {next : α → Except Fault β}
    (each : ∀ item, Ordinary (next item)) : Ordinary (item.mapM next) := by
  cases item with
  | none => exact pure none
  | some item => exact (each item).bind fun value => pure _

end Ordinary

/-! ### Values -/

namespace Value

/-- Values that cannot be compared are an ordinary fault. -/
theorem compares_ordinary (comparison : Comparison) (first second : Value) :
    Ordinary (compares comparison first second) := by
  unfold compares
  split <;> simp [Fault.isUnknownType]

theorem increment_ordinary (value : Value) : Ordinary value.increment := by
  unfold increment
  split
  · exact .ok _
  · split <;> simp [Fault.isUnknownType]

/-- A value that is no index is an ordinary fault. -/
theorem toIndex_ordinary (value : Value) : Ordinary value.toIndex := by
  unfold toIndex
  split
  · split
    · exact rfl
    · exact rfl
    · split <;> simp [Fault.isUnknownType]
  · exact rfl
  · split <;> simp [Fault.isUnknownType]

theorem toBinary64_ordinary (value : Value) : Ordinary value.toBinary64 := by
  unfold toBinary64
  split
  · exact .ok _
  · split
    · split <;> simp [Fault.isUnknownType]
    · exact rfl

theorem roundFloat_ordinary (rounding : Rat → Int) (number : Binary64) :
    Ordinary (roundFloat rounding number) := by
  unfold roundFloat
  split <;> simp [Fault.isUnknownType]

/-- A value that cannot be rounded up is an ordinary fault. -/
theorem ceiling_ordinary (value : Value) : Ordinary value.ceiling := by
  unfold ceiling
  split
  · exact roundFloat_ordinary _ _
  · split <;> simp [Fault.isUnknownType]

theorem floor_ordinary (value : Value) : Ordinary value.floor := by
  unfold floor
  split
  · exact roundFloat_ordinary _ _
  · split <;> simp [Fault.isUnknownType]

/-! ### Dates -/

/-- A date that leaves the calendar is an ordinary fault. -/
theorem moved_ordinary (backwards : Bool) (span : Int) (date : Value) :
    Ordinary (date.moved backwards span) := by
  unfold moved
  split
  · split <;> simp [Fault.isUnknownType]
  · split <;> simp [Fault.isUnknownType]
  · exact rfl

theorem later_ordinary (date : Value) (span : Int) : Ordinary (date.later span) :=
  moved_ordinary false span date

theorem earlier_ordinary (date : Value) (span : Int) : Ordinary (date.earlier span) :=
  moved_ordinary true span date

/-- Dates that are no distance apart are an ordinary fault. -/
theorem gap_ordinary (low high : Value) : Ordinary (low.gap high) := by
  unfold gap
  split
  · split <;> simp [Fault.isUnknownType]
  · exact .ok _
  · exact .ok _
  · split
    · exact .ok _
    · simp only
      split
      · exact Ordinary.bind (Ordinary.throw rfl) fun _ => (toBinary64_ordinary _).bind fun _ =>
          (toBinary64_ordinary _).bind fun _ => .pure _
      · exact (toBinary64_ordinary _).bind fun _ => (toBinary64_ordinary _).bind fun _ => .pure _

theorem through_ordinary (low : Value) (gap : Gap) (fraction : Binary64) :
    Ordinary (low.through gap fraction) := by
  unfold through
  split
  · exact (toBinary64_ordinary _).bind fun _ => (toBinary64_ordinary _).bind fun _ => .pure _
  · exact (toBinary64_ordinary _).bind fun _ => .pure _
  · exact later_ordinary _ _
  · exact rfl

theorem spanBetween_ordinary (low high : Value) : Ordinary (low.spanBetween high) := by
  refine (gap_ordinary low high).bind fun gap => ?_
  split
  · exact .pure _
  · exact .throw rfl

theorem daysInSeconds_ordinary (days : Value) : Ordinary days.daysInSeconds := by
  unfold daysInSeconds
  split
  · exact .ok _
  · split <;> simp [Fault.isUnknownType]

end Value

theorem spanOfSeconds_ordinary (seconds : Binary64) : Ordinary (spanOfSeconds seconds) := by
  unfold spanOfSeconds
  split
  · exact rfl
  · exact rfl
  · simp only
    split <;> simp [Fault.isUnknownType]

namespace DateBounds

theorem ofSeconds_ordinary (seconds : Binary64) : Ordinary (ofSeconds seconds) := by
  unfold ofSeconds
  split
  · exact rfl
  · exact rfl
  · simp only
    split
    · exact rfl
    · split
      · exact rfl
      · split <;> simp [Fault.isUnknownType]

/-- A bound that denotes no date is an ordinary fault. -/
theorem momentOf_ordinary (bound : Value) : Ordinary (momentOf bound) := by
  unfold momentOf
  split
  · exact .ok _
  · exact (Value.toBinary64_ordinary _).bind fun _ => (ofSeconds_ordinary _).bind fun _ => .pure _
  · split
    · exact .ok _
    · exact (ofSeconds_ordinary _).bind fun _ => .pure _
  · exact .ok _

end DateBounds

/-! ### Bounds and contexts -/

/-- Bounds of numbers fail with ordinary faults alone. -/
theorem NumberBounds.integers_ordinary (bounds : NumberBounds) : Ordinary bounds.integers :=
  (Ordinary.mapOption fun bound => (Value.ceiling_ordinary bound).bind fun _ => .pure _).bind
    fun _ => (Ordinary.mapOption fun bound => (Value.floor_ordinary bound).bind
      fun _ => .pure _).bind fun _ => .pure _

/-- Bounds of sizes fail with ordinary faults alone. -/
theorem SizeBounds.resolve_ordinary (bounds : SizeBounds) (defaultMin defaultMax : Value) :
    Ordinary (bounds.resolve defaultMin defaultMax) :=
  (Value.compares_ordinary _ _ _).bind fun _ => .pure _

namespace Context

/-- Depths that cannot be compared are an ordinary fault. -/
theorem exhausted_ordinary (context : Context) : Ordinary context.exhausted :=
  Value.compares_ordinary _ _ _

theorem descend_ordinary (context : Context) : Ordinary context.descend :=
  (Value.increment_ordinary _).bind fun _ => .pure _

end Context

namespace TextSynthesis

theorem lengthInterval_ordinary (bounds : TextBounds) : Ordinary (lengthInterval bounds) := by
  unfold lengthInterval
  split
  · exact (Value.compares_ordinary _ _ _).bind fun _ => .pure _
  · exact Ordinary.bind ((Value.compares_ordinary _ _ _).bind fun _ => .pure _) fun _ => .pure _
  · exact .pure _
  · exact .pure _

theorem nameText_ordinary (name : Value) : Ordinary (Catalog.nameText name) := by
  unfold Catalog.nameText
  split <;> simp [Fault.isUnknownType]

theorem fieldName_ordinary (context : Context) : Ordinary (fieldName context) := by
  unfold fieldName
  split
  · exact (nameText_ordinary _).bind fun _ => .pure _
  · exact .pure _

/-- Looking for a function of the caller fails with ordinary faults alone. -/
theorem callersFunction_ordinary (context : Context) : Ordinary (callersFunction? context) := by
  unfold callersFunction?
  split
  · exact .ok _
  · split
    · exact rfl
    · split <;> exact .ok _

theorem cutTo_ordinary (bound : Value) (text : String) : Ordinary (cutTo bound text) := by
  unfold cutTo
  split <;> simp [Fault.isUnknownType]

end TextSynthesis

theorem Make.entryTarget_ordinary (size : Value) : Ordinary (Make.entryTarget size) := by
  unfold Make.entryTarget
  split
  · split
    · exact .ok _
    · split <;> simp [Fault.isUnknownType]
    · exact .ok _
  · split <;> simp [Fault.isUnknownType]

/-- An empty range to draw from is an ordinary fault. -/
theorem Twister.between_ordinary (low high : Int) (twister : Twister) :
    Ordinary (twister.between low high).1 := by
  unfold Twister.between
  split <;> simp [Fault.isUnknownType]

end Specimen
