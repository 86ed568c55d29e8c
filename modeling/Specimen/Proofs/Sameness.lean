/-
**Sameness.**

As members of a collection, and as keys of a dictionary, two values count as one if they are equal
or the same object. This is an equivalence: a value is the same as itself (`Value.same_refl`), and
two values that are the same are the same as the same values (`Value.same_congr`), from which
symmetry and transitivity follow.

Values that hold no others have a form that says what they are the same as, whatever their type
(`Value.Atom`). For the others the laws are shown by recursion on the first value.
-/

import Mathlib.Data.List.Basic
import Specimen.Value

namespace Specimen

/-! ### Lists that hold the same -/

/-- Two lists are of one size, and each item of either has its like in the other. -/
@[mk_iff]
structure HoldAlike {α : Type} (alike : α → α → Prop) (items others : List α) : Prop where
  size : items.length = others.length
  into : ∀ item ∈ items, ∃ other ∈ others, alike item other
  onto : ∀ other ∈ others, ∃ item ∈ items, alike item other

namespace HoldAlike

variable {α : Type} {alike : α → α → Prop} {items others : List α}

/-- A list holds the same as itself, if every item is like itself. -/
theorem refl (each : ∀ item ∈ items, alike item item) : HoldAlike alike items items :=
  ⟨rfl, fun item mem => ⟨item, mem, each item mem⟩, fun item mem => ⟨item, mem, each item mem⟩⟩

/-- Lists that hold the same hold the same as the same lists, if this is so of the items of one. -/
theorem congr (hold : HoldAlike alike items others)
    (each : ∀ item ∈ items, ∀ second, alike item second → ∀ third,
      alike item third ↔ alike second third) (more : List α) :
    HoldAlike alike items more ↔ HoldAlike alike others more := by
  refine ⟨fun found => ⟨hold.size.symm.trans found.size, fun other mem => ?_, fun last mem => ?_⟩,
    fun found => ⟨hold.size.trans found.size, fun item mem => ?_, fun last mem => ?_⟩⟩
  · obtain ⟨item, isItem, like⟩ := hold.onto other mem
    obtain ⟨last, isLast, alsoLike⟩ := found.into item isItem
    exact ⟨last, isLast, (each item isItem other like last).1 alsoLike⟩
  · obtain ⟨item, isItem, alsoLike⟩ := found.onto last mem
    obtain ⟨other, isOther, like⟩ := hold.into item isItem
    exact ⟨other, isOther, (each item isItem other like last).1 alsoLike⟩
  · obtain ⟨other, isOther, like⟩ := hold.into item mem
    obtain ⟨last, isLast, alsoLike⟩ := found.into other isOther
    exact ⟨last, isLast, (each item mem other like last).2 alsoLike⟩
  · obtain ⟨other, isOther, alsoLike⟩ := found.onto last mem
    obtain ⟨item, isItem, like⟩ := hold.onto other isOther
    exact ⟨item, isItem, (each item isItem other like last).2 alsoLike⟩

end HoldAlike

namespace Value

/-! ### Every value is the same as itself -/

/-- A number is the same as itself, even if it is not a number. -/
theorem sameNumber_refl (value : Value) (numeric : value.isNumeric = true) :
    value.sameNumber value = true := by
  cases value with
  | bool truth => cases truth <;> rfl
  | int number => simp [sameNumber, toExtended?]
  | float number =>
    cases number with
    | finite negative significand exponent => simp [sameNumber, toExtended?, Binary64.toExtended?]
    | infinite negative => cases negative <;> rfl
    | nan payload => simp [sameNumber]
  | _ => cases numeric

section Members

variable {items others : List Value} {entries more : List (Value × Value)}

/-- Values are included in others if each of them is the same as one of those. -/
theorem includedIn_iff : includedIn items others = true ↔
    ∀ item ∈ items, ∃ other ∈ others, item.same other = true := by
  induction items with
  | nil => simp [includedIn]
  | cons item rest hypothesis =>
    rw [includedIn, Bool.and_eq_true, hypothesis, List.any_eq_true, List.forall_mem_cons]

/-- A value is among others if one of them is the same as it. -/
theorem isAmong_iff {other : Value} :
    isAmong items other = true ↔ ∃ item ∈ items, item.same other = true := by
  induction items with
  | nil => simp [isAmong]
  | cons item rest hypothesis =>
    rw [isAmong, Bool.or_eq_true, hypothesis, List.exists_mem_cons_iff]

theorem entriesIn_iff : entriesIn entries more = true ↔ ∀ entry ∈ entries, ∃ other ∈ more,
    entry.1.same other.1 = true ∧ entry.2.same other.2 = true := by
  induction entries with
  | nil => simp [entriesIn]
  | cons entry rest hypothesis =>
    rw [entriesIn, Bool.and_eq_true, hypothesis, List.any_eq_true, List.forall_mem_cons]
    simp only [Bool.and_eq_true]

theorem isEntryAmong_iff {other : Value × Value} : isEntryAmong entries other = true ↔
    ∃ entry ∈ entries, entry.1.same other.1 = true ∧ entry.2.same other.2 = true := by
  induction entries with
  | nil => simp [isEntryAmong]
  | cons entry rest hypothesis =>
    rw [isEntryAmong, Bool.or_eq_true, hypothesis, Bool.and_eq_true, List.exists_mem_cons_iff]

/-- Two entries have the same key and the same value. -/
def SameEntry (entry other : Value × Value) : Prop :=
  entry.1.same other.1 = true ∧ entry.2.same other.2 = true

/-- Two sets are the same if they hold the same members. -/
theorem set_same_iff {frozen : Bool} {other : Value} : (set items frozen).same other = true ↔
    ∃ others alsoFrozen, other = .set others alsoFrozen ∧
      HoldAlike (fun item other => item.same other = true) items others := by
  cases other <;> simp [same, includedIn_iff, isAmong_iff, holdAlike_iff, and_assoc]

/-- Two dictionaries are the same if they hold the same entries. -/
theorem dictionary_same_iff {other : Value} : (dictionary entries).same other = true ↔
    ∃ others, other = .dictionary others ∧ HoldAlike SameEntry entries others := by
  cases other <;>
    simp [same, entriesIn_iff, isEntryAmong_iff, holdAlike_iff, SameEntry, and_assoc]

/-- A list is the same as a list of the same items in the same places. -/
theorem list_same_iff {other : Value} : (list items).same other = true ↔
    ∃ others, other = .list others ∧ sameItems items others = true := by
  cases other <;> simp [same]

/-- A tuple is the same as a tuple of the same items in the same places. -/
theorem tuple_same_iff {other : Value} : (tuple items).same other = true ↔
    ∃ others, other = .tuple others ∧ sameItems items others = true := by
  cases other <;> simp [same]

end Members

mutual

/-- Every value is the same as itself. -/
theorem same_refl : ∀ value : Value, value.same value = true
  | .absent | .null => rfl
  | .bool truth => sameNumber_refl (.bool truth) rfl
  | .int number => sameNumber_refl (.int number) rfl
  | .float number => sameNumber_refl (.float number) rfl
  | .text _ | .day _ | .promise _ _ | .function _ _ => by simp [same]
  | .moment found => by simp [same, Moment.same, Moment.order?]
  | .member _ _ _ => by simp [same]
  | .list items => by rw [same]; exact sameItems_refl items
  | .tuple items => by rw [same]; exact sameItems_refl items
  | .set members frozen =>
    set_same_iff.2 ⟨members, frozen, rfl, .refl (forall_same_refl members)⟩
  | .dictionary entries =>
    dictionary_same_iff.2 ⟨entries, rfl, .refl (forall_sameEntry_refl entries)⟩
  termination_by structural value => value

theorem sameItems_refl : ∀ items : List Value, sameItems items items = true
  | [] => rfl
  | item :: rest => by rw [sameItems, same_refl item, sameItems_refl rest]; rfl
  termination_by structural items => items

theorem forall_same_refl : ∀ items : List Value, ∀ item ∈ items, item.same item = true
  | [] => List.forall_mem_nil _
  | item :: rest => List.forall_mem_cons.2 ⟨same_refl item, forall_same_refl rest⟩
  termination_by structural items => items

theorem forall_sameEntry_refl : ∀ entries : List (Value × Value), ∀ entry ∈ entries,
    SameEntry entry entry
  | [] => List.forall_mem_nil _
  | (key, value) :: rest =>
    List.forall_mem_cons.2 ⟨⟨same_refl key, same_refl value⟩, forall_sameEntry_refl rest⟩
  termination_by structural entries => entries

end

/-! ### Values that hold no others -/

/-- What a value that holds no others is the same as. -/
inductive Atom where
  | absent
  | null
  | text (value : String)
  | number (value : ExtendedRat)
  | nan (payload : Nat)
  | moment (isAware : Bool) (instant : Int)
  | day (value : Day)
  | member (family : EnumClass) (name : String)
  | promise (identity : Nat)
  | function (identity : Nat)

/-- What a float is the same as. -/
def floatAtom : Binary64 → Atom
  | .nan payload => .nan payload
  | .infinite true => .number .negativeInfinity
  | .infinite false => .number .positiveInfinity
  | number => .number (.rational number.toRat)

/-- The form of a value that holds no others. -/
def atom? : Value → Option Atom
  | .absent => some .absent
  | .null => some .null
  | .bool value => some (.number (.rational (if value then 1 else 0)))
  | .int value => some (.number (.rational value))
  | .float value => some (floatAtom value)
  | .text value => some (.text value)
  | .moment value => some (.moment value.isAware value.instant)
  | .day value => some (.day value)
  | .member family name _ => some (.member family name)
  | .promise identity _ => some (.promise identity)
  | .function _ identity => some (.function identity)
  | .list _ | .tuple _ | .set _ _ | .dictionary _ => none

/-- A float stands on the extended line, or it is not a number. -/
theorem floatAtom_form (number : Binary64) :
    (∃ payload, floatAtom number = .nan payload) ∨
      ∃ extended, floatAtom number = .number extended := by
  cases number with
  | nan payload => exact .inl ⟨payload, rfl⟩
  | infinite negative => cases negative <;> exact .inr ⟨_, rfl⟩
  | finite negative significand exponent => exact .inr ⟨_, rfl⟩

/-- The atoms of numbers are where they stand on the extended line. -/
theorem atom_eq_number_iff {value : Value} {extended : ExtendedRat} :
    value.atom? = some (.number extended) ↔ value.toExtended? = some extended := by
  cases value with
  | float number =>
    cases number with
    | infinite negative =>
      cases negative <;> simp [atom?, floatAtom, toExtended?, Binary64.toExtended?]
    | _ => simp [atom?, floatAtom, toExtended?, Binary64.toExtended?]
  | _ => simp [atom?, toExtended?]

/-- What is not a number is an atom of its own, by its payload. -/
theorem atom_eq_nan_iff {value : Value} {payload : Nat} :
    value.atom? = some (.nan payload) ↔ value = .float (.nan payload) := by
  cases value with
  | float number =>
    cases number with
    | infinite negative => cases negative <;> simp [atom?, floatAtom]
    | _ => simp [atom?, floatAtom]
  | _ => simp [atom?]

/-- Numbers are the same where they stand at one place. -/
theorem sameNumber_of_extended {first second : Value} {extended : ExtendedRat}
    (found : first.toExtended? = some extended) :
    first.sameNumber second = true ↔ first.atom? = second.atom? := by
  rw [atom_eq_number_iff.2 found, @eq_comm _ (some (Atom.number extended)), atom_eq_number_iff]
  unfold sameNumber
  split
  · cases found
  · rw [found]
    cases second.toExtended? with
    | none => simp
    | some other => simp [@eq_comm _ extended]

/-- Two numbers are the same if their forms agree. -/
theorem sameNumber_iff {first : Value} (numeric : first.isNumeric = true) (second : Value) :
    first.sameNumber second = true ↔ first.atom? = second.atom? := by
  cases first with
  | bool truth => exact sameNumber_of_extended rfl
  | int number => exact sameNumber_of_extended rfl
  | float number =>
    cases number with
    | finite negative significand exponent => exact sameNumber_of_extended rfl
    | infinite negative => cases negative <;> exact sameNumber_of_extended rfl
    | nan payload =>
      rw [atom_eq_nan_iff.2 rfl, @eq_comm _ (some (Atom.nan payload)), atom_eq_nan_iff]
      unfold sameNumber
      split
      · next left right isLeft => simp_all [@eq_comm _ right]
      · next other => simp_all [toExtended?, Binary64.toExtended?]
  | _ => cases numeric

/-- Moments are the same if they are one instant on the same kind of clock. -/
theorem moment_same_iff (first second : Moment) :
    first.same second = true ↔ first.isAware = second.isAware ∧ first.instant = second.instant := by
  unfold Moment.same Moment.order?
  split
  · next aware => simp [aware]
  · next aware => simp [aware]

/-- A value that holds no others is the same as the values of its form. -/
theorem same_iff_atom {first : Value} {form : Atom} (isAtom : first.atom? = some form)
    (second : Value) : first.same second = true ↔ first.atom? = second.atom? := by
  cases first with
  | bool truth =>
    rw [← sameNumber_iff rfl second]
    cases second <;> rfl
  | int number =>
    rw [← sameNumber_iff rfl second]
    cases second <;> rfl
  | float number =>
    rw [← sameNumber_iff rfl second]
    cases second <;> rfl
  | moment found =>
    cases second with
    | moment other => simp [same, moment_same_iff, atom?]
    | float number =>
      rcases floatAtom_form number with ⟨_, form⟩ | ⟨_, form⟩ <;> simp [same, atom?, form]
    | _ => simp [same, atom?]
  | list | tuple | set | dictionary => cases isAtom
  | _ =>
    cases second with
    | float number =>
      rcases floatAtom_form number with ⟨_, form⟩ | ⟨_, form⟩ <;> simp [same, atom?, form]
    | _ => simp [same, atom?]

/-! ### Values that are the same are the same as the same values -/

/-- What is the same as the value is the same as the same values. -/
def IsCongruent (value : Value) : Prop :=
  ∀ second, value.same second = true → ∀ other, value.same other = second.same other

/-- Values that hold no others are congruent, since their atoms decide. -/
theorem isCongruent_of_atom {value : Value} {form : Atom} (isAtom : value.atom? = some form) :
    value.IsCongruent := by
  intro second alike other
  have sameForm := (same_iff_atom isAtom second).1 alike
  rw [Bool.eq_iff_iff, same_iff_atom isAtom, same_iff_atom (sameForm.symm.trans isAtom), sameForm]

/-- Lists of congruent items that are the same are the same as the same lists. -/
theorem sameItems_congr {items : List Value} (each : ∀ item ∈ items, item.IsCongruent) :
    ∀ others, sameItems items others = true →
      ∀ more, sameItems items more = sameItems others more := by
  induction items with
  | nil =>
    intro others alike
    cases others with
    | nil => exact fun _ => rfl
    | cons => cases alike
  | cons item rest hypothesis =>
    rw [List.forall_mem_cons] at each
    intro others alike
    cases others with
    | nil => cases alike
    | cons other others =>
      rw [sameItems, Bool.and_eq_true] at alike
      intro more
      cases more with
      | nil => rfl
      | cons first more =>
        rw [sameItems, sameItems, each.1 other alike.1, hypothesis each.2 others alike.2]

section Collections

variable {items : List Value} (each : ∀ item ∈ items, item.IsCongruent)

include each

theorem isCongruent_list : (list items).IsCongruent := by
  intro second alike other
  obtain ⟨others, rfl, sameItems⟩ := list_same_iff.1 alike
  cases other with
  | list more => rw [same, same, sameItems_congr each others sameItems]
  | _ => simp [same]

theorem isCongruent_tuple : (tuple items).IsCongruent := by
  intro second alike other
  obtain ⟨others, rfl, sameItems⟩ := tuple_same_iff.1 alike
  cases other with
  | tuple more => rw [same, same, sameItems_congr each others sameItems]
  | _ => simp [same]

theorem isCongruent_set (frozen : Bool) : (set items frozen).IsCongruent := by
  intro second alike other
  obtain ⟨others, alsoFrozen, rfl, hold⟩ := set_same_iff.1 alike
  have carried : ∀ item ∈ items, ∀ second, item.same second = true → ∀ third,
      item.same third = true ↔ second.same third = true :=
    fun item mem second like third => Bool.eq_iff_iff.1 (each item mem second like third)
  rw [Bool.eq_iff_iff, set_same_iff, set_same_iff]
  exact exists_congr fun more => exists_congr fun _ => and_congr_right fun _ =>
    hold.congr carried more

end Collections

/-- Dictionaries of congruent entries are congruent. -/
theorem isCongruent_dictionary {entries : List (Value × Value)}
    (each : ∀ entry ∈ entries, entry.1.IsCongruent ∧ entry.2.IsCongruent) :
    (dictionary entries).IsCongruent := by
  intro second alike other
  obtain ⟨others, rfl, hold⟩ := dictionary_same_iff.1 alike
  have carried : ∀ entry ∈ entries, ∀ second, SameEntry entry second → ∀ third,
      SameEntry entry third ↔ SameEntry second third := by
    intro entry mem second like third
    obtain ⟨key, value⟩ := each entry mem
    rw [SameEntry, SameEntry, key _ like.1, value _ like.2]
  rw [Bool.eq_iff_iff, dictionary_same_iff, dictionary_same_iff]
  exact exists_congr fun more => and_congr_right fun _ => hold.congr carried more

mutual

/-- Every value is congruent; by structural induction. -/
theorem isCongruent : ∀ value : Value, value.IsCongruent
  | .list items => isCongruent_list (forall_isCongruent items)
  | .tuple items => isCongruent_tuple (forall_isCongruent items)
  | .set members frozen => isCongruent_set (forall_isCongruent members) frozen
  | .dictionary entries => isCongruent_dictionary (forall_entry_isCongruent entries)
  | .absent | .null | .bool _ | .int _ | .float _ | .text _ | .moment _ | .day _
  | .member _ _ _ | .promise _ _ | .function _ _ => isCongruent_of_atom rfl
  termination_by structural value => value

theorem forall_isCongruent : ∀ items : List Value, ∀ item ∈ items, item.IsCongruent
  | [] => List.forall_mem_nil _
  | item :: rest => List.forall_mem_cons.2 ⟨isCongruent item, forall_isCongruent rest⟩
  termination_by structural items => items

theorem forall_entry_isCongruent : ∀ entries : List (Value × Value), ∀ entry ∈ entries,
    entry.1.IsCongruent ∧ entry.2.IsCongruent
  | [] => List.forall_mem_nil _
  | (key, value) :: rest =>
    List.forall_mem_cons.2 ⟨⟨isCongruent key, isCongruent value⟩, forall_entry_isCongruent rest⟩
  termination_by structural entries => entries

end

variable {first second : Value}

/-- **Values that are the same are the same as the same values.** -/
theorem same_congr (alike : first.same second = true) (other : Value) :
    first.same other = second.same other :=
  isCongruent first second alike other

/-- A value is the same as another one only if that is the same as the value. -/
theorem same_symm (alike : first.same second = true) : second.same first = true := by
  rw [← same_congr alike first, same_refl]

theorem same_comm (first second : Value) : first.same second = second.same first :=
  Bool.eq_iff_iff.2 ⟨same_symm, same_symm⟩

/-- Values that compare differently with some value are not the same. -/
theorem not_same_of_ne {other : Value} (differ : first.same other ≠ second.same other) :
    first.same second = false :=
  Bool.eq_false_iff.2 fun alike => differ (same_congr alike other)

/-- Two values that are the same as one value are the same. -/
theorem same_of_same {other : Value} (alike : first.same other = true)
    (alsoAlike : second.same other = true) : first.same second = true := by
  rw [same_comm, same_congr alsoAlike, same_symm alike]

end Value

end Specimen
