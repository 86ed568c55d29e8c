/-
**How deeply containers nest.**

`Value.nesting` counts the dictionaries, lists and sets with something in them on the ways into a
value; tuples and promises are passed without being counted, and an enumeration member is a leaf.
Putting entries of one dictionary into another does not nest deeper.
-/

import Specimen.Value

namespace Specimen

namespace Value

/-- The nesting of a container, given whether it is empty and how deeply its contents nest. -/
def nestingAround (empty : Bool) (inside : Nat) : Nat := if empty then 0 else inside + 1

mutual

/-- The greatest number of dictionaries, lists and sets that are not empty on a way into a value. -/
def nesting : Value → Nat
  | .list items => nestingAround items.isEmpty (nestingItems items)
  | .set members _ => nestingAround members.isEmpty (nestingItems members)
  | .dictionary entries => nestingAround entries.isEmpty (nestingEntries entries)
  | .tuple items => nestingItems items
  | .promise _ settled => nesting settled
  | _ => 0
  termination_by structural value => value

/-- The greatest nesting in a list of values. -/
def nestingItems : List Value → Nat
  | [] => 0
  | item :: rest => max (nesting item) (nestingItems rest)
  termination_by structural items => items

/-- The greatest nesting in a list of entries. -/
def nestingEntries : List (Value × Value) → Nat
  | [] => 0
  | (key, value) :: rest => max (max (nesting key) (nesting value)) (nestingEntries rest)
  termination_by structural entries => entries

end

/-- Is the value neither an integer nor a collection? -/
def isPlain : Value → Bool
  | .int _ | .list _ | .tuple _ | .set _ _ | .dictionary _ | .promise _ _ => false
  | _ => true

theorem nesting_of_isPlain {value : Value} (plain : value.isPlain = true) : value.nesting = 0 := by
  cases value with
  | int _ | list _ | tuple _ | set _ _ | dictionary _ | promise _ _ => cases plain
  | _ => rfl

/-! ### Bounds on nesting -/

theorem nestingItems_le {items : List Value} {bound : Nat} :
    nestingItems items ≤ bound ↔ ∀ item ∈ items, item.nesting ≤ bound := by
  induction items with
  | nil => simp [nestingItems]
  | cons item rest hypothesis =>
    rw [nestingItems, Nat.max_le, hypothesis, List.forall_mem_cons]

theorem nestingEntries_le {entries : List (Value × Value)} {bound : Nat} :
    nestingEntries entries ≤ bound ↔
      ∀ entry ∈ entries, entry.1.nesting ≤ bound ∧ entry.2.nesting ≤ bound := by
  induction entries with
  | nil => simp [nestingEntries]
  | cons entry rest hypothesis =>
    rw [nestingEntries, Nat.max_le, Nat.max_le, hypothesis, List.forall_mem_cons]

/-- A container nests within a bound if what it contains nests below it. -/
theorem nestingAround_le {α : Type} {members : List α} {depth : α → Nat} {inside bound : Nat}
    (contents : ∀ limit, inside ≤ limit ↔ ∀ member ∈ members, depth member ≤ limit) :
    nestingAround members.isEmpty inside ≤ bound ↔ ∀ member ∈ members, depth member < bound := by
  cases members with
  | nil => simp [nestingAround]
  | cons first others =>
    have around : nestingAround (first :: others).isEmpty inside = inside + 1 := rfl
    rw [around]
    cases bound with
    | zero =>
      refine ⟨fun within => by omega, fun each => ?_⟩
      have := each first List.mem_cons_self
      omega
    | succ bound =>
      rw [Nat.add_le_add_iff_right, contents bound]
      simp only [Nat.lt_succ_iff]

theorem nesting_list_le {items : List Value} {bound : Nat} :
    (Value.list items).nesting ≤ bound ↔ ∀ item ∈ items, item.nesting < bound :=
  nestingAround_le fun _ => nestingItems_le

theorem nesting_set_le {members : List Value} {frozen : Bool} {bound : Nat} :
    (Value.set members frozen).nesting ≤ bound ↔ ∀ member ∈ members, member.nesting < bound :=
  nestingAround_le fun _ => nestingItems_le

theorem nesting_dictionary_le {entries : List (Value × Value)} {bound : Nat} :
    (Value.dictionary entries).nesting ≤ bound ↔
      ∀ entry ∈ entries, entry.1.nesting < bound ∧ entry.2.nesting < bound := by
  have contents : ∀ limit, nestingEntries entries ≤ limit ↔
      ∀ entry ∈ entries, max entry.1.nesting entry.2.nesting ≤ limit := by
    intro limit
    simp only [nestingEntries_le, Nat.max_le]
  have around : nestingAround entries.isEmpty (nestingEntries entries) ≤ bound ↔
      ∀ entry ∈ entries, max entry.1.nesting entry.2.nesting < bound :=
    nestingAround_le contents
  rw [nesting]
  simpa only [Nat.max_lt] using around

theorem nesting_tuple_le {items : List Value} {bound : Nat} :
    (Value.tuple items).nesting ≤ bound ↔ ∀ item ∈ items, item.nesting ≤ bound :=
  nestingItems_le

/-! ### Putting entries -/

/-- What holds of all keys and values still holds after an entry is put of which it holds. -/
theorem forall_put (keys values : Value → Prop) {entries : List (Value × Value)}
    {key value : Value} (each : ∀ entry ∈ entries, keys entry.1 ∧ values entry.2)
    (ofKey : keys key) (ofValue : values value) :
    ∀ entry ∈ put entries key value, keys entry.1 ∧ values entry.2 := by
  induction entries with
  | nil => simpa [put] using ⟨ofKey, ofValue⟩
  | cons first rest hypothesis =>
    rw [List.forall_mem_cons] at each
    unfold put
    split
    · exact List.forall_mem_cons.2 ⟨⟨each.1.1, ofValue⟩, each.2⟩
    · exact List.forall_mem_cons.2 ⟨each.1, hypothesis each.2⟩

theorem forall_putAll (keys values : Value → Prop) {entries more : List (Value × Value)}
    (each : ∀ entry ∈ entries, keys entry.1 ∧ values entry.2)
    (others : ∀ entry ∈ more, keys entry.1 ∧ values entry.2) :
    ∀ entry ∈ putAll entries more, keys entry.1 ∧ values entry.2 := by
  induction more generalizing entries with
  | nil => exact each
  | cons first rest hypothesis =>
    rw [List.forall_mem_cons] at others
    exact hypothesis (forall_put keys values each others.1.1 others.1.2) others.2

/-- Dictionaries with their entries put together nest no deeper than each of them may. -/
theorem nesting_putAll_le {entries more : List (Value × Value)} {bound : Nat}
    (first : (Value.dictionary entries).nesting ≤ bound)
    (second : (Value.dictionary more).nesting ≤ bound) :
    (Value.dictionary (putAll entries more)).nesting ≤ bound := by
  rw [nesting_dictionary_le] at first second ⊢
  exact forall_putAll (·.nesting < bound) (·.nesting < bound) first second

end Value

end Specimen
