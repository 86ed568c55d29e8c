/-
**What collections are made of.**

Whatever a property of values is, a collection whose members come from runs that yield values with
the property has only such members: the items of arrays and sets, and the keys and values of
entries. How many members there are, and which of the drawn ones were dropped, does not matter.
-/

import Specimen.Proofs.Distinct
import Specimen.Proofs.Nesting
import Specimen.Proofs.Repetition

namespace Specimen

open Run (Yields IsLoop CountEnds)

/-- Each member of a list that corresponds to another one belongs to a member of that. -/
theorem exists_of_forall₂ {α β : Type} {related : α → β → Prop} {items : List α} {values : List β}
    (each : List.Forall₂ related items values) :
    ∀ value ∈ values, ∃ item ∈ items, related item value := by
  induction each with
  | nil => exact List.forall_mem_nil _
  | cons first others hypothesis =>
    refine List.forall_mem_cons.2 ⟨⟨_, List.mem_cons_self, first⟩, fun value mem => ?_⟩
    obtain ⟨item, listed, belongs⟩ := hypothesis value mem
    exact ⟨item, List.mem_cons_of_mem _ listed, belongs⟩

/-! ### Choices -/

/-- A drawn member is one of the list. -/
theorem Draw.member_yields {α : Type} (members : List α) :
    Yields (member members) fun found => found ∈ members := by
  refine Yields.last fun index => ?_
  split
  · next found at_index => exact Yields.pure (List.mem_of_getElem? at_index)
  · exact Yields.throw _

namespace Make

variable {property : Value → Prop} {make : Run Value}

/-! ### Items -/

/-- A number of items is made by making one as often. -/
theorem copies_ends (make : Run Value) (count : Nat) (session : Session) :
    CountEnds make count session (copies make count session) := by
  induction count generalizing session with
  | zero => exact .all (.nil session) rfl
  | succ count hypothesis =>
    rcases drew : make session with ⟨fault | item, next⟩
    · rw [copies, Run.bind_error drew]
      exact .failed (.nil session) (Nat.succ_pos count) drew
    · rw [copies, Run.bind_ok drew, Run.bind_pure_apply]
      exact (hypothesis next).cons drew

theorem copies_yields (each : Yields make property) (count : Nat) :
    Yields (copies make count) fun items => ∀ item ∈ items, property item := by
  intro session items after ended
  have ends := copies_ends make count session
  rw [ended] at ends
  cases ends with
  | all repeats enough => exact repeats.holds each

theorem items_yields (checks : List Check) {element : Make} {context : Context}
    (each : Yields (element context) property) :
    Yields (items checks element context) fun items => ∀ item ∈ items, property item :=
  Yields.last fun _ => copies_yields each _

theorem members_yields {makes : List Make} {context : Context}
    (each : ∀ make ∈ makes, Yields (make context) property) :
    Yields (makes.mapM fun make => make context) fun items => ∀ item ∈ items, property item := by
  refine Yields.mono (Yields.mapM each) fun values related value mem => ?_
  obtain ⟨make, _, holds⟩ := exists_of_forall₂ related value mem
  exact holds

/-! ### Members -/

/-- A set gathers what is drawn until there are enough members. -/
theorem collect_isLoop (make : Run Value) (target : Int) :
    IsLoop (collect make target) (fun found => target ≤ found.members.length) make
      fun found drawn => .ok (found.add drawn) where
  ended _ := rfl
  stops attempts found enough := by rw [collect, if_pos enough]
  goesOn attempts found short := by rw [collect, if_neg short]; rfl

/-- A set keeps the members that it has and gets members that were drawn. -/
theorem collect_yields (each : Yields make property) (target : Int) (attempts : Nat)
    {found : Gathering} (start : ∀ member ∈ found.members, property member) :
    Yields (collect make target attempts found) fun gathered =>
      ∀ member ∈ gathered.members, property member := by
  refine (collect_isLoop make target).yields each ?_ attempts start
  rintro found drawn _ hold _ holds ⟨⟩ member mem
  rcases Gathering.mem_of_mem_add mem with earlier | rfl
  · exact hold member earlier
  · exact holds

/-! ### Entries -/

/-- An entry: a key and then its value. -/
def entry (key value : Run Value) : Run (Value × Value) := do
  let drawnKey ← key
  let drawnValue ← value
  pure (drawnKey, drawnValue)

/-- An entry is put if its key may be one. -/
def putEntry (found : List (Value × Value)) (drawn : Value × Value) :
    Except Fault (List (Value × Value)) :=
  if drawn.1.isHashable then .ok (Value.put found drawn.1 drawn.2) else .error .wrongType

/-- A map or a record puts entries until there are enough keys. -/
theorem fill_isLoop (key value : Run Value) (enough : Nat) :
    IsLoop (fill key value enough) (fun found => enough ≤ found.length) (entry key value)
      putEntry where
  ended _ := rfl
  stops attempts found reached := by rw [fill, if_pos reached]
  goesOn attempts found short := by
    rw [fill, if_neg short, entry]
    simp only [bind_assoc, pure_bind, putEntry]
    refine congrArg (key >>= ·) (funext fun drawnKey => congrArg (value >>= ·) (funext fun _ => ?_))
    cases drawnKey.isHashable <;> rfl

/-- Entries get keys and values that were drawn; a key that is there keeps its form. -/
theorem fill_yields {keys values : Value → Prop} {key value : Run Value}
    (ofKeys : Yields key keys) (ofValues : Yields value values) (enough attempts : Nat)
    {found : List (Value × Value)} (start : ∀ entry ∈ found, keys entry.1 ∧ values entry.2) :
    Yields (fill key value enough attempts found) fun entries =>
      ∀ entry ∈ entries, keys entry.1 ∧ values entry.2 := by
  have draws : Yields (entry key value) fun drawn => keys drawn.1 ∧ values drawn.2 :=
    ofKeys.bind fun _ keyHolds => ofValues.bind fun _ valueHolds =>
      Yields.pure ⟨keyHolds, valueHolds⟩
  refine (fill_isLoop key value enough).yields draws ?_ attempts start
  intro found drawn next hold _ holds put
  unfold putEntry at put
  split at put
  · cases put
    exact Value.forall_put keys values hold holds.1 holds.2
  · cases put

/-- The fields of an object are the described ones, each with what was made for it. -/
theorem fillFields_yields {fields : List (String × Make)} {context : Context}
    (each : ∀ field ∈ fields, Yields (field.2 (context.forKey (.text field.1))) property) :
    Yields (fillFields fields context) fun entries =>
      List.Forall₂ (fun field entry => entry.1 = .text field.1 ∧ property entry.2) fields
        entries := by
  refine Yields.mapM fun field mem => ?_
  exact Yields.bind (each field mem) fun made holds => Yields.pure ⟨rfl, holds⟩

end Make

end Specimen
