/-
**Equality of JSON values.**

Two JSON values agree (`Json.Agrees`) if they are equal but for the order of the members of their
objects. Putting the members of every object in the order of their names decides that
(`Json.sortMembers_eq_iff`), and what is then written tells values without floats apart
(`Json.sortedText_eq_iff`): the text of a value in a fixed order of names is the same only for
values that agree.
-/

import Mathlib.Data.List.Forall2
import Specimen.Proofs.JsonReading

namespace Specimen

/-! ### Lists that are the same in pairs -/

section Pairs

variable {Item Image : Type} {image : Item → Image} {items others : List Item}

/-- Two lists have the same image if they have the same length and each pair has. -/
theorem map_eq_map_iff : items.map image = others.map image ↔
    items.length = others.length ∧ ∀ pair ∈ items.zip others, image pair.1 = image pair.2 := by
  rw [← List.forall₂_eq_eq_eq, List.forall₂_map_left_iff, List.forall₂_map_right_iff,
    List.forall₂_iff_zip]
  exact and_congr_right fun _ => ⟨fun each pair mem => each mem, fun each _ _ mem => each _ mem⟩

theorem eq_of_mem_zip_self {pair : Item × Item} (mem : pair ∈ items.zip items) : pair.1 = pair.2 :=
  (map_eq_map_iff.1 (rfl : items.map id = items.map id)).2 pair mem

end Pairs

namespace Json

/-- Equal but for the order of the members of objects, each of which has different names. -/
inductive Agrees : Json → Json → Prop
  | null : Agrees .null .null
  | bool (value : Bool) : Agrees (.bool value) (.bool value)
  | int (value : Int) : Agrees (.int value) (.int value)
  | float (value : Binary64) : Agrees (.float value) (.float value)
  | text (value : String) : Agrees (.text value) (.text value)
  | array {items others : List Json} (length : items.length = others.length)
      (each : ∀ pair ∈ items.zip others, Agrees pair.1 pair.2) :
      Agrees (.array items) (.array others)
  | object {members others : List (String × Json)} (distinct : (members.map (·.1)).Nodup)
      (names : (members.map (·.1)).Perm (others.map (·.1)))
      (each : ∀ member ∈ members, ∀ other ∈ others, member.1 = other.1 → Agrees member.2 other.2) :
      Agrees (.object members) (.object others)

/-! ### Items and members in order -/

section Order

/-- Items can be put in one order of their texts only, if no two of them have the same. -/
theorem sortBy_congr {Item : Type} {text : Item → String} {items moved : List Item}
    (tells : ∀ first ∈ items, ∀ second ∈ items, text first = text second → first = second)
    (same : items.Perm moved) :
    (items.mergeSort fun first second => !(text second < text first)) =
      moved.mergeSort fun first second => !(text second < text first) := by
  have ordered (first second : Item) :
      (!decide (text second < text first)) = true ↔ text first ≤ text second := by
    rw [Bool.not_eq_true', decide_eq_false_iff_not, String.not_lt]
  have sorted (items : List Item) :
      (items.mergeSort fun first second => !(text second < text first)).Pairwise
        fun first second => (!decide (text second < text first)) = true := by
    refine List.pairwise_mergeSort (fun first second third => ?_) (fun first second => ?_) items
    · simp only [ordered]
      exact String.le_trans
    · rw [Bool.or_eq_true]
      simp only [ordered]
      exact String.le_total (text first) (text second)
  refine List.Perm.eq_of_pairwise (fun first second mem later before after => ?_) (sorted items)
    (sorted moved) ((List.mergeSort_perm _ _).trans (same.trans (List.mergeSort_perm _ _).symm))
  have sameText : text first = text second :=
    String.le_antisymm ((ordered first second).1 before) ((ordered second first).1 after)
  exact tells first (List.mem_mergeSort.1 mem) second
    (same.mem_iff.2 (List.mem_mergeSort.1 later)) sameText

variable {members others : List (String × Json)} {member other : String × Json}

theorem sortItems_eq (items : List Json) : sortItems items = items.map sortMembers := by
  induction items with
  | nil => rfl
  | cons first rest hypothesis => rw [sortItems, hypothesis, List.map_cons]

theorem sortValues_eq (members : List (String × Json)) :
    sortValues members = members.map fun member => (member.1, member.2.sortMembers) := by
  induction members with
  | nil => rfl
  | cons first rest hypothesis =>
    obtain ⟨name, json⟩ := first
    rw [sortValues, hypothesis, List.map_cons]

theorem names_sortValues (members : List (String × Json)) :
    (sortValues members).map (·.1) = members.map (·.1) := by
  rw [sortValues_eq, List.map_map]
  rfl

theorem mem_sortValues (mem : member ∈ members) :
    (member.1, member.2.sortMembers) ∈ sortValues members := by
  rw [sortValues_eq]
  exact List.mem_map_of_mem mem

theorem of_mem_sortValues (mem : member ∈ sortValues members) :
    ∃ origin ∈ members, origin.1 = member.1 ∧ origin.2.sortMembers = member.2 := by
  rw [sortValues_eq] at mem
  obtain ⟨origin, listed, rfl⟩ := List.mem_map.1 mem
  exact ⟨origin, listed, rfl, rfl⟩

/-- Sorted values are among others if each name is, with a value that is the same once sorted. -/
theorem sortValues_subset (names : ∀ member ∈ members, member.1 ∈ others.map (·.1))
    (each : ∀ member ∈ members, ∀ other ∈ others, member.1 = other.1 →
      member.2.sortMembers = other.2.sortMembers) : sortValues members ⊆ sortValues others := by
  intro sorted mem
  obtain ⟨member, listed, isName, isValue⟩ := of_mem_sortValues mem
  obtain ⟨other, also, same⟩ := List.mem_map.1 (names member listed)
  have equal : sorted = (other.1, other.2.sortMembers) := by
    rw [← each member listed other also same.symm, same, isName, isValue]
  exact equal ▸ mem_sortValues also

theorem names_mergeSort (members : List (String × Json)) :
    ((members.mergeSort nameOrder).map (·.1)).Perm (members.map (·.1)) :=
  (List.mergeSort_perm members nameOrder).map _

/-- Under different names the order in which members came does not show once they are sorted. -/
theorem mergeSort_congr (distinct : (members.map (·.1)).Nodup) (moved : members.Perm others) :
    members.mergeSort nameOrder = others.mergeSort nameOrder :=
  sortBy_congr (fun _ mem _ listed same => List.inj_on_of_nodup_map distinct mem listed same) moved

end Order

/-! ### Agreement -/

section Agreement

variable {json first second : Json} {items others : List Json}

theorem IsFloatFree.isClean (free : json.IsFloatFree) : json.IsClean := by
  induction free with
  | null => exact .null
  | bool value => exact .bool value
  | int value => exact .int value
  | text value => exact .text value
  | array _ hypothesis => exact .array hypothesis
  | object distinct _ hypothesis => exact .object distinct hypothesis

/-- To put members in order leaves a value without floats. -/
theorem IsFloatFree.sortMembers (free : json.IsFloatFree) : json.sortMembers.IsFloatFree := by
  induction free with
  | null => exact .null
  | bool value => exact .bool value
  | int value => exact .int value
  | text value => exact .text value
  | @array items _ hypothesis =>
    rw [Json.sortMembers, sortItems_eq]
    exact .array (List.forall_mem_map.2 hypothesis)
  | @object members distinct _ hypothesis =>
    rw [Json.sortMembers]
    refine .object ((names_mergeSort _).nodup_iff.2 ?_) fun member mem => ?_
    · rwa [names_sortValues]
    · obtain ⟨origin, listed, _, sorted⟩ := of_mem_sortValues (List.mem_mergeSort.1 mem)
      exact sorted ▸ hypothesis origin listed

/-- Every value with different names in its objects agrees with itself. -/
theorem IsClean.agrees (clean : json.IsClean) : json.Agrees json := by
  induction clean with
  | null => exact .null
  | bool value => exact .bool value
  | int value => exact .int value
  | @float value _ => exact .float value
  | text value => exact .text value
  | @array items _ hypothesis =>
    refine .array rfl fun pair mem => ?_
    exact eq_of_mem_zip_self mem ▸ hypothesis pair.1 (List.of_mem_zip mem).1
  | @object members distinct _ hypothesis =>
    refine .object distinct (.refl _) fun member mem other listed same => ?_
    rw [← List.inj_on_of_nodup_map distinct mem listed same]
    exact hypothesis member mem

/-- An object agrees with itself when its members are moved. -/
theorem IsClean.agrees_moved {members others : List (String × Json)}
    (clean : (Json.object members).IsClean) (moved : members.Perm others) :
    (Json.object members).Agrees (.object others) := by
  cases clean with
  | object distinct each =>
    refine .object distinct (moved.map _) fun member mem other listed same => ?_
    rw [← List.inj_on_of_nodup_map distinct mem (moved.mem_iff.2 listed) same]
    exact (each member mem).agrees

theorem Agrees.isFloatFree (agrees : first.Agrees second) (free : first.IsFloatFree) :
    second.IsFloatFree := by
  induction agrees with
  | null | bool | int | float | text => exact free
  | @array items others length _ hypothesis =>
    cases free with
    | array each =>
      refine .array fun other listed => ?_
      rw [← List.map_snd_zip length.ge] at listed
      obtain ⟨pair, mem, rfl⟩ := List.mem_map.1 listed
      exact hypothesis pair mem (each pair.1 (List.of_mem_zip mem).1)
  | @object members others _ names _ hypothesis =>
    cases free with
    | object distinct each =>
      refine .object (names.nodup_iff.1 distinct) fun other listed => ?_
      obtain ⟨member, mem, same⟩ :=
        List.mem_map.1 (names.mem_iff.2 (List.mem_map_of_mem listed))
      exact hypothesis member mem other listed same (each member mem)

/-- Values that agree are the same once their members are in order. -/
theorem Agrees.sortMembers_eq (agrees : first.Agrees second) :
    first.sortMembers = second.sortMembers := by
  induction agrees with
  | null | bool | int | float | text => rfl
  | array length _ hypothesis =>
    rw [sortMembers, sortMembers, sortItems_eq, sortItems_eq, map_eq_map_iff.2 ⟨length, hypothesis⟩]
  | @object members others distinct names _ hypothesis =>
    have apart : ((sortValues members).map (·.1)).Nodup := by rwa [names_sortValues]
    have alsoApart : ((sortValues others).map (·.1)).Nodup := by
      rw [names_sortValues]
      exact names.nodup_iff.1 distinct
    have moved : (sortValues members).Perm (sortValues others) := by
      refine (List.perm_ext_iff_of_nodup apart.of_map alsoApart.of_map).2 fun sorted => ⟨?_, ?_⟩
      · refine fun mem => sortValues_subset (fun member listed => ?_) hypothesis mem
        exact names.mem_iff.1 (List.mem_map_of_mem listed)
      · refine fun mem => sortValues_subset (fun other listed => ?_) ?_ mem
        · exact names.mem_iff.2 (List.mem_map_of_mem listed)
        · exact fun other listed member also same =>
            (hypothesis member also other listed same.symm).symm
    rw [sortMembers, sortMembers, mergeSort_congr apart moved]

/-- **Two values agree exactly if they are the same once their members are in order.** -/
theorem sortMembers_eq_iff (clean : first.IsClean) (alsoClean : second.IsClean) :
    first.sortMembers = second.sortMembers ↔ first.Agrees second := by
  refine ⟨fun same => ?_, Agrees.sortMembers_eq⟩
  induction clean generalizing second with
  | null =>
    cases second <;> cases same
    exact .null
  | bool value =>
    cases second <;> cases same
    exact .bool value
  | int value =>
    cases second <;> cases same
    exact .int value
  | @float value _ =>
    cases second <;> cases same
    exact .float value
  | text value =>
    cases second <;> cases same
    exact .text value
  | @array items _ hypothesis =>
    cases alsoClean with
    | @array others alsoEach =>
      rw [sortMembers, sortMembers, sortItems_eq, sortItems_eq] at same
      obtain ⟨length, each⟩ := map_eq_map_iff.1 (Json.array.inj same)
      refine .array length fun pair mem => ?_
      obtain ⟨left, right⟩ := List.of_mem_zip mem
      exact hypothesis pair.1 left (alsoEach pair.2 right) (each pair mem)
    | _ => cases same
  | @object members distinct _ hypothesis =>
    cases alsoClean with
    | @object others _ alsoEach =>
      rw [sortMembers, sortMembers] at same
      have sorted : (sortValues members).Perm (sortValues others) := by
        have sortedThere := List.mergeSort_perm (sortValues others) nameOrder
        rw [← Json.object.inj same] at sortedThere
        exact (List.mergeSort_perm _ _).symm.trans sortedThere
      have names : (members.map (·.1)).Perm (others.map (·.1)) := by
        rw [← names_sortValues members, ← names_sortValues others]
        exact sorted.map _
      refine .object distinct names fun member mem other listed sameName => ?_
      have apart : ((sortValues others).map (·.1)).Nodup := by
        rw [names_sortValues]
        exact names.nodup_iff.1 distinct
      have equal := List.inj_on_of_nodup_map apart (sorted.mem_iff.1 (mem_sortValues mem))
        (mem_sortValues listed) sameName
      exact hypothesis member mem (alsoEach other listed) (congrArg Prod.snd equal)
    | _ => cases same

/-- **Texts of values with their members in order are the same exactly if the values agree,** where
there are no floats. -/
theorem sortedText_eq_iff {layout : JsonLayout} (readable : IsReadable layout)
    (free : first.IsFloatFree) (alsoFree : second.IsFloatFree) :
    first.sortMembers.write layout = second.sortMembers.write layout ↔ first.Agrees second := by
  rw [← sortMembers_eq_iff free.isClean alsoFree.isClean]
  refine ⟨fun same => Option.some.inj ?_, fun same => congrArg _ same⟩
  rw [← read?_write readable free.sortMembers, same, read?_write readable alsoFree.sortMembers]

end Agreement

end Json

end Specimen
