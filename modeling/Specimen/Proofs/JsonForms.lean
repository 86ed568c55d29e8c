/-
**What a rendered sample is made of.**

Rendering takes any value to one that JSON has a form for (`Value.IsClean`): nulls, booleans,
integers, floats that are numbers, texts, lists, and dictionaries under different texts. Nothing in
it is absent, and to render it again changes nothing (`Value.toJson_settles`).

Keys of every kind are written as texts, and two of them may come out as the same text; so that the
names of an object stay different is an invariant of the object being filled
(`Json.IsClean.put`), and no fact about the dictionary it comes from.
-/

import Mathlib.Data.List.Nodup
import Specimen.Proofs.Rendering

namespace Specimen

/-! ### Clean JSON -/

namespace Json

/-- Every float is a number, and every object has different names. -/
inductive IsClean : Json → Prop
  | null : IsClean .null
  | bool (value : Bool) : IsClean (.bool value)
  | int (value : Int) : IsClean (.int value)
  | float {value : Binary64} (isNumber : value.isNan = false) : IsClean (.float value)
  | text (value : String) : IsClean (.text value)
  | array {items : List Json} (each : ∀ item ∈ items, IsClean item) : IsClean (.array items)
  | object {members : List (String × Json)} (distinct : (members.map (·.1)).Nodup)
      (each : ∀ member ∈ members, IsClean member.2) : IsClean (.object members)

variable {members : List (String × Json)} {name : String} {json : Json} {items : List Json}

theorem names_put (members : List (String × Json)) (name : String) (json : Json) :
    (put members name json).map (·.1) =
      if name ∈ members.map (·.1) then members.map (·.1) else members.map (·.1) ++ [name] := by
  induction members with
  | nil => rfl
  | cons first rest hypothesis =>
    obtain ⟨other, old⟩ := first
    rw [put]
    split
    · next same =>
      subst same
      rw [List.map_cons, List.map_cons, if_pos List.mem_cons_self]
    · next differs =>
      rw [List.map_cons, List.map_cons, hypothesis]
      by_cases listed : name ∈ rest.map (·.1)
      · rw [if_pos listed, if_pos (List.mem_cons_of_mem _ listed)]
      · rw [if_neg listed, if_neg (fun mem => ?_), List.cons_append]
        exact (List.mem_cons.1 mem).elim (fun same => differs same.symm) listed

/-- A name that is put among different names leaves them different. -/
theorem nodup_put (distinct : (members.map (·.1)).Nodup) (name : String) (json : Json) :
    ((put members name json).map (·.1)).Nodup := by
  rw [names_put]
  split
  · exact distinct
  · next new =>
    refine List.nodup_append.2 ⟨distinct, List.nodup_singleton name, fun other mem last isLast => ?_⟩
    rw [List.mem_singleton.1 isLast]
    exact fun same => new (same ▸ mem)

/-- What is put under a name is all that is there under it. -/
theorem mem_put_iff (distinct : (members.map (·.1)).Nodup) {member : String × Json} :
    member ∈ put members name json ↔
      member = (name, json) ∨ member ∈ members ∧ member.1 ≠ name := by
  induction members with
  | nil => simp [put]
  | cons first rest hypothesis =>
    obtain ⟨other, old⟩ := first
    rw [List.map_cons, List.nodup_cons] at distinct
    have apart : member ∈ rest → member.1 ≠ other :=
      fun mem same => distinct.1 (List.mem_map.2 ⟨member, mem, same⟩)
    rw [put]
    split
    · next same =>
      subst same
      rw [List.mem_cons, List.mem_cons]
      refine or_congr_right ⟨fun mem => ⟨.inr mem, apart mem⟩, fun both => ?_⟩
      exact both.1.resolve_left fun isOld => both.2 (congrArg Prod.fst isOld)
    · next differs =>
      rw [List.mem_cons, List.mem_cons, hypothesis distinct.2, or_and_right, or_left_comm]
      refine or_congr_right (or_congr_left (iff_self_and.2 fun isFirst => ?_))
      rwa [isFirst]

/-- An object stays clean when a clean member is put into it. -/
theorem IsClean.put (filled : (Json.object members).IsClean) (name : String)
    (clean : json.IsClean) : (Json.object (put members name json)).IsClean := by
  cases filled with
  | object distinct each =>
    refine .object (nodup_put distinct name json) fun member mem => ?_
    rcases (mem_put_iff distinct).1 mem with rfl | ⟨isOld, _⟩
    · exact clean
    · exact each member isOld

/-- To sort items leaves an array clean. -/
theorem IsClean.sortByText (each : ∀ item ∈ items, item.IsClean) :
    (Json.array (sortByText items)).IsClean :=
  .array fun item mem => each item (List.mem_mergeSort.1 mem)

end Json

namespace Value

/-- A value that JSON has a form for as it stands, with nothing absent in it. -/
inductive IsClean : Value → Prop
  | null : IsClean .null
  | bool (value : Bool) : IsClean (.bool value)
  | int (value : Int) : IsClean (.int value)
  | float {value : Binary64} (isNumber : value.isNan = false) : IsClean (.float value)
  | text (value : String) : IsClean (.text value)
  | list {items : List Value} (each : ∀ item ∈ items, IsClean item) : IsClean (.list items)
  | dictionary {entries : List (Value × Value)} (distinct : (entries.map (·.1)).Nodup)
      (texts : ∀ entry ∈ entries, ∃ name, entry.1 = .text name)
      (each : ∀ entry ∈ entries, IsClean entry.2) : IsClean (.dictionary entries)

variable {value : Value} {items : List Value} {entries : List (Value × Value)} {json : Json}

/-! ### Rendering lands in clean JSON -/

theorem toJsonItems_eq (items : List Value) : toJsonItems items = items.map toJson := by
  induction items with
  | nil => rfl
  | cons first rest hypothesis => rw [toJsonItems, hypothesis, List.map_cons]

theorem clean_ofFloat (value : Binary64) : (Value.float value).toJson.IsClean := by
  rw [toJson]
  split
  · exact .null
  · next isNumber => exact .float (Bool.eq_false_iff.2 isNumber)

mutual

/-- Every value is rendered as clean JSON. -/
theorem clean_toJson : ∀ value : Value, value.toJson.IsClean
  | .absent | .null => .null
  | .bool value => .bool value
  | .int value => .int value
  | .float value => clean_ofFloat value
  | .text _ | .moment _ | .day _ | .function _ _ => .text _
  | .list items | .tuple items => .array (clean_toJsonItems items)
  | .set members _ => .sortByText (clean_toJsonItems members)
  | .dictionary entries =>
    clean_toJsonEntries entries (.object List.nodup_nil (List.forall_mem_nil _))
  | .member _ _ held => clean_toJson held
  | .promise _ settled => clean_toJson settled
  termination_by structural value => value

theorem clean_toJsonItems : ∀ items : List Value, ∀ json ∈ toJsonItems items, json.IsClean
  | [] => List.forall_mem_nil _
  | item :: rest => List.forall_mem_cons.2 ⟨clean_toJson item, clean_toJsonItems rest⟩
  termination_by structural items => items

/-- Whatever the keys are, entries are written into a clean object one after another. -/
theorem clean_toJsonEntries : ∀ (entries : List (Value × Value)) {found : List (String × Json)},
    (Json.object found).IsClean → (Json.object (toJsonEntries found entries)).IsClean
  | [], _, filled => filled
  | (key, value) :: rest, found, filled => by
    rw [toJsonEntries]
    refine clean_toJsonEntries rest ?_
    split
    · exact filled
    · exact filled.put key.display (clean_toJson value)
  termination_by structural entries => entries

end

/-! ### Clean JSON stays as it is -/

theorem nodup_ofJsonMembers {members : List (String × Json)}
    (distinct : (members.map (·.1)).Nodup) : ((ofJsonMembers members).map (·.1)).Nodup := by
  have keys : (ofJsonMembers members).map (·.1) = (members.map (·.1)).map .text := by
    rw [ofJsonMembers_eq, List.map_map, List.map_map]
    rfl
  rw [keys]
  exact List.Nodup.map (fun _ _ same => Value.text.inj same) distinct

theorem text_of_mem_ofJsonMembers (members : List (String × Json)) :
    ∀ entry ∈ ofJsonMembers members, ∃ name, entry.1 = .text name := by
  rw [ofJsonMembers_eq]
  exact List.forall_mem_map.2 fun member _ => ⟨member.1, rfl⟩

/-- What is read from clean JSON is clean. -/
theorem clean_ofJson (clean : json.IsClean) : (ofJson json).IsClean := by
  induction clean with
  | null => exact .null
  | bool value => exact .bool value
  | int value => exact .int value
  | float isNumber => exact .float isNumber
  | text value => exact .text value
  | array _ hypothesis =>
    rw [ofJson, ofJsonItems_eq]
    exact .list (List.forall_mem_map.2 hypothesis)
  | @object members distinct _ hypothesis =>
    refine .dictionary (nodup_ofJsonMembers distinct) (text_of_mem_ofJsonMembers members) ?_
    rw [ofJsonMembers_eq]
    exact List.forall_mem_map.2 hypothesis

/-- Clean JSON that is read and rendered comes out as it was: no float is dropped, no two names
fall together, and no member is absent. -/
theorem toJson_ofJson (clean : json.IsClean) : (ofJson json).toJson = json := by
  induction clean with
  | null | bool | int | text => rfl
  | float isNumber =>
    rw [ofJson, toJson, isNumber]
    rfl
  | @array items _ hypothesis =>
    have kept : items.map (toJson ∘ ofJson) = items :=
      (List.map_congr_left hypothesis).trans (List.map_id items)
    rw [ofJson, toJson, toJsonItems_eq, ofJsonItems_eq, List.map_map, kept]
  | @object members distinct _ hypothesis =>
    have kept : ∀ member ∈ members,
        writtenEntry (.text member.1, ofJson member.2) = some member := by
      intro member mem
      have present : (ofJson member.2).isAbsent = false := by
        cases member.2 <;> rfl
      rw [writtenEntry, present, hypothesis member mem]
      rfl
    have same : (ofJsonMembers members).filterMap writtenEntry = members := by
      rw [ofJsonMembers_eq, List.filterMap_map]
      exact (List.filterMap_congr kept).trans List.filterMap_some
    rw [ofJson, toJson, toJsonEntries_eq (nodup_ofJsonMembers distinct)
      (text_of_mem_ofJsonMembers members) fun _ _ => List.not_mem_nil, List.nil_append, same]

/-- **A rendered value is clean, and rendering it again changes nothing.** -/
theorem toJson_settles (value : Value) :
    (ofJson value.toJson).IsClean ∧ (ofJson value.toJson).toJson = value.toJson :=
  ⟨clean_ofJson (clean_toJson value), toJson_ofJson (clean_toJson value)⟩

/-- A parcel whose tags are a set, with entries that are absent, a pair that ends with nothing, a
promise of a weight that is not a number, a member of an enumeration, and a key that is written
like another one. -/
def parcel : Value := .dictionary
  [(.text "missing", .absent), (.text "tags", .set [.text "b", .text "a"]),
    (.text "pair", .tuple [.bool true, .absent]),
    (.int 1, .promise 0 (.list [.float (.nan 0), .function ⟨"", "mocked"⟩ 1])),
    (.text "1", .member ⟨"Level", 0⟩ "LOW" (.text "low"))]

/-- The two tags come in the order of their texts, and of the two entries under one text the later
one is kept. -/
theorem parcel_settles :
    parcel.toJson = .object [("tags", .array [.text "a", .text "b"]),
      ("pair", .array [.bool true, .null]), ("1", .text "low")] ∧
    (ofJson parcel.toJson).IsClean ∧ (ofJson parcel.toJson).toJson = parcel.toJson := by
  have sorted : Json.sortByText [.text "b", .text "a"] = [.text "a", .text "b"] := by
    have order : Json.keyOrder (.text "b") (.text "a") = false := by decide +kernel
    simp [Json.sortByText, List.mergeSort, List.MergeSort.Internal.splitInTwo, order]
  refine ⟨?_, toJson_settles parcel⟩
  show Json.object (toJsonEntries [("tags", .array (Json.sortByText [.text "b", .text "a"]))] _) = _
  rw [sorted]
  rfl

end Value

end Specimen
