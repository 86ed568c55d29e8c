/-
**Samples that were written and read.**

What is read back from a rendered sample (`Value.rendered`) differs from the sample in two ways:
tuples have become lists, and absent entries of dictionaries are gone. Field by field the two are
the same (`Value.IsPortable.field_rendered`), and a sample that is the same as a JSON value does not
change at all (`Value.IsPortable.rendered_of_same`).
-/

import Specimen.Proofs.Judgements
import Specimen.Value.Json

namespace Specimen

/-- A name that is not there yet is put last. -/
theorem Json.put_new {members : List (String × Json)} {name : String}
    (new : name ∉ members.map (·.1)) (json : Json) :
    put members name json = members ++ [(name, json)] := by
  induction members with
  | nil => rfl
  | cons first rest hypothesis =>
    obtain ⟨other, old⟩ := first
    rw [List.map_cons, List.mem_cons, not_or] at new
    rw [put, if_neg (Ne.symm new.1), hypothesis new.2]
    rfl

namespace Value

/-! ### Portable values -/

/-- A value that JSON has a form for, but for tuples, if they are allowed, and entries of
dictionaries that are absent. -/
inductive IsPortable (tuples : Bool) : Value → Prop
  | null : IsPortable tuples .null
  | bool (value : Bool) : IsPortable tuples (.bool value)
  | int (value : Int) : IsPortable tuples (.int value)
  | float {value : Binary64} (isNumber : value.isNan = false) : IsPortable tuples (.float value)
  | text (value : String) : IsPortable tuples (.text value)
  | list {items : List Value} (each : ∀ item ∈ items, IsPortable tuples item) :
      IsPortable tuples (.list items)
  | tuple {items : List Value} (allowed : tuples = true)
      (each : ∀ item ∈ items, IsPortable tuples item) : IsPortable tuples (.tuple items)
  | dictionary {entries : List (Value × Value)} (distinct : (entries.map (·.1)).Nodup)
      (texts : ∀ entry ∈ entries, ∃ name, entry.1 = .text name)
      (each : ∀ entry ∈ entries, entry.2 ≠ .absent → IsPortable tuples entry.2) :
      IsPortable tuples (.dictionary entries)

/-- What is read back from a rendered value; what is absent stays so. -/
def rendered : Value → Value
  | .absent => .absent
  | value => ofJson value.toJson

/-- An entry of a dictionary as a member of an object, if it is there. -/
def writtenEntry (entry : Value × Value) : Option (String × Json) :=
  if entry.2.isAbsent then none else some (entry.1.display, entry.2.toJson)

/-- An entry of a dictionary once it is rendered, if it is there. -/
def renderedEntry (entry : Value × Value) : Option (Value × Value) :=
  if entry.2.isAbsent then none else some (entry.1, entry.2.rendered)

variable {tuples : Bool} {value : Value} {items : List Value} {entries : List (Value × Value)}

theorem rendered_eq (present : value ≠ .absent) : value.rendered = ofJson value.toJson := by
  cases value with
  | absent => exact absurd rfl present
  | _ => rfl

theorem IsPortable.ne_absent (portable : value.IsPortable tuples) : value ≠ .absent := by
  cases portable <;> exact nofun

/-! ### Items and entries -/

theorem ofJsonItems_toJsonItems (each : ∀ item ∈ items, item ≠ .absent) :
    ofJsonItems (toJsonItems items) = items.map rendered := by
  induction items with
  | nil => rfl
  | cons first rest hypothesis =>
    rw [List.forall_mem_cons] at each
    rw [toJsonItems, ofJsonItems, hypothesis each.2, List.map_cons, rendered_eq each.1]

theorem ofJson_ne_absent (json : Json) : ofJson json ≠ .absent := by
  cases json <;> simp [ofJson]

theorem ofJsonItems_eq (items : List Json) : ofJsonItems items = items.map ofJson := by
  induction items with
  | nil => rfl
  | cons first rest hypothesis => rw [ofJsonItems, hypothesis, List.map_cons]

theorem ofJsonMembers_eq (members : List (String × Json)) :
    ofJsonMembers members = members.map fun member => (.text member.1, ofJson member.2) := by
  induction members with
  | nil => rfl
  | cons first rest hypothesis =>
    obtain ⟨name, json⟩ := first
    rw [ofJsonMembers, hypothesis, List.map_cons]

/-- Where keys are different texts, entries are written one after another. -/
theorem toJsonEntries_eq {found : List (String × Json)} (distinct : (entries.map (·.1)).Nodup)
    (texts : ∀ entry ∈ entries, ∃ name, entry.1 = .text name)
    (new : ∀ entry ∈ entries, entry.1.display ∉ found.map (·.1)) :
    toJsonEntries found entries = found ++ entries.filterMap writtenEntry := by
  induction entries generalizing found with
  | nil => rw [toJsonEntries, List.filterMap_nil, List.append_nil]
  | cons first rest hypothesis =>
    obtain ⟨key, value⟩ := first
    rw [List.map_cons, List.nodup_cons] at distinct
    rw [List.forall_mem_cons] at texts new
    obtain ⟨⟨name, isName⟩, others⟩ := texts
    simp only at isName
    subst isName
    rw [toJsonEntries, List.filterMap_cons, writtenEntry]
    cases missing : value.isAbsent with
    | true => simpa [missing] using hypothesis distinct.2 others new.2
    | false =>
      simp only [Bool.false_eq_true, if_false]
      rw [Json.put_new new.1, hypothesis distinct.2 others, List.append_assoc]
      · rfl
      · intro entry mem
        rw [List.map_append, List.mem_append, not_or]
        refine ⟨new.2 entry mem, fun same => distinct.1 ?_⟩
        obtain ⟨other, isOther⟩ := others entry mem
        rw [isOther] at same
        have equal : other = name := List.mem_singleton.1 same
        have listed : entry.1 ∈ rest.map (·.1) := List.mem_map_of_mem mem
        exact equal ▸ isOther ▸ listed

theorem rendered_float {number : Binary64} (isNumber : number.isNan = false) :
    (Value.float number).rendered = .float number := by
  show ofJson (Value.float number).toJson = _
  rw [toJson, isNumber]
  rfl

theorem rendered_list (each : ∀ item ∈ items, item ≠ .absent) :
    (Value.list items).rendered = .list (items.map rendered) := by
  show ofJson (Value.list items).toJson = _
  rw [toJson, ofJson, ofJsonItems_toJsonItems each]

theorem rendered_tuple (each : ∀ item ∈ items, item ≠ .absent) :
    (Value.tuple items).rendered = .list (items.map rendered) := by
  show ofJson (Value.tuple items).toJson = _
  rw [toJson, ofJson, ofJsonItems_toJsonItems each]

theorem rendered_dictionary (distinct : (entries.map (·.1)).Nodup)
    (texts : ∀ entry ∈ entries, ∃ name, entry.1 = .text name) :
    (Value.dictionary entries).rendered = .dictionary (entries.filterMap renderedEntry) := by
  show ofJson (Value.dictionary entries).toJson = _
  rw [toJson, ofJson, toJsonEntries_eq distinct texts fun _ _ => List.not_mem_nil, List.nil_append,
    ofJsonMembers_eq, List.map_filterMap]
  congr 1
  refine List.filterMap_congr fun entry mem => ?_
  obtain ⟨name, isName⟩ := texts entry mem
  obtain ⟨key, value⟩ := entry
  simp only at isName
  subst isName
  unfold writtenEntry renderedEntry
  cases value <;> rfl

/-- A portable value, or an absent one. -/
def IsMember (tuples : Bool) (value : Value) : Prop := value ≠ .absent → value.IsPortable tuples

/-- Is this a list, a tuple, a set or a dictionary? -/
def isCollection : Value → Bool
  | .list _ | .tuple _ | .set _ _ | .dictionary _ => true
  | _ => false

/-- What a portable or absent value is, and what becomes of it. -/
inductive Shape (tuples : Bool) : Value → Prop
  | single {value : Value} (single : value.isCollection = false) (same : value.rendered = value) :
      Shape tuples value
  | list {items : List Value} (each : ∀ item ∈ items, item.IsPortable tuples)
      (same : (Value.list items).rendered = .list (items.map rendered)) : Shape tuples (.list items)
  | tuple {items : List Value} (allowed : tuples = true)
      (each : ∀ item ∈ items, item.IsPortable tuples)
      (same : (Value.tuple items).rendered = .list (items.map rendered)) :
      Shape tuples (.tuple items)
  | dictionary {entries : List (Value × Value)} (distinct : (entries.map (·.1)).Nodup)
      (texts : ∀ entry ∈ entries, ∃ name, entry.1 = .text name)
      (each : ∀ entry ∈ entries, entry.2.IsMember tuples)
      (same : (Value.dictionary entries).rendered =
        .dictionary (entries.filterMap renderedEntry)) : Shape tuples (.dictionary entries)

theorem IsMember.shape (plain : value.IsMember tuples) : value.Shape tuples := by
  by_cases absent : value = .absent
  · rw [absent]
    exact .single rfl rfl
  cases plain absent with
  | null | bool | int | text => exact .single rfl rfl
  | float isNumber => exact .single rfl (rendered_float isNumber)
  | list each => exact .list each (rendered_list fun item mem => (each item mem).ne_absent)
  | tuple allowed each =>
    exact .tuple allowed each (rendered_tuple fun item mem => (each item mem).ne_absent)
  | dictionary distinct texts each =>
    exact .dictionary distinct texts each (rendered_dictionary distinct texts)

theorem IsMember.isAbsent_rendered (plain : value.IsMember tuples) :
    value.rendered.isAbsent = value.isAbsent := by
  cases plain.shape with
  | single _ same | list _ same | tuple _ _ same | dictionary _ _ _ same =>
    rw [same]
    first | rfl | skip

theorem IsMember.isNull_rendered (plain : value.IsMember tuples) :
    value.rendered.isNull = value.isNull := by
  cases plain.shape with
  | single _ same | list _ same | tuple _ _ same | dictionary _ _ _ same =>
    rw [same]
    first | rfl | skip

/-- A field has the value that it had, rendered; one that was absent is gone. -/
theorem field_rendered (distinct : (entries.map (·.1)).Nodup)
    (texts : ∀ entry ∈ entries, ∃ name, entry.1 = .text name) (name : String) :
    (field? (entries.filterMap renderedEntry) name).getD .absent =
      ((field? entries name).getD .absent).rendered := by
  induction entries with
  | nil => rfl
  | cons first rest hypothesis =>
    obtain ⟨key, value⟩ := first
    rw [List.map_cons, List.nodup_cons] at distinct
    rw [List.forall_mem_cons] at texts
    have others := hypothesis distinct.2 texts.2
    rw [List.filterMap_cons, field_cons]
    cases missing : value.isAbsent with
    | true =>
      have isAbsent : value = .absent := by
        cases value with
        | absent => rfl
        | _ => cases missing
      simp only [renderedEntry, missing, if_true]
      rw [others]
      split
      · next same =>
        have gone : field? rest name = none := by
          unfold field? lookup?
          rw [Option.map_eq_none_iff, List.find?_eq_none]
          intro entry mem here
          have equal : entry.1 = key := (text_same_iff.1 here).trans (text_same_iff.1 same).symm
          have listed : entry.1 ∈ rest.map (·.1) := List.mem_map_of_mem mem
          exact distinct.1 (equal ▸ listed)
        rw [gone, isAbsent]
        rfl
      · rfl
    | false =>
      simp only [renderedEntry, missing, Bool.false_eq_true, if_false]
      rw [field_cons]
      split
      · rfl
      · exact others

/-! ### JSON values -/

theorem sameItems_mem {json : List Json} (same : sameItems items (ofJsonItems json) = true) :
    ∀ item ∈ items, ∃ other, item.same (ofJson other) = true := by
  induction items generalizing json with
  | nil => exact List.forall_mem_nil _
  | cons first rest hypothesis =>
    cases json with
    | nil => cases same
    | cons head tail =>
      rw [ofJsonItems, sameItems, Bool.and_eq_true] at same
      exact List.forall_mem_cons.2 ⟨⟨head, same.1⟩, hypothesis same.2⟩

theorem mem_ofJsonMembers {members : List (String × Json)}
    (hold : HoldAlike SameEntry entries (ofJsonMembers members)) :
    ∀ entry ∈ entries, ∃ other, entry.2.same (ofJson other) = true := by
  intro entry mem
  obtain ⟨other, listed, _, alike⟩ := hold.into entry mem
  rw [ofJsonMembers_eq] at listed
  obtain ⟨member, _, rfl⟩ := List.mem_map.1 listed
  exact ⟨member.2, alike⟩

theorem ne_absent_of_same {json : Json} (same : value.same (ofJson json) = true) :
    value ≠ .absent := by
  rintro rfl
  cases json <;> rw [ofJson, Value.same] at same <;> cases same

/-- A portable value that is the same as a JSON value is left as it is. -/
theorem IsPortable.rendered_of_same (portable : value.IsPortable tuples) {json : Json}
    (same : value.same (ofJson json) = true) : value.rendered = value := by
  induction portable generalizing json with
  | null | bool | int | text => rfl
  | float isNumber => exact rendered_float isNumber
  | @list items each hypothesis =>
    rw [rendered_list fun item mem => (each item mem).ne_absent]
    cases json with
    | array others =>
      rw [ofJson, Value.same] at same
      have unchanged : ∀ item ∈ items, item.rendered = item := fun item mem =>
        (sameItems_mem same item mem).elim fun other => hypothesis item mem
      rw [List.map_congr_left unchanged, List.map_id']
    | _ => rw [ofJson, Value.same] at same <;> cases same
  | tuple => cases json <;> rw [ofJson, Value.same] at same <;> cases same
  | @dictionary entries distinct texts each hypothesis =>
    rw [rendered_dictionary distinct texts]
    cases json with
    | object members =>
      obtain ⟨others, isObject, hold⟩ := dictionary_same_iff.1 same
      rw [ofJson, dictionary.injEq] at isObject
      have unchanged : ∀ entry ∈ entries, renderedEntry entry = some entry := by
        intro entry mem
        obtain ⟨other, isOther⟩ := mem_ofJsonMembers (isObject ▸ hold) entry mem
        have present := ne_absent_of_same isOther
        have there : entry.2.isAbsent = false := by
          cases found : entry.2 with
          | absent => exact absurd found present
          | _ => rfl
        rw [renderedEntry, there, hypothesis entry mem present isOther]
        rfl
      rw [List.filterMap_congr unchanged, List.filterMap_some]
    | _ => rw [ofJson, Value.same] at same <;> cases same

end Value

end Specimen
