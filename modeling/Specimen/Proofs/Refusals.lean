/-
**Malformed descriptions are refused.**

No schema is ever made of a malformed description, whatever else it says (`Document.build_refused`),
nor is a document loaded that `Document.IsUnloadable` lists: the reasons that are not reported are
reasons indeed.
-/

import Specimen.Proofs.Malformed

namespace Specimen

/-! ### Operations that do not succeed -/

/-- The operation does not succeed. -/
def IsRefused {α : Type} (operation : Except Fault α) : Prop := ∀ result, operation ≠ .ok result

namespace IsRefused

variable {α β : Type}

theorem error (fault : Fault) : IsRefused (.error fault : Except Fault α) := nofun

theorem of_eq {operation : Except Fault α} {fault : Fault} (failed : operation = .error fault) :
    IsRefused operation := failed ▸ error fault

theorem bind {first : Except Fault α} (refused : IsRefused first) (next : α → Except Fault β) :
    IsRefused (first >>= next) := by
  cases first with
  | error fault => exact error fault
  | ok result => exact absurd rfl (refused result)

/-- A sequence does not succeed if what follows its first part does not, as far as it is reached. -/
theorem after (first : Except Fault α) {next : α → Except Fault β}
    (refused : ∀ result, first = .ok result → IsRefused (next result)) :
    IsRefused (first >>= next) := by
  cases first with
  | error fault => exact error fault
  | ok result => exact refused result rfl

/-- A step for each item does not succeed if one of the steps does not. -/
theorem mapM {items : List β} {item : β} (mem : item ∈ items) {step : β → Except Fault α}
    (refused : IsRefused (step item)) : IsRefused (items.mapM step) := by
  obtain ⟨fault, failed⟩ : ∃ fault, step item = .error fault := by
    cases found : step item with
    | error fault => exact ⟨fault, rfl⟩
    | ok result => exact absurd found (refused result)
  obtain ⟨first, stops⟩ := mapM_error mem failed
  exact of_eq stops

end IsRefused

theorem Value.IsUncountable.refused {value : Value} (uncountable : value.IsUncountable) :
    IsRefused value.toInteger := uncountable.elim .of_eq .of_eq

namespace Document

variable {entries : Entries} {build : Builder} {definitions : Entries}

/-! ### Keywords -/

/-- A keyword that is there is not passed over. -/
theorem withKeyword_refused {keyword : String} {value : Value} {schema : Schema}
    {apply : Schema → Value → Except Fault Schema} (found : Value.field? entries keyword = some value)
    (refused : IsRefused (apply schema value)) :
    IsRefused (withKeyword entries keyword schema apply) := by
  unfold withKeyword
  rw [found]
  exact refused

theorem atLeast_refused (schema : Schema) {bound : Value} (uncountable : bound.IsUncountable) :
    IsRefused (atLeast schema bound) := uncountable.refused.bind _

theorem atMost_refused (schema : Schema) {bound : Value} (uncountable : bound.IsUncountable) :
    IsRefused (atMost schema bound) := uncountable.refused.bind _

/-- A pattern without a valid form is refused. -/
theorem regex_refused (schema : Schema) {source : String}
    (unreadable : ¬ ∃ pattern, readPattern source = .ok pattern) :
    IsRefused (schema.regex (.text source)) := by
  have refused : IsRefused (readPattern source) := fun pattern reads => unreadable ⟨pattern, reads⟩
  exact refused.bind _

/-- A format that is not hashable is refused. -/
theorem withFormat_refused (schema : Schema) {format : Value} (given : format.isTruthy = true)
    (unhashable : format.isHashable = false) : IsRefused (withFormat schema format) := by
  unfold withFormat
  rw [given, unhashable]
  exact .error _

/-- The length of a text has to be a number that can be converted. -/
theorem buildString_length_refused {keyword : String} (bounds : keyword ∈ ["minLength", "maxLength"])
    {value : Value} (found : Value.field? entries keyword = some value)
    (uncountable : value.IsUncountable) : IsRefused (buildString entries) := by
  unfold buildString
  simp only [List.mem_cons, List.not_mem_nil, or_false] at bounds
  rcases bounds with rfl | rfl
  · exact (withKeyword_refused found (atLeast_refused _ uncountable)).bind _
  · exact .after _ fun lower _ => (withKeyword_refused found (atMost_refused lower uncountable)).bind _

theorem buildString_pattern_refused {source : String} (found : get entries "pattern" = .text source)
    (unreadable : ¬ ∃ pattern, readPattern source = .ok pattern) :
    IsRefused (buildString entries) := by
  have given : (Value.text source).isTruthy = true := by
    refine bne_iff_ne.2 fun empty => unreadable ?_
    rw [empty]
    exact ⟨_, rfl⟩
  unfold buildString
  refine .after _ fun lower _ => .after _ fun bounded _ => ?_
  simp only [found, given, if_true]
  exact (regex_refused bounded unreadable).bind _

theorem buildString_format_refused (given : (get entries "format").isTruthy = true)
    (unhashable : (get entries "format").isHashable = false) : IsRefused (buildString entries) := by
  unfold buildString
  refine .after _ fun lower _ => .after _ fun bounded _ => ?_
  simp only
  split
  · exact .after _ fun matching _ => withFormat_refused matching given unhashable
  · exact withFormat_refused bounded given unhashable

/-! ### Collections -/

theorem buildAll_refused {value : Value} (barren : value.IsBarren) :
    IsRefused (buildAll build value) := by
  unfold buildAll
  rw [barren]
  exact .error _

/-- Several descriptions are refused if one of them is. -/
theorem buildAll_part_refused {value part : Value} {parts : List Value}
    (found : value.items = .ok parts) (mem : part ∈ parts) (refused : IsRefused (build part)) :
    IsRefused (buildAll build value) := by
  unfold buildAll
  rw [found]
  exact .mapM mem refused

/-- Required names are refused if they cannot be put in a set. -/
theorem nameSet_refused {names : Value} (given : names.isTruthy = true)
    (noNames : ¬ ∃ members, names.items = .ok members ∧ ∀ name ∈ members, name.isHashable = true) :
    IsRefused (nameSet names) := by
  unfold nameSet
  rw [given]
  refine .after _ fun members found => ?_
  cases hashable : members.all Value.isHashable with
  | true => exact absurd ⟨members, found, List.all_eq_true.1 hashable⟩ noNames
  | false => exact .error _

/-- Properties that are given are refused unless they are an object. -/
theorem propertyEntries_refused {properties : Value} (given : properties.isTruthy = true)
    (noObject : ∀ fields, properties ≠ .dictionary fields) :
    IsRefused (propertyEntries properties) := by
  unfold propertyEntries
  rw [given]
  cases properties with
  | dictionary fields => exact absurd rfl (noObject fields)
  | _ => exact .error _

/-- A value with an item is truthy. -/
theorem isTruthy_of_items {value part : Value} {parts : List Value} (found : value.items = .ok parts)
    (mem : part ∈ parts) : value.isTruthy = true := by
  cases value with
  | text content =>
    cases found
    refine bne_iff_ne.2 fun empty => ?_
    rw [empty] at mem
    cases mem
  | list | tuple | set =>
    cases found
    cases parts with
    | nil => cases mem
    | cons => rfl
  | dictionary entries =>
    cases found
    cases entries with
    | nil => cases mem
    | cons => rfl
  | _ => cases found

/-- An object is refused if its required names cannot be put in a set. -/
theorem buildObject_required_refused (noRecord : ¬ IsRecord entries)
    (given : (get entries "required").isTruthy = true)
    (noNames : ¬ ∃ names, (get entries "required").items = .ok names ∧
      ∀ name ∈ names, name.isHashable = true) : IsRefused (buildObject build entries) := by
  unfold buildObject
  simp only
  split
  · next additional empty found => exact absurd ⟨empty, additional, found⟩ noRecord
  · exact (nameSet_refused given noNames).bind _

theorem buildObject_properties_refused (given : (get entries "properties").isTruthy = true)
    (noObject : ∀ fields, get entries "properties" ≠ .dictionary fields) :
    IsRefused (buildObject build entries) := by
  unfold buildObject
  simp only [given]
  exact .after _ fun required _ => (propertyEntries_refused given noObject).bind _

/-- An object is refused if one of its fields is. -/
theorem buildObject_field_refused {fields : Entries}
    (found : get entries "properties" = .dictionary fields) {field : Value × Value}
    (mem : field ∈ fields) (refused : IsRefused (build field.2)) :
    IsRefused (buildObject build entries) := by
  have given : (get entries "properties").isTruthy = true := by
    rw [found]
    cases fields with
    | nil => cases mem
    | cons => rfl
  have listed : propertyEntries (get entries "properties") = .ok fields := by
    unfold propertyEntries
    rw [given, found]
    rfl
  unfold buildObject
  simp only [given, listed]
  exact .after _ fun required _ => (IsRefused.mapM mem (refused.bind _)).bind _

/-- A record is refused if its values are. -/
theorem buildObject_record_refused (record : IsRecord entries)
    (refused : IsRefused (build (get entries "additionalProperties"))) :
    IsRefused (buildObject build entries) := by
  obtain ⟨empty, additional, found⟩ := record
  rw [found] at refused
  unfold buildObject
  simp only [empty, found]
  exact refused.bind _

theorem buildArray_positions_refused (given : (get entries "prefixItems").isTruthy = true)
    (refused : IsRefused (buildAll build (get entries "prefixItems"))) :
    IsRefused (buildArray build entries) := by
  unfold buildArray
  simp only [given, if_true]
  exact .after _ fun rest _ => refused.bind _

/-- The size of an array has to be a number that can be converted. -/
theorem buildArray_size_refused {keyword : String} (bounds : keyword ∈ ["minItems", "maxItems"])
    (noTuple : (get entries "prefixItems").isTruthy = false) {value : Value}
    (found : Value.field? entries keyword = some value) (uncountable : value.IsUncountable) :
    IsRefused (buildArray build entries) := by
  unfold buildArray
  simp only [noTuple, Bool.false_eq_true, if_false]
  refine .after _ fun element _ => ?_
  simp only [List.mem_cons, List.not_mem_nil, or_false] at bounds
  rcases bounds with rfl | rfl
  · exact (withKeyword_refused found (atLeast_refused _ uncountable)).bind _
  · exact .after _ fun lower _ => withKeyword_refused found (atMost_refused lower uncountable)

/-- An array is refused if its items are. -/
theorem buildArray_element_refused {inner : Entries}
    (found : (Value.field? entries "items").getD usualItems = .dictionary inner)
    (refused : IsRefused (build (.dictionary inner))) : IsRefused (buildArray build entries) := by
  unfold buildArray
  simp only [found]
  split
  · exact (refused.bind _ : IsRefused (buildRest build (.dictionary inner))).bind _
  · exact refused.bind _

/-! ### Descriptions -/

/-- What is read as a type is refused if the type refuses it. -/
theorem IsReadAs.refused {type : String} (read : IsReadAs entries type)
    (refused : IsRefused (buildTyped build (.text type) entries)) :
    IsRefused (buildBare definitions build entries) := by
  have byType : IsUndecided entries → IsRefused (buildByType build entries) →
      IsRefused (buildBare definitions build entries) := by
    intro undecided refused
    unfold buildBare
    rw [← deciding, undecided]
    exact refused
  cases read with
  | named undecided found =>
    refine byType undecided ?_
    unfold buildByType
    rw [found]
    exact refused
  | listed undecided found first =>
    refine byType undecided ?_
    unfold buildByType buildTypeList
    simp only [found, first]
    exact refused.bind _
  | object undecided untyped keywords =>
    refine byType undecided ?_
    unfold buildByType buildUntyped
    simp only [untyped, if_pos keywords]
    exact refused
  | array undecided untyped noObject keywords =>
    refine byType undecided ?_
    unfold buildByType buildUntyped
    simp only [untyped, if_neg noObject, if_pos keywords]
    exact refused

/-- What is combined of descriptions is refused if they are. -/
theorem combined_refused {keyword : String} (combines : keyword ∈ combining)
    (decided : IsDecidedBy entries keyword)
    (refused : IsRefused (buildAll build (get entries keyword))) :
    IsRefused (buildBare definitions build entries) := by
  unfold buildBare
  rw [← deciding, decided]
  simp only [combining, List.mem_cons, List.not_mem_nil, or_false] at combines
  rcases combines with rfl | rfl | rfl <;> exact refused.bind _

/-- Nothing is made of a description with a flaw. -/
theorem HasFlaw.refused (flaw : HasFlaw entries) :
    IsRefused (buildBare definitions build entries) := by
  cases flaw with
  | reference decided noText =>
    unfold buildBare
    rw [← deciding, decided]
    cases reference : get entries "$ref" with
    | text name =>
      rw [reference] at noText
      cases noText
    | _ => exact .error _
  | combination combines decided barren =>
    exact combined_refused combines decided (buildAll_refused barren)
  | length bounds read found uncountable =>
    exact read.refused (buildString_length_refused bounds found uncountable)
  | pattern read found unreadable =>
    exact read.refused (buildString_pattern_refused found unreadable)
  | format read given unhashable =>
    exact read.refused (buildString_format_refused given unhashable)
  | properties read given noObject =>
    exact read.refused (buildObject_properties_refused given noObject)
  | required read noRecord given noNames =>
    exact read.refused (buildObject_required_refused noRecord given noNames)
  | positions read given barren =>
    exact read.refused (buildArray_positions_refused given (buildAll_refused barren))
  | size bounds read noTuple found uncountable =>
    exact read.refused (buildArray_size_refused bounds noTuple found uncountable)

/-- Nothing is made of a description if nothing is made of one that it is read with. -/
theorem Holds.refused {inner : Entries} (holds : Holds entries (.dictionary inner))
    (refused : IsRefused (build (.dictionary inner))) :
    IsRefused (buildBare definitions build entries) := by
  generalize isPart : Value.dictionary inner = part at holds
  cases holds with
  | combined combines decided found mem =>
    exact combined_refused combines decided (buildAll_part_refused found (isPart ▸ mem) refused)
  | property read found mem =>
    exact read.refused (buildObject_field_refused found mem (isPart ▸ refused))
  | additional read record =>
    exact read.refused (buildObject_record_refused record (isPart ▸ refused))
  | position read found mem =>
    exact read.refused (buildArray_positions_refused (isTruthy_of_items found mem)
      (buildAll_part_refused found (isPart ▸ mem) refused))
  | element read => exact read.refused (buildArray_element_refused isPart.symm refused)

end Document

end Specimen
