/-
**Malformed descriptions.**

The program reports most of what can be wrong with a schema file. It does not report a keyword whose
value has a type that the loader has no use for, or holds a pattern without a valid form: such a
description is malformed (`Document.IsMalformed`). Nothing else keeps the loader from either making
a schema or failing with a fault that is reported (`Document.build_reports`).

Only keywords that are looked at matter. What the node of a description is hangs on one of the
deciding keywords (`Document.IsDecidedBy`) or else on the type that the description is read as
(`Document.IsReadAs`).
-/

import Specimen.CommandLine
import Specimen.Proofs.Forms

namespace Specimen

/-! ### Faults that are reported -/

/-- Where the operation fails, the program reports the fault, unless there is a flaw. -/
def ReportsUnless {α : Type} (flaw : Prop) (operation : Except Fault α) : Prop :=
  ∀ fault, operation = .error fault → CommandLine.isLoadReported fault = true ∨ flaw

namespace ReportsUnless

variable {α β : Type} {flaw : Prop}

theorem ok (result : α) : ReportsUnless flaw (.ok result) := nofun

theorem reported {fault : Fault} (reports : CommandLine.isLoadReported fault = true) :
    ReportsUnless flaw (.error fault : Except Fault α) := by
  intro other same
  cases same
  exact .inl reports

theorem mono {more : Prop} {operation : Except Fault α} (reports : ReportsUnless flaw operation)
    (implies : flaw → more) : ReportsUnless more operation :=
  fun fault failed => (reports fault failed).imp_right implies

/-- A sequence reports its faults if every part of it does, as far as it is reached. -/
theorem bind {first : Except Fault α} {next : α → Except Fault β} (begun : ReportsUnless flaw first)
    (continued : ∀ result, first = .ok result → ReportsUnless flaw (next result)) :
    ReportsUnless flaw (first >>= next) := by
  cases first with
  | error fault => exact fun other failed => begun other (Except.error.inj failed ▸ rfl)
  | ok result => exact continued result rfl

/-- A step for each item reports its faults if every one of them does. -/
theorem mapM {items : List β} {step : β → Except Fault α}
    (each : ∀ item ∈ items, ReportsUnless flaw (step item)) :
    ReportsUnless flaw (items.mapM step) := by
  induction items with
  | nil => exact ok []
  | cons first rest hypothesis =>
    rw [List.forall_mem_cons] at each
    rw [List.mapM_cons]
    exact each.1.bind fun result _ => (hypothesis each.2).bind fun results _ => ok _

end ReportsUnless

/-! ### Values that a keyword has no use for -/

namespace Value

/-- The value cannot be gone through. -/
def IsBarren (value : Value) : Prop := value.items = .error .wrongType

/-- The value is neither a number nor a text, or it is infinite. -/
def IsUncountable (value : Value) : Prop :=
  value.toInteger = .error .wrongType ∨ value.toInteger = .error .overflow

end Value

namespace Document

/-! ### How descriptions are read -/

/-- The keyword decides what the node of the description is. -/
def IsDecidedBy (entries : Entries) (keyword : String) : Prop :=
  deciding.find? (has entries) = some keyword

/-- No keyword but the type decides what the node of the description is. -/
def IsUndecided (entries : Entries) : Prop := deciding.find? (has entries) = none

/-- The description is read as one of a type: by its name, as the first name but null in a list, or
by keywords that go with it. -/
inductive IsReadAs (entries : Entries) : String → Prop
  | named {type : String} (undecided : IsUndecided entries)
      (found : get entries "type" = .text type) : IsReadAs entries type
  | listed {types others : List Value} {type : String} (undecided : IsUndecided entries)
      (found : get entries "type" = .list types)
      (first : types.filter (fun type => !isWord "null" type) = .text type :: others) :
      IsReadAs entries type
  | object (undecided : IsUndecided entries) (untyped : get entries "type" = .null)
      (keywords : has entries "properties" || has entries "additionalProperties") :
      IsReadAs entries "object"
  | array (undecided : IsUndecided entries) (untyped : get entries "type" = .null)
      (noObject : ¬ (has entries "properties" || has entries "additionalProperties") = true)
      (keywords : has entries "items" || has entries "prefixItems") : IsReadAs entries "array"

/-- The description of an object has no properties but a description of additional ones. -/
def IsRecord (entries : Entries) : Prop :=
  (get entries "properties").isTruthy = false ∧
    ∃ additional, get entries "additionalProperties" = .dictionary additional

/-- The keywords that combine descriptions. -/
def combining : List String := ["oneOf", "anyOf", "allOf"]

/-- The description is read with another one in it. -/
inductive Holds (entries : Entries) : Value → Prop
  | combined {keyword : String} (combines : keyword ∈ combining)
      (decided : IsDecidedBy entries keyword) {parts : List Value}
      (found : (get entries keyword).items = .ok parts) {part : Value} (mem : part ∈ parts) :
      Holds entries part
  | property (read : IsReadAs entries "object") {fields : Entries}
      (found : get entries "properties" = .dictionary fields) {field : Value × Value}
      (mem : field ∈ fields) : Holds entries field.2
  | additional (read : IsReadAs entries "object") (record : IsRecord entries) :
      Holds entries (get entries "additionalProperties")
  | position (read : IsReadAs entries "array") {parts : List Value}
      (found : (get entries "prefixItems").items = .ok parts) {part : Value} (mem : part ∈ parts) :
      Holds entries part
  | element (read : IsReadAs entries "array") :
      Holds entries ((Value.field? entries "items").getD usualItems)

/-- A keyword of the description is looked at that has no use for its value. -/
inductive HasFlaw (entries : Entries) : Prop
  | reference (decided : IsDecidedBy entries "$ref") (noText : (get entries "$ref").isText = false)
  | combination {keyword : String} (combines : keyword ∈ combining)
      (decided : IsDecidedBy entries keyword) (barren : (get entries keyword).IsBarren)
  | length {keyword : String} (bounds : keyword ∈ ["minLength", "maxLength"])
      (read : IsReadAs entries "string") {value : Value}
      (found : Value.field? entries keyword = some value) (uncountable : value.IsUncountable)
  | pattern (read : IsReadAs entries "string") {source : String}
      (found : get entries "pattern" = .text source)
      (unreadable : ¬ ∃ pattern, readPattern source = .ok pattern)
  | format (read : IsReadAs entries "string") (given : (get entries "format").isTruthy = true)
      (unhashable : (get entries "format").isHashable = false)
  | properties (read : IsReadAs entries "object")
      (given : (get entries "properties").isTruthy = true)
      (noObject : ∀ fields, get entries "properties" ≠ .dictionary fields)
  | required (read : IsReadAs entries "object") (noRecord : ¬ IsRecord entries)
      (given : (get entries "required").isTruthy = true)
      (noNames : ¬ ∃ names, (get entries "required").items = .ok names ∧
        ∀ name ∈ names, name.isHashable = true)
  | positions (read : IsReadAs entries "array")
      (given : (get entries "prefixItems").isTruthy = true)
      (barren : (get entries "prefixItems").IsBarren)
  | size {keyword : String} (bounds : keyword ∈ ["minItems", "maxItems"])
      (read : IsReadAs entries "array") (noTuple : (get entries "prefixItems").isTruthy = false)
      {value : Value} (found : Value.field? entries keyword = some value)
      (uncountable : value.IsUncountable)

/-- The description has a flaw, or one that it is read with. -/
inductive IsMalformed : Value → Prop
  | here {entries : Entries} (flaw : HasFlaw entries) : IsMalformed (.dictionary entries)
  | inside {entries : Entries} {part : Value} (holds : Holds entries part)
      (malformed : IsMalformed part) : IsMalformed (.dictionary entries)

/-! ### Builders -/

section Builders

variable {entries : Entries} {build : Builder} {flaw : Prop}

/-- The parts of the description are built unless they are malformed. -/
def ReportsParts (entries : Entries) (build : Builder) : Prop :=
  ∀ part, Holds entries part → ReportsUnless (IsMalformed part) (build part)

variable (parts : ReportsParts entries build)

include parts

/-- A part that is malformed makes the description malformed. -/
theorem ReportsParts.part {part : Value} (holds : Holds entries part) :
    ReportsUnless (IsMalformed (.dictionary entries)) (build part) :=
  (parts part holds).mono fun malformed => .inside holds malformed

omit parts in
/-- The properties that are read are those of an object. -/
theorem propertyEntries_mem {properties : Value} {fields : Entries}
    (found : propertyEntries properties = .ok fields) {field : Value × Value} (mem : field ∈ fields) :
    properties = .dictionary fields := by
  unfold propertyEntries at found
  split at found
  · cases found
    cases mem
  · split at found
    · cases found
      rfl
    · cases found

end Builders

end Document

end Specimen
