/-
**What a description is built from.**

The builder of a description asks for the schemas of the descriptions that it is read with, and of
no others (`Document.buildBare_congr`). Those are less deep, so it makes no difference how many
levels a description may have once it has no more (`Document.build_eq`).

Of a typed description the type itself is not read again: descriptions that differ in their types
alone are the same to the builder of one type (`Document.buildTyped_congr`).
-/

import Specimen.Proofs.Loading
import Specimen.Proofs.Malformed

namespace Specimen

/-- Whatever comes first, the result has the property if what follows gives it. -/
theorem Makes.after {First Last : Type} {property : Last → Prop} {first : Except Fault First}
    {next : First → Except Fault Last} (continued : ∀ result, Makes property (next result)) :
    Makes property (first >>= next) :=
  Makes.bind (fun _ _ => trivial : Makes (fun _ => True) first) fun result _ => continued result

namespace Document

variable {entries others : Entries} {build other : Builder}

/-! ### The depth of descriptions -/

/-- What stands under a keyword is less deep than the description. -/
theorem depth_lt_get {keyword : String} {value : Value}
    (found : Value.field? entries keyword = some value) :
    value.depth < (Value.dictionary entries).depth := by
  obtain ⟨entry, isEntry, rfl⟩ := Option.map_eq_some_iff.1 found
  exact Nat.lt_succ_of_le (Value.depth_le_entries (List.mem_of_find?_eq_some isEntry)).2

/-- A keyword that can be gone through is there. -/
theorem field_of_items {keyword : String} {parts : List Value}
    (found : (get entries keyword).items = .ok parts) :
    Value.field? entries keyword = some (get entries keyword) := by
  unfold get at found ⊢
  cases given : Value.field? entries keyword with
  | none => rw [given] at found; cases found
  | some value => rfl

/-- An item is no deeper than the value whose item it is. -/
theorem depth_le_items {value item : Value} {items : List Value} (found : value.items = .ok items)
    (mem : item ∈ items) : item.depth ≤ value.depth := by
  cases value with
  | text text =>
    cases found
    obtain ⟨member, _, rfl⟩ := List.mem_map.1 mem
    exact Nat.le_refl 0
  | list members | tuple members | set members =>
    cases found
    exact Nat.le_succ_of_le (Value.depth_le_items mem)
  | dictionary members =>
    cases found
    obtain ⟨entry, listed, rfl⟩ := List.mem_map.1 mem
    exact Nat.le_succ_of_le (Value.depth_le_entries listed).1
  | _ => cases found

/-- A description that another one is read with is less deep, unless it is the usual one. -/
theorem Holds.depth_lt {part : Value} (holds : Holds entries part) :
    part.depth < (Value.dictionary entries).depth ∨ part = usualItems := by
  cases holds with
  | combined _ _ found mem | position _ found mem =>
    have shallow := depth_le_items found mem
    exact .inl (Nat.lt_of_le_of_lt shallow (depth_lt_get (field_of_items found)))
  | property _ found mem =>
    have there : Value.field? entries "properties" = some (get entries "properties") :=
      field_of_items (by rw [found]; rfl)
    have inner := depth_lt_get there
    rw [found] at inner
    exact .inl (Nat.lt_trans (Nat.lt_succ_of_le (Value.depth_le_entries mem).2) inner)
  | additional _ record =>
    obtain ⟨_, additional, found⟩ := record
    exact .inl (depth_lt_get (field_of_items (by rw [found]; rfl)))
  | element _ =>
    cases found : Value.field? entries "items" with
    | none => exact .inr rfl
    | some items => exact .inl (depth_lt_get found)

/-! ### Builders that agree -/

theorem mapM_congr {Member Result : Type} {first second : Member → Except Fault Result}
    {members : List Member} (same : ∀ member ∈ members, first member = second member) :
    members.mapM first = members.mapM second := by
  induction members with
  | nil => rfl
  | cons member rest hypothesis =>
    rw [List.forall_mem_cons] at same
    rw [List.mapM_cons, List.mapM_cons, same.1, hypothesis same.2]

theorem bind_congr {First Last : Type} {operation : Except Fault First}
    {next other : First → Except Fault Last}
    (same : ∀ result, operation = .ok result → next result = other result) :
    operation >>= next = operation >>= other := by
  cases operation with
  | error fault => rfl
  | ok result => exact same result rfl

/-- Builders that agree on the parts build the same of them. -/
theorem buildAll_congr {value : Value}
    (same : ∀ members, value.items = .ok members → ∀ member ∈ members, build member = other member) :
    buildAll build value = buildAll other value :=
  bind_congr fun members found => mapM_congr (same members found)

section Parts

variable (same : ∀ part, Holds entries part → build part = other part)

include same

/-- Builders that agree on the parts build the same object. -/
theorem buildObject_congr (read : IsReadAs entries "object") :
    buildObject build entries = buildObject other entries := by
  unfold buildObject
  simp only
  split
  · next additional empty found =>
    have record : IsRecord entries := ⟨empty, additional, found⟩
    have built := same _ (.additional read record)
    rw [found] at built
    rw [built]
  · refine bind_congr fun required _ => bind_congr fun fields found => ?_
    have each : ∀ field ∈ fields, buildField build required field = buildField other required field := by
      intro field mem
      unfold buildField
      rw [same _ (.property read (propertyEntries_mem found mem) mem)]
    rw [mapM_congr each]

/-- Builders that agree on the parts build the same array. -/
theorem buildArray_congr (read : IsReadAs entries "array") :
    buildArray build entries = buildArray other entries := by
  have element := same _ (.element read)
  have first : buildAll build (get entries "prefixItems") =
      buildAll other (get entries "prefixItems") :=
    buildAll_congr fun members found member mem => same _ (.position read found mem)
  have rest : buildRest build ((Value.field? entries "items").getD usualItems) =
      buildRest other ((Value.field? entries "items").getD usualItems) := by
    unfold buildRest
    split
    · next found => rw [found] at element; rw [element]
    · rfl
  unfold buildArray
  simp only [element, first, rest]

theorem buildTyped_part {type : Value} (read : ∀ name, type = .text name → IsReadAs entries name) :
    buildTyped build type entries = buildTyped other type entries := by
  unfold buildTyped
  split
  · exact buildObject_congr same (read _ rfl)
  · exact buildArray_congr same (read _ rfl)
  all_goals rfl

/-- Builders that agree on the parts build the same by the type. -/
theorem buildByType_congr (undecided : IsUndecided entries) :
    buildByType build entries = buildByType other entries := by
  unfold buildByType
  split
  · next untyped =>
    unfold buildUntyped
    split
    · next keywords => exact buildObject_congr same (.object undecided untyped keywords)
    · next noObject =>
      split
      · next keywords => exact buildArray_congr same (.array undecided untyped noObject keywords)
      · rfl
  · next types found =>
    unfold buildTypeList
    split
    · rfl
    · next type rest first =>
      rw [buildTyped_part same fun name isText => .listed undecided found (isText ▸ first)]
  · exact buildTyped_part same fun name isText => .named undecided isText

/-- A description is built in the same way if what it is read with is. -/
theorem buildBare_congr (definitions : Entries) :
    buildBare definitions build entries = buildBare definitions other entries := by
  unfold buildBare
  rw [← deciding]
  have combined : ∀ {keyword : String}, keyword ∈ combining → IsDecidedBy entries keyword →
      buildAll build (get entries keyword) = buildAll other (get entries keyword) :=
    fun combines decided => buildAll_congr fun _ found _ mem =>
      same _ (.combined combines decided found mem)
  cases decided : deciding.find? (has entries) with
  | none => exact buildByType_congr same decided
  | some keyword =>
    have mem := List.mem_of_find?_eq_some decided
    simp only [deciding, List.mem_cons, List.not_mem_nil, or_false] at mem
    rcases mem with rfl | rfl | rfl | rfl | rfl | rfl
    · rfl
    · rfl
    · rfl
    · simp only [combined (by decide) decided]
    · simp only [combined (by decide) decided]
    · simp only [buildConjunction, combined (by decide) decided]

end Parts

/-! ### Levels -/

/-- The usual items are texts. -/
theorem buildWithin_usualItems (definitions : Entries) (levels : Nat) :
    buildWithin definitions (levels + 1) usualItems = .ok .string := by
  rfl

/-- More levels than a description has make no difference. -/
theorem buildWithin_eq (definitions : Entries) {levels more : Nat} {description : Value}
    (enough : description.depth < levels) (fewer : levels ≤ more) :
    buildWithin definitions levels description = buildWithin definitions more description := by
  induction levels generalizing more description with
  | zero => exact absurd enough (Nat.not_lt_zero _)
  | succ levels hypothesis =>
    obtain ⟨more, rfl⟩ := Nat.exists_eq_add_of_le' (Nat.le_trans (Nat.le_add_left 1 levels) fewer)
    have fewer := Nat.le_of_succ_le_succ fewer
    unfold buildWithin
    split
    · rfl
    · rfl
    · next entries nonempty =>
      rw [buildBare_congr (fun part holds => ?_) definitions]
      rcases holds.depth_lt with smaller | rfl
      · exact hypothesis (Nat.lt_of_lt_of_le smaller (Nat.le_of_lt_succ enough)) fewer
      · -- a description has a level of its own, which is one for the usual items
        have positive : 0 < levels := Nat.lt_of_lt_of_le (Nat.succ_pos _) (Nat.le_of_lt_succ enough)
        obtain ⟨less, rfl⟩ := Nat.exists_eq_succ_of_ne_zero positive.ne'
        obtain ⟨further, rfl⟩ := Nat.exists_eq_succ_of_ne_zero (positive.trans_le fewer).ne'
        rw [buildWithin_usualItems, buildWithin_usualItems]
    · rfl

/-- How a description is built, given any number of levels that it does not exceed. -/
theorem build_eq (document : Document) {levels : Nat} {first : Value × Value} {rest : Entries}
    (enough : (Value.dictionary (first :: rest)).depth ≤ levels) :
    document.build (.dictionary (first :: rest)) = (do
      pure (annotate (first :: rest) (← buildBare document.definitions
        (buildWithin document.definitions levels) (first :: rest)))) := by
  show buildWithin document.definitions _ (.dictionary (first :: rest)) = _
  rw [buildWithin_eq document.definitions (Nat.lt_succ_self _) (Nat.succ_le_succ enough)]
  rfl

/-! ### Keywords beside the type -/

/-- The descriptions have the same keywords, their types apart. -/
def SameButType (entries others : Entries) : Prop :=
  ∀ keyword, keyword ≠ "type" → Value.field? entries keyword = Value.field? others keyword

namespace SameButType

variable (same : SameButType entries others)

include same

theorem has_eq {keyword : String} (other : keyword ≠ "type") :
    has entries keyword = has others keyword := by
  rw [has, has, same keyword other]

/-- The descriptions have the same under every keyword but the type. -/
theorem get_eq {keyword : String} (other : keyword ≠ "type") :
    get entries keyword = get others keyword := by
  rw [get, get, same keyword other]

/-- No keyword decides about one of the descriptions if none decides about the other. -/
theorem isUndecided (undecided : IsUndecided entries) : IsUndecided others := by
  unfold IsUndecided at undecided ⊢
  rw [List.find?_eq_none] at undecided ⊢
  intro keyword mem
  have other : ∀ keyword ∈ deciding, keyword ≠ "type" := by decide
  rw [← same.has_eq (other keyword mem)]
  exact undecided keyword mem

theorem annotate_eq (schema : Schema) : annotate entries schema = annotate others schema := by
  unfold annotate
  have described : get entries "description" = get others "description" := same.get_eq (by decide)
  rw [same "default" (by decide), described]

end SameButType

/-- A number is built of other keywords than the type. -/
theorem buildNumber_congr (same : SameButType entries others) (integral : Bool) :
    buildNumber integral entries = buildNumber integral others := by
  have bounds : ∀ plain exclusive, plain ≠ "type" → exclusive ≠ "type" →
      exclusiveBound? entries plain exclusive = exclusiveBound? others plain exclusive := by
    intro plain exclusive isPlain isExclusive
    rw [exclusiveBound?, exclusiveBound?, same.get_eq isExclusive, same plain isPlain]
  simp only [buildNumber, withKeyword, same _ (by decide : "minimum" ≠ "type"),
    same _ (by decide : "maximum" ≠ "type"),
    bounds "minimum" "exclusiveMinimum" (by decide) (by decide),
    bounds "maximum" "exclusiveMaximum" (by decide) (by decide)]

/-- The builder of a type does not read the type again. -/
theorem buildTyped_congr (same : SameButType entries others) (type : Value) :
    buildTyped build type entries = buildTyped build type others := by
  have got : ∀ keyword, keyword ≠ "type" → get entries keyword = get others keyword :=
    fun keyword other => same.get_eq other
  unfold buildTyped
  split
  · simp only [buildObject, got _ (by decide : "properties" ≠ "type"),
      got _ (by decide : "additionalProperties" ≠ "type"), got _ (by decide : "required" ≠ "type")]
  · simp only [buildArray, withKeyword, same _ (by decide : "items" ≠ "type"),
      got _ (by decide : "prefixItems" ≠ "type"), got _ (by decide : "uniqueItems" ≠ "type"),
      same _ (by decide : "minItems" ≠ "type"), same _ (by decide : "maxItems" ≠ "type")]
  · simp only [buildString, withKeyword, same _ (by decide : "minLength" ≠ "type"),
      same _ (by decide : "maxLength" ≠ "type"), got _ (by decide : "pattern" ≠ "type"),
      got _ (by decide : "format" ≠ "type")]
  · exact buildNumber_congr same true
  · exact buildNumber_congr same false
  all_goals rfl

/-- If no keyword decides about a description, its type does. -/
theorem buildBare_undecided (undecided : IsUndecided entries) (definitions : Entries) :
    buildBare definitions build entries = buildByType build entries := by
  unfold IsUndecided deciding at undecided
  unfold buildBare
  rw [undecided]

/-! ### Kinds of typed descriptions -/

/-- The schema does not accept a value that is absent. -/
def RefusesAbsent (schema : Schema) : Prop := schema.kind.acceptsAbsent = false

/-- A check does not make a node accept absent values. -/
theorem withCheck_refuses {schema : Schema} (refuses : RefusesAbsent schema) (check : Check) :
    RefusesAbsent (schema.withCheck check) := by
  cases schema
  exact refuses

theorem withKeyword_makes {property : Schema → Prop} {keyword : String} {schema : Schema}
    {apply : Schema → Value → Except Fault Schema} (holds : property schema)
    (applied : ∀ bound, Makes property (apply schema bound)) :
    Makes property (withKeyword entries keyword schema apply) := by
  unfold withKeyword
  split
  · exact applied _
  · exact .pure holds

section Kinds

variable {schema : Schema} (refuses : RefusesAbsent schema)

include refuses

theorem atLeast_refuses (bound : Value) : Makes RefusesAbsent (atLeast schema bound) := by
  refine Makes.after fun size => .pure ?_
  exact withCheck_refuses refuses _

theorem atMost_refuses (bound : Value) : Makes RefusesAbsent (atMost schema bound) := by
  refine Makes.after fun size => .pure ?_
  exact withCheck_refuses refuses _

theorem withFormat_refuses (format : Value) : Makes RefusesAbsent (withFormat schema format) := by
  unfold withFormat
  split
  · exact .pure refuses
  · split
    · exact .error _
    · cases format with
      | text name =>
        show Makes RefusesAbsent (.ok (((formatCheck? name).map schema.withCheck).getD schema))
        cases formatCheck? name with
        | none => exact .pure refuses
        | some check => exact .pure (withCheck_refuses refuses check)
      | _ => exact .pure refuses

theorem regex_refuses (pattern : Value) : Makes RefusesAbsent (schema.regex pattern) := by
  unfold Schema.regex
  split
  · next source =>
    refine Makes.after fun tree => .pure ?_
    exact withCheck_refuses refuses _
  · exact .pure (withCheck_refuses refuses _)

end Kinds

/-- No text accepts absent values. -/
theorem buildString_refuses : Makes RefusesAbsent (buildString entries) := by
  have plain : RefusesAbsent .string := rfl
  refine (withKeyword_makes plain (atLeast_refuses plain)).bind fun lower refuses => ?_
  refine (withKeyword_makes refuses (atMost_refuses refuses)).bind fun bounded refuses => ?_
  simp only
  split
  · exact (regex_refuses refuses _).bind fun matching refuses => withFormat_refuses refuses _
  · exact withFormat_refuses refuses _

theorem buildNumber_refuses (integral : Bool) : Makes RefusesAbsent (buildNumber integral entries) := by
  have plain : RefusesAbsent (if integral then Schema.number.int else .number) := by
    cases integral <;> rfl
  refine (withKeyword_makes plain fun bound => .pure (withCheck_refuses plain _)).bind
    fun lower refuses => ?_
  refine (withKeyword_makes refuses fun bound => .pure (withCheck_refuses refuses _)).bind
    fun upper refuses => .pure ?_
  cases exclusiveBound? entries "minimum" "exclusiveMinimum" <;>
    cases exclusiveBound? entries "maximum" "exclusiveMaximum"
  · exact refuses
  · exact withCheck_refuses refuses _
  · exact withCheck_refuses refuses _
  · exact withCheck_refuses (withCheck_refuses refuses _) _

/-- No object and no record accepts absent values. -/
theorem buildObject_refuses : Makes RefusesAbsent (buildObject build entries) := by
  unfold buildObject
  simp only
  split
  · exact Makes.after fun _ => .pure rfl
  · refine Makes.after fun _ => ?_
    refine Makes.after fun _ => ?_
    exact Makes.after fun _ => .pure rfl

/-- No array and no tuple accepts absent values. -/
theorem buildArray_refuses : Makes RefusesAbsent (buildArray build entries) := by
  unfold buildArray
  simp only
  split
  · refine Makes.after fun _ => ?_
    exact Makes.after fun _ => .pure rfl
  · refine Makes.after fun element => ?_
    have plain : RefusesAbsent
        (if (get entries "uniqueItems").isTruthy then Schema.setOf element else .array element) := by
      split <;> rfl
    refine (withKeyword_makes plain (atLeast_refuses plain)).bind fun lower refuses => ?_
    exact withKeyword_makes refuses (atMost_refuses refuses)

/-- No type is one of absent values. -/
theorem buildTyped_refuses (type : Value) : Makes RefusesAbsent (buildTyped build type entries) := by
  unfold buildTyped
  split
  · exact buildObject_refuses
  · exact buildArray_refuses
  · exact buildString_refuses
  · exact buildNumber_refuses true
  · exact buildNumber_refuses false
  · exact .pure rfl
  · exact .pure rfl
  · exact .error _

end Document

/-! ### Annotations -/

section Annotations

variable {definitions : Schema.Definitions} {value : Value} {path : Path}

/-- A default makes an absent value acceptable, and is of no other effect. -/
theorem validateWithin_annotate (passes : Nat) (entries : Entries) (schema : Schema) :
    validateWithin definitions passes (Document.annotate entries schema) value path =
      if value.isAbsent && Document.has entries "default" then .ok []
      else validateWithin definitions passes schema value path := by
  have described : ∀ bare : Schema, validateWithin definitions passes
      (if (Document.get entries "description").isTruthy then
        bare.describe (Document.get entries "description") else bare) =
      validateWithin definitions passes bare := by
    intro bare
    split
    · rw [validateWithin_eq, validateWithin_eq]
      cases bare
      rfl
    · rfl
  unfold Document.annotate
  simp only
  rw [described]
  unfold Document.has
  cases Value.field? entries "default" with
  | none => simp
  | some fallback =>
    simp only [Option.isSome_some, Bool.and_true]
    rw [validateWithin_eq]
    show (if value.isAbsent && false then _ else if value.isAbsent then _ else _) = _
    simp only [Bool.and_false, Bool.false_eq_true, if_false]
    rfl

/-- Annotations change the verdict on absent values alone, if there is a default. -/
theorem validate_annotate (entries : Entries) (schema : Schema) :
    validate definitions (Document.annotate entries schema) value path =
      if value.isAbsent && Document.has entries "default" then .ok []
      else validate definitions schema value path :=
  validateWithin_annotate (passLimit definitions value) entries schema

end Annotations

end Specimen
