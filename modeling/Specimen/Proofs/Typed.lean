/-
**What the loader makes of typed descriptions.**

For each type of the fragment, the schema that a description is loaded as decides of a JSON value
whether it has the type and meets the keywords of the description, given that the schemas of parts
decide about the parts of the value.
-/

import Specimen.Proofs.Keywords
import Specimen.Proofs.Rendering

namespace Specimen

/-! ### Collections and fields -/

theorem Schema.putField_new {fields : List (String × Schema)} {name : String} (schema : Schema)
    (new : name ∉ fields.map (·.1)) : putField fields name schema = fields ++ [(name, schema)] := by
  induction fields with
  | nil => rfl
  | cons first rest hypothesis =>
    rw [List.map_cons, List.mem_cons, not_or] at new
    rw [putField, if_neg (Ne.symm new.1), hypothesis new.2, List.cons_append]

/-- An object keeps fields of different names as they are. -/
theorem Schema.object_fields {fields : List (String × Schema)}
    (distinct : (fields.map (·.1)).Nodup) : (Schema.object fields).fields = some fields := by
  have put : ∀ before : List (String × Schema), (∀ field ∈ fields, field.1 ∉ before.map (·.1)) →
      fields.foldl (fun found field => putField found field.1 field.2) before =
        before ++ fields := by
    induction fields with
    | nil => exact fun before _ => (List.append_nil before).symm
    | cons first rest hypothesis =>
      intro before new
      rw [List.map_cons, List.nodup_cons] at distinct
      rw [List.forall_mem_cons] at new
      rw [List.foldl_cons, putField_new first.2 new.1, hypothesis distinct.2, List.append_assoc]
      · rfl
      · intro field mem
        rw [List.map_append, List.mem_append, not_or]
        refine ⟨new.2 field mem, fun same => distinct.1 ?_⟩
        have isFirst : field.1 = first.1 := List.mem_singleton.1 same
        exact isFirst ▸ List.mem_map_of_mem mem
  exact congrArg some (put [] fun _ _ => List.not_mem_nil)

/-! ### Types -/

namespace Json

variable {subject : Json}

theorem hasType_numeric {type : String} (isNumeric : type ∈ ["integer", "number"]) :
    subject.HasType type ↔ ∃ number, subject.rational? = some number ∧
      ((type == "integer") = true → number.den = 1) := by
  simp only [List.mem_cons, List.not_mem_nil, or_false] at isNumeric
  rcases isNumeric with rfl | rfl
  · constructor
    · rintro ⟨number, isNumber⟩
      exact ⟨number, isNumber, fun _ => rfl⟩
    · rintro ⟨number, isNumber, whole⟩
      have same : (number.num : Rat) = number := (Rat.den_eq_one_iff _).1 (whole rfl)
      exact ⟨number.num, by rw [isNumber, same]⟩
  · simp [HasType]

/-- A value is a number exactly if it stands on the line of numbers and is no boolean. -/
theorem rational_iff {json : Json} {number : Rat} :
    ((Value.ofJson json).toExtended? = some (.rational number) ∧
      ∀ truth, Value.ofJson json ≠ .bool truth) ↔ json.rational? = some number := by
  refine ⟨fun ⟨isValue, other⟩ => ?_, fun isNumber => ⟨Value.toExtended_ofJson isNumber, ?_⟩⟩
  · cases json with
    | bool truth => exact absurd rfl (other truth)
    | int given => simpa [Value.ofJson, Value.toExtended?, rational?] using isValue
    | float given =>
      cases given with
      | finite negative significand exponent =>
        simpa [Value.ofJson, Value.toExtended?, Binary64.toExtended?, rational?] using isValue
      | infinite negative => cases negative <;> cases isValue
      | nan payload => cases isValue
    | _ => cases isValue
  · cases json with
    | bool truth => cases isNumber
    | _ => simp [Value.ofJson]

namespace IsModerate

theorem finite (moderate : subject.IsModerate) (number : Binary64)
    (isFloat : Value.ofJson subject = .float number) :
    number.toExtended? = some (.rational number.toRat) := by
  cases moderate with
  | number isNumber small =>
    cases subject with
    | float given =>
      cases isFloat
      cases number with
      | finite _ _ _ => rfl
      | _ => cases isNumber
    | int _ => cases isFloat
    | _ => cases isNumber
  | _ => cases isFloat

theorem isWhole (moderate : subject.IsModerate) (number : Int)
    (isInt : Value.ofJson subject = .int number) :
    Judge.isWhole (Value.ofJson subject) = .ok true := by
  cases moderate with
  | number isNumber small =>
    cases subject with
    | int given =>
      cases isInt
      cases isNumber
      have below : ((number.natAbs : Nat) : Rat) < ((2 ^ 1000 : Nat) : Rat) := by
        rw [Nat.cast_natAbs, Int.cast_abs, Nat.cast_pow]
        exact small
      exact Judge.isWhole_of_small (Nat.cast_lt.1 below) (by decide)
    | float _ => cases isInt
    | _ => cases isNumber
  | _ => cases isInt

end IsModerate

end Json

/-- The schema decides whether the subject has a type and meets keywords of the description. -/
def Json.DecidesType (root description : Json) (type : String) (keywords : List String)
    (definitions : Schema.Definitions) (schema : Schema) (subject : Json) : Prop :=
  Judge.Decides (validate definitions schema) (.ofJson subject)
    (subject.HasType type ∧ ∀ keyword ∈ keywords, ∀ value,
      description.member? keyword = some value →
        Json.MeetsKeyword root (Json.Conforms root) description subject keyword value)

namespace Document

variable {root description : Json} {definitions : Schema.Definitions} {build : Builder}

theorem string_decides (only : description.HasOnly ["type", "minLength", "maxLength"])
    (least : description.HasSize "minLength") (most : description.HasSize "maxLength") :
    ∃ schema, buildString description.entries = .ok schema ∧ schema.kind = .string ∧
      ∀ subject, root.DecidesType description "string" ["minLength", "maxLength"] definitions schema
        subject := by
  have plain : Schema.string.IsBounded .string none false fun _ => True := ⟨rfl, rfl, .free rfl⟩
  obtain ⟨lower, schema, isLower, isSchema, bounded⟩ := withSizes_bounded plain least most
  refine ⟨schema, ?_, bounded.kind, fun subject => ?_⟩
  · have pattern := get_missing (only.member_eq_none (by decide : "pattern" ∉ _))
    have format := get_missing (only.member_eq_none (by decide : "format" ∉ _))
    simp only [buildString, isLower, isSchema, pattern, format, bind, Except.bind]
    rfl
  · refine validate_decides (.inl (Value.ofJson_ne_absent subject)) ?_
    rw [Judge.ofKind, bounded.kind]
    refine (Judge.string_decides bounded.asks).congr ?_
    simp only [List.forall_mem_cons, List.not_mem_nil, false_imp_iff, implies_true, and_true,
      Json.MeetsKeyword, true_and]
    cases subject <;> simp [Value.ofJson, Json.HasType, Json.length?]

theorem number_decides {type : String} (isNumeric : type ∈ ["integer", "number"])
    (minimum : description.HasBound "minimum") (maximum : description.HasBound "maximum")
    (above : description.HasExclusiveBound "exclusiveMinimum")
    (below : description.HasExclusiveBound "exclusiveMaximum") :
    ∃ schema, buildNumber (type == "integer") description.entries = .ok schema ∧
      schema.kind = .number ∧ ∀ subject, subject.IsModerate → root.DecidesType description type
        ["minimum", "maximum", "exclusiveMinimum", "exclusiveMaximum"] definitions schema
          subject := by
  have plain : (if type == "integer" then Schema.number.int else Schema.number).IsBounded .number
      none (type == "integer") fun _ => True := by
    cases integral : type == "integer" with
    | true => exact ⟨rfl, rfl, .integer rfl⟩
    | false => exact ⟨rfl, rfl, .free rfl⟩
  obtain ⟨lower, isLower, lowerBounded⟩ := withBound_bounded (Schema.min_adds true) plain minimum
  obtain ⟨upper, isUpper, upperBounded⟩ :=
    withBound_bounded (Schema.max_adds true) lowerBounded maximum
  have lowest := withExclusive_bounded (Schema.min_adds false) upperBounded minimum above
  have bounded := withExclusive_bounded (Schema.max_adds false) lowest maximum below
  refine ⟨_, ?_, bounded.kind, fun subject moderate => ?_⟩
  · simp only [buildNumber, isLower, isUpper, bind, Except.bind]
    cases exclusiveBound? description.entries "minimum" "exclusiveMinimum" <;>
      cases exclusiveBound? description.entries "maximum" "exclusiveMaximum" <;> rfl
  refine validate_decides (.inl (Value.ofJson_ne_absent subject)) ?_
  rw [Judge.ofKind, bounded.kind]
  refine (Judge.number_decides bounded.asks moderate.finite moderate.isWhole).congr ?_
  simp only [List.forall_mem_cons, List.not_mem_nil, false_imp_iff, implies_true, and_true,
    Json.MeetsKeyword, true_and, ← and_assoc,
    Json.rational_iff, Json.hasType_numeric isNumeric]
  cases found : subject.rational? with
  | none => simp
  | some number =>
    simp
    tauto

theorem boolean_decides (subject : Json) :
    root.DecidesType description "boolean" [] definitions .boolean subject := by
  refine validate_decides (.inl (Value.ofJson_ne_absent subject)) ?_
  refine Judge.boolean_decides.congr ?_
  cases subject <;> simp [Value.ofJson, Json.HasType]

theorem array_decides (only : description.HasOnly ["type", "items", "minItems", "maxItems"])
    (least : description.HasSize "minItems") (most : description.HasSize "maxItems")
    {element : Json} (found : description.member? "items" = some element) {child : Schema}
    (made : build (.ofJson element) = .ok child) :
    ∃ schema, buildArray build description.entries = .ok schema ∧ schema.kind = .array ∧
      ∀ subject : Json, (∀ item ∈ subject.items, Judge.Decides (validate definitions child)
          (.ofJson item) (Json.Conforms root element item)) →
        root.DecidesType description "array" ["items", "minItems", "maxItems"] definitions schema
          subject := by
  have plain : (Schema.array child).IsBounded .array (some child) false fun _ => True :=
    ⟨rfl, rfl, .free rfl⟩
  obtain ⟨lower, schema, isLower, isSchema, bounded⟩ := withSizes_bounded plain least most
  refine ⟨schema, ?_, bounded.kind, fun subject decides => ?_⟩
  · have first := get_missing (only.member_eq_none (by decide : "prefixItems" ∉ _))
    have unique := get_missing (only.member_eq_none (by decide : "uniqueItems" ∉ _))
    simp only [buildArray, first, unique, Value.isTruthy, field_entries, found, Option.map_some,
      Option.getD_some, made, isLower, isSchema, bind, Except.bind, Bool.false_eq_true, if_false]
  · refine validate_decides (.inl (Value.ofJson_ne_absent subject)) ?_
    rw [Judge.ofKind, bounded.kind]
    simp only [Schema.parts, bounded.inner, Option.map_some, Judge.ofChild, Option.getD_some]
    cases subject with
    | array items =>
      rw [Value.ofJson, Value.ofJsonItems_eq]
      refine (Judge.array_decides bounded.asks decides).congr ?_
      simp only [List.forall_mem_cons, List.not_mem_nil, false_imp_iff, implies_true, and_true,
        Json.MeetsKeyword, true_and, Json.count?, Json.HasType, found,
        Json.items]
      simp
      tauto
    | _ => exact fun path => .report _ _ (by simp [Json.HasType])

theorem record_decides (only : description.HasOnly ["type", "additionalProperties"])
    {element : Json} (found : description.member? "additionalProperties" = some element)
    {first : String × Json} {rest : List (String × Json)}
    (isObject : element = .object (first :: rest)) {child : Schema}
    (made : build (.ofJson element) = .ok child) :
    ∃ schema, buildObject build description.entries = .ok schema ∧ schema.kind = .record ∧
      ∀ subject : Json, (∀ member ∈ subject.members, Judge.Decides (validate definitions child)
          (.ofJson member.2) (Json.Conforms root element member.2)) →
        root.DecidesType description "object" ["additionalProperties"] definitions schema
          subject := by
  have properties := only.member_eq_none (by decide : "properties" ∉ _)
  refine ⟨.recordOf .string child, ?_, rfl, fun subject decides => ?_⟩
  · have additional := get_entries found
    rw [isObject, Value.ofJson] at additional
    rw [isObject, Value.ofJson] at made
    simp only [buildObject, get_missing properties, additional, Value.isTruthy, made, bind,
      Except.bind]
    rfl
  · refine validate_decides (.inl (Value.ofJson_ne_absent subject)) ?_
    cases subject with
    | object members =>
      rw [Value.ofJson, Value.ofJsonMembers_eq]
      refine (Judge.mapping_decides "record" (fun member mem => ?_) decides).congr ?_
      · exact fun path => validate_accepts (.inl (by simp)) (fun _ => rfl) path
      simp only [List.forall_mem_cons, List.not_mem_nil, false_imp_iff, implies_true, and_true,
        Json.MeetsKeyword, Json.HasType, found, Json.members]
      simp [Json.atPlace, properties]
    | _ => exact fun path => .report _ _ (by simp [Json.HasType])

theorem nameSet_eq {fields : List (String × Json)}
    (required : ∀ names, description.member? "required" = some names → names.AreNamed fields) :
    ∃ texts : List String,
      nameSet (get description.entries "required") = .ok (texts.map .text) ∧
        (∀ name ∈ texts, ∃ field ∈ fields, field.1 = name ∧ field.2.IsPlain) ∧
          ∀ name, name ∈ texts ↔ ∃ names, description.member? "required" = some names ∧
            .text name ∈ names.items := by
  cases found : description.member? "required" with
  | none =>
    rw [get_missing found]
    exact ⟨[], rfl, List.forall_mem_nil _, by simp⟩
  | some names =>
    obtain ⟨texts, rfl, named⟩ := required names found
    refine ⟨texts, ?_, named, by simp [Json.items]⟩
    rw [get_entries found, Value.ofJson, Value.ofJsonItems_eq, List.map_map]
    cases texts with
    | nil => rfl
    | cons first rest =>
      have hashable :
          ((first :: rest).map (Value.ofJson ∘ Json.text)).all Value.isHashable = true := by
        simp [Value.ofJson, Value.isHashable]
      show (if ((first :: rest).map (Value.ofJson ∘ Json.text)).all Value.isHashable then
        pure ((first :: rest).map (Value.ofJson ∘ Json.text)) else throw Fault.wrongType) = _
      rw [if_pos hashable]
      rfl

/-- The field of a description under its name, optional unless it is among the names. -/
def fieldOf (names : List String) (made : String × Json → Schema) (field : String × Json) :
    String × Schema :=
  (field.1, if field.1 ∈ names then made field else (made field).optional)

theorem isIn_texts {name : String} {texts : List String} :
    (Value.text name).isIn (texts.map .text) = true ↔ name ∈ texts := by
  simp only [Value.isIn, List.any_eq_true, List.mem_map, Value.text_same_iff]
  simp

theorem mapM_buildField {fields : List (String × Json)} {made : String × Json → Schema}
    (isMade : ∀ field ∈ fields, build (.ofJson field.2) = .ok (made field)) (names : List String) :
    (Value.ofJsonMembers fields).mapM (buildField build (names.map .text)) =
      .ok (fields.map (fieldOf names made)) := by
  induction fields with
  | nil => rfl
  | cons first rest hypothesis =>
    obtain ⟨name, json⟩ := first
    rw [List.forall_mem_cons] at isMade
    have here : buildField build (names.map .text) (.text name, .ofJson json) =
        .ok (fieldOf names made (name, json)) := by
      simp only [buildField, isMade.1, isIn_texts, fieldOf, bind, Except.bind]
      rfl
    rw [Value.ofJsonMembers, List.mapM_cons, here, hypothesis isMade.2]
    rfl

theorem optional_decides {schema : Schema} {value : Value} {holds : Prop}
    (decides : value ≠ .absent → Judge.Decides (validate definitions schema) value holds) :
    Judge.Decides (validate definitions schema.optional) value (value = .absent ∨ holds) :=
  validate_decides (.inr rfl) (Judge.optional_decides decides)

/-- What is asked of a member under the name of a field: that it is there if the name is listed, and
conforms to the field if it is there. -/
def MeetsField (root : Json) (names : List String) (field : String × Json) (piece : Option Json) :
    Prop :=
  (∀ json, piece = some json → Json.Conforms root field.2 json) ∧
    (field.1 ∈ names → ∃ json, piece = some json)

/-- A field decides about what stands under its name, if it is there, and whether it may be missing.
-/
theorem fieldOf_decides {names : List String} {made : String × Json → Schema}
    {field : String × Json} {piece : Option Json}
    (refuses : field.1 ∈ names → (made field).kind.acceptsAbsent = false)
    (present : ∀ json, piece = some json → Judge.Decides (validate definitions (made field))
      (.ofJson json) (Json.Conforms root field.2 json)) :
    Judge.Decides (validate definitions (fieldOf names made field).2)
      ((piece.map .ofJson).getD .absent) (MeetsField root names field piece) := by
  unfold fieldOf MeetsField
  by_cases required : field.1 ∈ names
  · simp only [if_pos required]
    cases piece with
    | none => exact (validate_absent (refuses required)).congr (by simp [required])
    | some json => exact (present json rfl).congr (by simp)
  · simp only [if_neg required]
    cases piece with
    | none =>
      have missing : Judge.Decides (validate definitions (made field).optional) .absent
          (Value.absent = .absent ∨ False) := optional_decides fun there => absurd rfl there
      exact missing.congr (by simp [required])
    | some json =>
      exact (optional_decides fun _ => present json rfl).congr
        (by simp [required, Value.ofJson_ne_absent])

section Objects

variable {fields : List (String × Json)} {names : List String} {made : String × Json → Schema}

/-- The keywords ask for fields what is asked of the members under their names. -/
theorem meetsFields_iff (found : description.member? "properties" = some (.object fields))
    (named : ∀ name ∈ names, ∃ field ∈ fields, field.1 = name ∧ field.2.IsPlain)
    (listed : ∀ name, name ∈ names ↔ ∃ given, description.member? "required" = some given ∧
      .text name ∈ given.items) (members : List (String × Json)) :
    (∀ field ∈ fields, MeetsField root names field (members.lookup field.1)) ↔
      (Json.object members).HasType "object" ∧ ∀ keyword ∈ ["properties", "required"], ∀ value,
        description.member? keyword = some value →
          Json.MeetsKeyword root (Json.Conforms root) description (.object members) keyword value := by
  simp only [List.forall_mem_cons, List.not_mem_nil, false_imp_iff, implies_true, and_true,
    Json.MeetsKeyword, Json.HasType, found, MeetsField]
  constructor
  · refine fun holds => ⟨⟨members, rfl⟩, fun value same field mem => ?_,
      fun given isGiven name mem _ => ?_⟩
    · cases same
      exact (holds field mem).1
    · have isListed := (listed name).2 ⟨given, isGiven, mem⟩
      obtain ⟨field, among, rfl, _⟩ := named name isListed
      exact (holds field among).2 isListed
  · rintro ⟨_, conforms, there⟩ field mem
    refine ⟨conforms _ rfl field mem, fun isListed => ?_⟩
    obtain ⟨given, isGiven, isName⟩ := (listed field.1).1 isListed
    exact there given isGiven field.1 isName ⟨members, rfl⟩

theorem buildObject_eq (only : description.HasOnly ["type", "properties", "required"])
    (found : description.member? "properties" = some (.object fields)) (nonempty : fields ≠ [])
    (isNames : nameSet (get description.entries "required") = .ok (names.map .text))
    (isMade : ∀ field ∈ fields, build (.ofJson field.2) = .ok (made field)) :
    buildObject build description.entries = .ok (.object (fields.map (fieldOf names made))) := by
  have additional := get_missing (only.member_eq_none (by decide : "additionalProperties" ∉ _))
  have properties : get description.entries "properties" =
      .dictionary (Value.ofJsonMembers fields) := get_entries found
  have truthy : (Value.dictionary (Value.ofJsonMembers fields)).isTruthy = true := by
    cases fields with
    | nil => exact absurd rfl nonempty
    | cons first rest => rfl
  simp only [buildObject, properties, truthy, additional, isNames, propertyEntries, bind,
    Except.bind, Bool.not_true, Bool.false_eq_true, if_false, mapM_buildField isMade]
  rfl

theorem object_decides (only : description.HasOnly ["type", "properties", "required"])
    (found : description.member? "properties" = some (.object fields)) (nonempty : fields ≠ [])
    (distinct : (fields.map (·.1)).Nodup)
    (required : ∀ names, description.member? "required" = some names → names.AreNamed fields)
    (isMade : ∀ field ∈ fields, build (.ofJson field.2) = .ok (made field))
    (refuses : ∀ field ∈ fields, field.2.IsPlain → (made field).kind.acceptsAbsent = false) :
    ∃ schema, buildObject build description.entries = .ok schema ∧ schema.kind = .object ∧
      ∀ subject : Json, (∀ field ∈ fields, ∀ piece, subject.member? field.1 = some piece →
          Judge.Decides (validate definitions (made field)) (.ofJson piece)
            (Json.Conforms root field.2 piece)) →
        root.DecidesType description "object" ["properties", "required"] definitions schema
          subject := by
  obtain ⟨names, isNames, named, listed⟩ := nameSet_eq required
  refine ⟨_, buildObject_eq only found nonempty isNames isMade, rfl, fun subject decides => ?_⟩
  refine validate_decides (.inl (Value.ofJson_ne_absent subject)) ?_
  have kept : ((fields.map (fieldOf names made)).map (·.1)).Nodup := by
    rw [List.map_map]
    exact distinct
  show Judge.Decides (Judge.object (Schema.parts (validate definitions) _).fields) _ _
  simp only [Schema.parts, Schema.object_fields kept, Option.getD_some, List.map_map]
  cases subject with
  | object members =>
    have judged : ∀ field ∈ fields, Judge.Decides
        (validate definitions (fieldOf names made field).2)
        ((Value.field? (Value.ofJsonMembers members) field.1).getD .absent)
        (MeetsField root names field (members.lookup field.1)) := by
      intro field mem
      rw [Value.field_ofJsonMembers]
      refine fieldOf_decides (fun listed => ?_) (decides field mem)
      obtain ⟨other, otherMem, same, isPlain⟩ := named field.1 listed
      obtain rfl : other = field := List.inj_on_of_nodup_map distinct otherMem mem same
      exact refuses other mem isPlain
    exact (Judge.object_decides judged).congr (meetsFields_iff found named listed members)
  | _ => exact fun path => .report _ _ (by simp [Json.HasType])

end Objects

end Document

end Specimen
