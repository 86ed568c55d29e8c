/-
**What the loader makes of descriptions by their form.**

A description of a type may also be of null, values are listed one by one, and descriptions are
combined. In each case the schema that is loaded decides whether a JSON value conforms to the
description, given that the schemas of its parts decide whether the value conforms to them.
-/

import Specimen.Proofs.Typed

namespace Specimen

/-! ### Texts and null -/

namespace Value

theorem ofJson_eq_null {json : Json} : ofJson json = .null ↔ json = .null := by
  cases json <;> simp [ofJson]

theorem ofJson_same_text {json : Json} {text : String} :
    (ofJson json).same (.text text) = true ↔ json = .text text := by
  cases json with
  | float number => cases number <;> simp [ofJson, same, sameNumber, toExtended?]
  | _ => simp [ofJson, same, sameNumber, toExtended?]

theorem isIn_texts_iff {json : Json} {texts : List String} :
    (ofJson json).isIn (texts.map .text) = true ↔ json ∈ texts.map Json.text := by
  constructor
  · intro holds
    obtain ⟨item, mem, same⟩ := List.any_eq_true.1 holds
    obtain ⟨text, listed, rfl⟩ := List.mem_map.1 mem
    exact ofJson_same_text.1 same ▸ List.mem_map_of_mem listed
  · intro mem
    obtain ⟨text, listed, rfl⟩ := List.mem_map.1 mem
    exact isIn_of_mem (List.mem_map_of_mem listed)

theorem equals_text_iff {json : Json} {text : String} :
    ((ofJson json).equals (.text text) && (ofJson json).sameType (.text text)) = true ↔
      json = .text text := by
  rw [Bool.and_eq_true, equals, Bool.and_eq_true, ofJson_same_text]
  constructor
  · exact fun holds => holds.1.2
  · rintro rfl
    exact ⟨⟨rfl, rfl⟩, rfl⟩

end Value

/-! ### Types -/

namespace Document

variable {root description : Json} {definitions : Schema.Definitions} {build : Builder}
variable {known : Entries}

/-- Keywords that go with a type. -/
def typedKeywords : List String :=
  ["minLength", "maxLength", "minimum", "maximum", "exclusiveMinimum", "exclusiveMaximum",
    "minItems", "maxItems", "items", "properties", "required", "additionalProperties"]

/-- Keywords that go with a type ask nothing of null. -/
theorem meetsKeyword_null {conforms : Json → Json → Prop} {keyword : String}
    (typed : keyword ∈ typedKeywords) (value : Json) :
    Json.MeetsKeyword root conforms description .null keyword value := by
  simp only [typedKeywords, List.mem_cons, List.not_mem_nil, or_false] at typed
  rcases typed with rfl | rfl | rfl | rfl | rfl | rfl | rfl | rfl | rfl | rfl | rfl | rfl <;>
    simp [Json.MeetsKeyword, Json.Limits, Json.length?, Json.rational?, Json.count?, Json.items,
      Json.members, Json.member?, Json.HasType]

theorem nullable_decides {schema : Schema} {value : Value} {holds : Prop}
    (present : value ≠ .absent)
    (decides : Judge.Decides (validate definitions schema) value holds) :
    Judge.Decides (validate definitions schema.nullable) value (value = .null ∨ holds) :=
  validate_decides (.inl present) (Judge.nullable_decides fun _ => decides)

/-- What decides about the form of a description. -/
def deciding : List String := ["$ref", "const", "enum", "oneOf", "anyOf", "allOf"]

theorem buildBare_byType {keywords : List String} (only : description.HasOnly keywords)
    (typed : ∀ keyword ∈ deciding, keyword ∉ keywords ++ Json.annotations) :
    buildBare known build description.entries = buildByType build description.entries := by
  have none : deciding.find? (has description.entries) = none := by
    rw [List.find?_eq_none]
    intro keyword mem
    rw [has, field_entries, only.member_eq_none (typed keyword mem)]
    exact Bool.false_ne_true
  unfold buildBare
  rw [deciding] at none
  rw [none]

theorem find_deciding {keyword : String} {value : Json} (decides : keyword ∈ deciding)
    (only : description.HasOnly [keyword]) (found : description.member? keyword = some value) :
    deciding.find? (has description.entries) = some keyword := by
  have unmarked : ∀ other ∈ deciding, other ∉ Json.annotations := by decide
  have same : ∀ other ∈ deciding, has description.entries other = (other == keyword) := by
    intro other mem
    rw [has, field_entries]
    by_cases isKeyword : other = keyword
    · rw [isKeyword, found, beq_self_eq_true]
      rfl
    · rw [only.member_eq_none, beq_eq_false_iff_ne.2 isKeyword]
      · rfl
      · rw [List.singleton_append, List.mem_cons, not_or]
        exact ⟨isKeyword, unmarked other mem⟩
  simp only [deciding, List.forall_mem_cons] at same
  obtain ⟨first, second, third, fourth, fifth, sixth, _⟩ := same
  simp only [deciding, List.find?_cons, first, second, third, fourth, fifth, sixth]
  simp only [deciding, List.mem_cons, List.not_mem_nil, or_false] at decides
  rcases decides with rfl | rfl | rfl | rfl | rfl | rfl <;> rfl

/-- Keywords that go with a type leave the type to decide. -/
theorem not_mem_deciding {keywords : List String}
    (typed : ∀ keyword ∈ keywords, keyword ∈ typedKeywords) :
    ∀ keyword ∈ deciding, keyword ∉ ("type" :: keywords) ++ Json.annotations := by
  intro keyword decides listed
  rw [List.cons_append, List.mem_cons, List.mem_append] at listed
  have other : ∀ keyword ∈ deciding,
      keyword ≠ "type" ∧ keyword ∉ typedKeywords ∧ keyword ∉ Json.annotations := by decide
  obtain ⟨notType, notTyped, notAnnotation⟩ := other keyword decides
  rcases listed with isType | isTyped | annotates
  · exact notType isType
  · exact notTyped (typed keyword isTyped)
  · exact notAnnotation annotates

/-- With null listed after a type, the schema of the type is made nullable. -/
theorem buildTypeList_null {type : String} (notNull : type ≠ "null") {entries : Entries}
    {bare : Schema} (made : buildTyped build (.text type) entries = .ok bare) :
    buildTypeList build [.text type, .text "null"] entries = .ok bare.nullable := by
  have isOther : isWord "null" (.text type) = false := by
    simp [isWord, Value.equals, Value.isNan, Value.same, notNull]
  have isNull : isWord "null" (.text "null") = true := by decide
  simp only [buildTypeList, List.filter_cons, isOther, isNull]
  simp only [Bool.not_false, Bool.not_true, Bool.false_eq_true, if_true, if_false, List.filter_nil,
    made, bind, Except.bind, List.any_cons, isNull, Bool.true_or, Bool.or_true]
  rfl

/-- The schema of a description of a type, and null besides if the description says so. -/
theorem ofType_decides {type : String} {keywords : List String}
    (form : description.IsOfType type keywords) (notNull : type ≠ "null")
    (typed : ∀ keyword ∈ keywords, keyword ∈ typedKeywords) {bare : Schema}
    (made : buildTyped build (.text type) description.entries = .ok bare)
    (refuses : bare.kind.acceptsAbsent = false) :
    ∃ schema, buildBare known build description.entries = .ok schema ∧
      schema.kind.acceptsAbsent = false ∧ ∀ subject,
        root.DecidesType description type keywords definitions bare subject →
          Judge.Decides (validate definitions schema) (.ofJson subject)
            (Json.Conforms root description subject) := by
  rw [buildBare_byType form.only (not_mem_deciding typed), buildByType]
  rcases form.type with found | found
  · refine ⟨bare, ?_, refuses, fun subject decides => decides.congr ?_⟩
    · rw [get_entries found]
      exact made
    · rw [form.only.conforms_iff, List.forall_mem_cons, Json.forall_member_iff found]
      simp [Json.MeetsKeyword, Json.items]
  · refine ⟨bare.nullable, ?_, rfl, fun subject decides => ?_⟩
    · rw [get_entries found]
      exact buildTypeList_null notNull made
    · refine (nullable_decides (Value.ofJson_ne_absent subject) decides).congr ?_
      rw [form.only.conforms_iff, List.forall_mem_cons, Value.ofJson_eq_null]
      by_cases null : subject = .null
      · subst null
        refine iff_of_true (.inl rfl) ⟨fun value isValue => ?_, fun keyword mem value _ =>
          meetsKeyword_null (typed keyword mem) value⟩
        rw [found] at isValue
        cases isValue
        exact ⟨"null", .inr (by simp [Json.items]), rfl⟩
      · have notNull : ¬ subject.HasType "null" := null
        rw [Json.forall_member_iff found]
        simp [Json.MeetsKeyword, Json.items, null, notNull]

theorem null_decides (only : description.HasOnly ["type"])
    (found : description.member? "type" = some (.text "null")) :
    buildBare known build description.entries = .ok .null ∧ ∀ subject,
      Judge.Decides (validate definitions .null) (.ofJson subject)
        (Json.Conforms root description subject) := by
  refine ⟨?_, fun subject => ?_⟩
  · rw [buildBare_byType only (by decide), buildByType, get_entries found]
    rfl
  · refine validate_decides (.inl (Value.ofJson_ne_absent subject)) ?_
    refine Judge.null_decides.congr ?_
    rw [only.conforms_iff, List.forall_mem_singleton, Json.forall_member_iff found, Value.ofJson_eq_null]
    simp [Json.MeetsKeyword, Json.items, Json.HasType]

/-- What a keyword asks that stands alone. -/
theorem conforms_single {subject value : Json} {keyword : String}
    (only : description.HasOnly [keyword]) (found : description.member? keyword = some value) :
    Json.Conforms root description subject ↔
      Json.MeetsKeyword root (Json.Conforms root) description subject keyword value := by
  rw [only.conforms_iff, List.forall_mem_singleton, Json.forall_member_iff found]

/-! ### Listed values -/

theorem enumeration_decides {texts : List String} (only : description.HasOnly ["enum"])
    (found : description.member? "enum" = some (.array (texts.map .text))) (nonempty : texts ≠ []) :
    ∃ schema, buildBare known build description.entries = .ok schema ∧ ∀ subject,
      Judge.Decides (validate definitions schema) (.ofJson subject)
        (Json.Conforms root description subject) := by
  have decides := find_deciding (by decide) only found
  rw [deciding] at decides
  refine ⟨Schema.leaf .enumeration { values := texts.map .text }, ?_, fun subject => ?_⟩
  · rw [buildBare, decides]
    simp only [get_entries found, Value.ofJson, Value.ofJsonItems_eq, List.map_map,
      buildEnumeration]
    cases texts with
    | nil => exact absurd rfl nonempty
    | cons first rest => rfl
  · refine validate_decides (.inl (Value.ofJson_ne_absent subject)) ?_
    have plain : Judge.memberValue (.ofJson subject) = .ofJson subject := by cases subject <;> rfl
    refine Judge.oneOf_decides.congr ?_
    rw [plain, conforms_single only found]
    exact Value.isIn_texts_iff

theorem constant_decides {text : String} (only : description.HasOnly ["const"])
    (found : description.member? "const" = some (.text text)) :
    ∃ schema, buildBare known build description.entries = .ok schema ∧ ∀ subject,
      Judge.Decides (validate definitions schema) (.ofJson subject)
        (Json.Conforms root description subject) := by
  have decides := find_deciding (by decide) only found
  rw [deciding] at decides
  refine ⟨.literal (.text text), ?_, fun subject => ?_⟩
  · rw [buildBare, decides]
    simp only [get_entries found, Value.ofJson]
  · refine validate_decides (.inl (Value.ofJson_ne_absent subject)) ?_
    refine Judge.literal_decides.congr ?_
    rw [conforms_single only found]
    exact Value.equals_text_iff

/-! ### Combinations -/

/-- What a list of descriptions is loaded as. -/
theorem buildAll_eq {parts : List Json} {made : Json → Schema}
    (isMade : ∀ part ∈ parts, build (.ofJson part) = .ok (made part)) :
    buildAll build (.ofJson (.array parts)) = .ok (parts.map made) := by
  have each : (parts.map Value.ofJson).mapM build = .ok (parts.map made) := by
    induction parts with
    | nil => rfl
    | cons first rest hypothesis =>
      rw [List.forall_mem_cons] at isMade
      rw [List.map_cons, List.mapM_cons, isMade.1, hypothesis isMade.2]
      rfl
  rw [Value.ofJson, Value.ofJsonItems_eq]
  exact each

/-- Intersections from the left decide whether all of their parts hold. -/
theorem foldl_decides {made : Json → Schema} {value : Value} {each : Json → Prop} {rest : List Json}
    {first : Schema} {holds : Prop} (here : Judge.Decides (validate definitions first) value holds)
    (others : ∀ part ∈ rest, Judge.Decides (validate definitions (made part)) value (each part)) :
    Judge.Decides (validate definitions ((rest.map made).foldl .intersection first)) value
      (holds ∧ ∀ part ∈ rest, each part) := by
  induction rest generalizing first holds with
  | nil => exact here.congr (by simp)
  | cons second rest hypothesis =>
    rw [List.forall_mem_cons] at others
    have both : Judge.Decides (validate definitions (.intersection first (made second))) value
        (holds ∧ each second) := by
      have each : ∀ part ∈ [(first, holds), (made second, each second)],
          Judge.Decides (validate definitions part.1) value part.2 :=
        List.forall_mem_cons.2 ⟨here, List.forall_mem_singleton.2 others.1⟩
      exact validate_decides (.inr rfl) ((Judge.intersection_decides each).congr (by simp))
    refine (hypothesis both others.2).congr ?_
    rw [List.forall_mem_cons, and_assoc]

section Combinations

variable {parts : List Json} {made : Json → Schema}
variable (isMade : ∀ part ∈ parts, build (.ofJson part) = .ok (made part)) (nonempty : parts ≠ [])

include isMade nonempty

theorem anyOf_decides (only : description.HasOnly ["anyOf"])
    (found : description.member? "anyOf" = some (.array parts)) :
    ∃ schema, buildBare known build description.entries = .ok schema ∧ ∀ subject,
      (∀ part ∈ parts, Judge.Decides (validate definitions (made part)) (.ofJson subject)
        (Json.Conforms root part subject)) →
      Judge.Decides (validate definitions schema) (.ofJson subject)
        (Json.Conforms root description subject) := by
  have decides := find_deciding (by decide) only found
  rw [deciding] at decides
  refine ⟨.node .union {} none none none none none none (parts.map made), ?_,
    fun subject each => ?_⟩
  · rw [buildBare, decides]
    simp only [get_entries found, buildAll_eq isMade, bind, Except.bind, Schema.union]
    cases parts with
    | nil => exact absurd rfl nonempty
    | cons first rest => rfl
  · refine validate_decides (.inr rfl) ?_
    rw [conforms_single only found]
    have united : Judge.Decides (Judge.union (parts.map (validate definitions ∘ made)))
        (.ofJson subject) (∃ part ∈ parts, Json.Conforms root part subject) :=
      Judge.union_decides each
    rw [← List.map_map] at united
    exact united

theorem allOf_decides (only : description.HasOnly ["allOf"])
    (found : description.member? "allOf" = some (.array parts)) :
    ∃ schema, buildBare known build description.entries = .ok schema ∧ ∀ subject,
      (∀ part ∈ parts, Judge.Decides (validate definitions (made part)) (.ofJson subject)
        (Json.Conforms root part subject)) →
      Judge.Decides (validate definitions schema) (.ofJson subject)
        (Json.Conforms root description subject) := by
  have decides := find_deciding (by decide) only found
  rw [deciding] at decides
  obtain ⟨first, rest, rfl⟩ := List.exists_cons_of_ne_nil nonempty
  refine ⟨(rest.map made).foldl .intersection (made first), ?_, fun subject each => ?_⟩
  · rw [buildBare, decides]
    simp only [get_entries found, buildConjunction, buildAll_eq isMade, bind, Except.bind]
    rfl
  · rw [List.forall_mem_cons] at each
    rw [conforms_single only found]
    refine (foldl_decides each.1 each.2).congr ?_
    simp [Json.MeetsKeyword, Json.items]

theorem combination_decides {keyword : String} (combines : keyword ∈ ["anyOf", "allOf"])
    (only : description.HasOnly [keyword])
    (found : description.member? keyword = some (.array parts)) :
    ∃ schema, buildBare known build description.entries = .ok schema ∧ ∀ subject,
      (∀ part ∈ parts, Judge.Decides (validate definitions (made part)) (.ofJson subject)
        (Json.Conforms root part subject)) →
      Judge.Decides (validate definitions schema) (.ofJson subject)
        (Json.Conforms root description subject) := by
  simp only [List.mem_cons, List.not_mem_nil, or_false] at combines
  rcases combines with rfl | rfl
  · exact anyOf_decides isMade nonempty only found
  · exact allOf_decides isMade nonempty only found

end Combinations

/-! ### Annotations -/

theorem validate_describe (schema : Schema) (text : Value) :
    validate definitions (schema.describe text) = validate definitions schema := by
  rw [validate_eq, validate_eq]
  cases schema
  rfl

theorem default_decides {schema : Schema} {value : Value} {holds : Prop} (fallback : Fallback)
    (present : value ≠ .absent)
    (decides : Judge.Decides (validate definitions schema) value holds) :
    Judge.Decides (validate definitions (schema.default fallback)) value holds :=
  validate_decides (.inr rfl) ((Judge.optional_decides fun _ => decides).congr (by simp [present]))

/-- A default and a text do not change what is decided of values that are there. -/
theorem annotate_decides {entries : Entries} {schema : Schema} {value : Value} {holds : Prop}
    (present : value ≠ .absent)
    (decides : Judge.Decides (validate definitions schema) value holds) :
    Judge.Decides (validate definitions (annotate entries schema)) value holds := by
  unfold annotate
  simp only
  have described : ∀ {bare : Schema}, Judge.Decides (validate definitions bare) value holds →
      Judge.Decides (validate definitions (if (get entries "description").isTruthy then
        bare.describe (get entries "description") else bare)) value holds := by
    intro bare decides
    split
    · rw [validate_describe]
      exact decides
    · exact decides
  cases Value.field? entries "default" with
  | none => exact described decides
  | some fallback => exact described (default_decides _ present decides)

/-- Without a default a schema keeps its kind and its checks. -/
theorem annotate_keeps {schema : Schema} (noDefault : description.member? "default" = none) :
    (annotate description.entries schema).kind = schema.kind ∧
      (annotate description.entries schema).checks = schema.checks := by
  unfold annotate
  simp only [field_entries, noDefault]
  cases schema
  split <;> exact ⟨rfl, rfl⟩

theorem buildWithin_succ {keyword : String} {value : Json} {levels : Nat} {bare : Schema}
    (found : description.member? keyword = some value)
    (made : buildBare known (buildWithin known levels) description.entries = .ok bare) :
    buildWithin known (levels + 1) (.ofJson description) =
      .ok (annotate description.entries bare) := by
  obtain ⟨first, rest, rfl⟩ := Json.exists_object found
  show (do pure (annotate (Json.object (first :: rest)).entries
    (← buildBare known (buildWithin known levels) (Json.object (first :: rest)).entries))) = _
  rw [made]
  rfl

end Document

end Specimen
