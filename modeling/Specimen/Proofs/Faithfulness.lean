/-
**Loading keeps the meaning of documents.**

The schema that a description of the fragment is loaded as accepts the JSON values that conform to
the description, and no others (`Document.load_conforms`). What the schema of a description decides
of a value depends on what the schemas of other descriptions decide: of parts of the value, or of
the value itself where the description refers to others (`Json.Asks`). Parts of a value nest less
deeply than the value, and in a document of the fragment references come to an end
(`Document.refers_acc`), so that all that is asked about is decided.
-/

import Specimen.Proofs.References
import Specimen.Proofs.Ways

namespace Specimen

/-! ### Parts of descriptions -/

namespace Value

theorem depth_lt_item {item : Json} {items : List Json} (mem : item ∈ items) :
    (ofJson item).depth < (ofJson (.array items)).depth := by
  have listed : ofJson item ∈ ofJsonItems items := by
    rw [ofJsonItems_eq]
    exact List.mem_map_of_mem mem
  exact Nat.lt_succ_of_le (depth_le_items listed)

theorem depth_lt_field {field : String × Json} {fields : List (String × Json)}
    (mem : field ∈ fields) : (ofJson field.2).depth < (ofJson (.object fields)).depth := by
  have listed : (Value.text field.1, ofJson field.2) ∈ ofJsonMembers fields := by
    rw [ofJsonMembers_eq]
    exact List.mem_map_of_mem mem
  exact Nat.lt_succ_of_le (depth_le_entries listed).2

/-- The value of a member is less deep than the object. -/
theorem depth_lt_member {json value : Json} {name : String}
    (found : json.member? name = some value) : (ofJson value).depth < (ofJson json).depth := by
  obtain ⟨first, rest, rfl⟩ := Json.exists_object found
  exact depth_lt_field (mem_of_lookup found)

end Value

namespace Json

variable {root description subject : Json}

theorem IsOfType.exists_type {type : String} {keywords : List String}
    (form : description.IsOfType type keywords) :
    ∃ value, description.member? "type" = some value :=
  form.type.elim (fun found => ⟨_, found⟩) fun found => ⟨_, found⟩

/-- A description says something. -/
theorem IsDescription.exists_object (described : root.IsDescription description) :
    ∃ first rest, description = .object (first :: rest) := by
  cases described with
  | string form | number _ form | boolean form =>
    obtain ⟨value, found⟩ := form.exists_type
    exact Json.exists_object found
  | null _ found | array _ _ _ found | object _ found | record _ found | enumeration _ found
  | constant _ found | combination _ _ found | reference _ found => exact Json.exists_object found

/-- A description has only some keywords if every member is one of them, or an annotation. -/
theorem HasOnly.of_members {keywords : List String}
    (each : ∀ member ∈ description.members, member.1 ∈ keywords ++ annotations) :
    description.HasOnly keywords :=
  fun _ _ found => each _ (mem_of_lookup found)

/-- A description without a type is not a plain one. -/
theorem HasOnly.not_plain {keyword : String} (only : description.HasOnly [keyword])
    (other : "type" ∉ [keyword] ++ annotations) : ¬ description.IsPlain := by
  rintro ⟨⟨type, found⟩, _⟩
  rw [only.member_eq_none other] at found
  cases found

/-! ### What is asked about -/

/-- Whether the subject conforms to the description depends on whether the other value conforms to
the other description. -/
inductive Asks (root description subject : Json) : Json → Json → Prop
  | item {element item : Json} (found : description.member? "items" = some element)
      (mem : item ∈ subject.items) : Asks root description subject element item
  | field {fields : List (String × Json)} {field : String × Json} {piece : Json}
      (found : description.member? "properties" = some (.object fields)) (mem : field ∈ fields)
      (there : subject.member? field.1 = some piece) : Asks root description subject field.2 piece
  | additional {element : Json} {member : String × Json}
      (found : description.member? "additionalProperties" = some element)
      (mem : member ∈ subject.members) : Asks root description subject element member.2
  | same {other : Json} (refers : root.RefersTo description other) :
      Asks root description subject other subject

end Json

namespace Document

variable {root description subject : Json}

/-- A schema is loaded that decides whether the subject conforms to the description. -/
def Serves (root description subject : Json) : Prop :=
  ∀ levels, (Value.ofJson description).depth < levels → ∃ schema,
    buildWithin (ofRoot root).definitions levels (.ofJson description) = .ok schema ∧
      Judge.Decides (validate (ofRoot root).schemas schema) (.ofJson subject)
        (Json.Conforms root description subject)

/-- What is served is decided by the schema that is loaded. -/
theorem Serves.decides {levels : Nat} {schema : Schema} (serves : Serves root description subject)
    (enough : (Value.ofJson description).depth < levels)
    (made : buildWithin (ofRoot root).definitions levels (.ofJson description) = .ok schema) :
    Judge.Decides (validate (ofRoot root).schemas schema) (.ofJson subject)
      (Json.Conforms root description subject) := by
  obtain ⟨other, isOther, decides⟩ := serves levels enough
  rw [made] at isOther
  cases isOther
  exact decides

/-! ### Loading, form by form -/

/-- The schema decides whether subjects conform to the description as soon as what is asked about is
served. It refuses values that are not there if the description is plain. -/
structure IsFaithful (root description : Json) (schema : Schema) : Prop where
  refuses : description.IsPlain → schema.kind.acceptsAbsent = false
  decides : ∀ subject : Json, subject.IsModerate →
    (∀ other piece, root.IsDescription other → root.Asks description subject other piece →
      Serves root other piece) →
    Judge.Decides (validate (ofRoot root).schemas schema) (.ofJson subject)
      (Json.Conforms root description subject)

/-- The description is loaded faithfully. -/
def Loads (root description : Json) : Prop :=
  ∀ levels, (Value.ofJson description).depth < levels → ∃ schema,
    buildWithin (ofRoot root).definitions levels (.ofJson description) = .ok schema ∧
      IsFaithful root description schema

/-- Default and text do not matter to what is loaded of the other keywords. -/
theorem loads_of_bare {keyword : String} {value : Json}
    (found : description.member? keyword = some value)
    (each : ∀ levels, (Value.ofJson description).depth ≤ levels → ∃ bare,
      buildBare (ofRoot root).definitions (buildWithin (ofRoot root).definitions levels)
        description.entries = .ok bare ∧ IsFaithful root description bare) :
    Loads root description := by
  intro levels enough
  obtain ⟨fewer, rfl⟩ : ∃ fewer, levels = fewer + 1 := ⟨levels - 1, by omega⟩
  obtain ⟨bare, made, faithful⟩ := each fewer (by omega)
  refine ⟨_, buildWithin_succ found made, fun isPlain => ?_, fun subject moderate served => ?_⟩
  · rw [(annotate_keeps isPlain.noDefault).1]
    exact faithful.refuses isPlain
  · exact annotate_decides (Value.ofJson_ne_absent subject)
      (faithful.decides subject moderate served)

/-- A description of a type is loaded faithfully if the schema of the type is faithful. -/
theorem loads_of_type {type : String} {keywords : List String}
    (form : description.IsOfType type keywords) (notNull : type ≠ "null")
    (typed : ∀ keyword ∈ keywords, keyword ∈ typedKeywords)
    (each : ∀ levels, (Value.ofJson description).depth ≤ levels → ∃ bare,
      buildTyped (buildWithin (ofRoot root).definitions levels) (.text type) description.entries =
        .ok bare ∧ bare.kind.acceptsAbsent = false ∧ ∀ subject : Json, subject.IsModerate →
          (∀ other piece, root.IsDescription other → root.Asks description subject other piece →
            Serves root other piece) →
          root.DecidesType description type keywords (ofRoot root).schemas bare subject) :
    Loads root description := by
  obtain ⟨value, found⟩ := form.exists_type
  refine loads_of_bare found fun levels enough => ?_
  obtain ⟨bare, made, refuses, decides⟩ := each levels enough
  obtain ⟨schema, isSchema, alsoRefuses, conforms⟩ := ofType_decides form notNull typed made refuses
  exact ⟨schema, isSchema, fun _ => alsoRefuses, fun subject moderate served =>
    conforms subject (decides subject moderate served)⟩

/-- A description of texts is loaded. -/
theorem string_loads (form : description.IsOfType "string" ["minLength", "maxLength"])
    (least : description.HasSize "minLength") (most : description.HasSize "maxLength") :
    Loads root description := by
  refine loads_of_type form (by decide) (by decide) fun levels _ => ?_
  obtain ⟨bare, made, isKind, decides⟩ := string_decides form.only least most
  exact ⟨bare, made, isKind ▸ rfl, fun subject _ _ => decides subject⟩

/-- A description of numbers is loaded. -/
theorem number_loads {type : String} (isNumeric : type ∈ ["integer", "number"])
    (form : description.IsOfType type
      ["minimum", "maximum", "exclusiveMinimum", "exclusiveMaximum"])
    (minimum : description.HasBound "minimum") (maximum : description.HasBound "maximum")
    (above : description.HasExclusiveBound "exclusiveMinimum")
    (below : description.HasExclusiveBound "exclusiveMaximum") : Loads root description := by
  have notNull : type ≠ "null" := by
    rintro rfl
    exact absurd isNumeric (by decide)
  refine loads_of_type form notNull (by decide) fun levels _ => ?_
  obtain ⟨bare, made, isKind, decides⟩ := number_decides isNumeric minimum maximum above below
  refine ⟨bare, ?_, isKind ▸ rfl, fun subject moderate _ => decides subject moderate⟩
  simp only [List.mem_cons, List.not_mem_nil, or_false] at isNumeric
  rcases isNumeric with rfl | rfl <;> exact made

/-- A description of arrays is loaded if that of the items is. -/
theorem array_loads {element : Json}
    (form : description.IsOfType "array" ["items", "minItems", "maxItems"])
    (least : description.HasSize "minItems") (most : description.HasSize "maxItems")
    (found : description.member? "items" = some element) (inner : root.IsDescription element)
    (loaded : Loads root element) : Loads root description := by
  have smaller := Value.depth_lt_member found
  refine loads_of_type form (by decide) (by decide) fun levels enough => ?_
  have enough : (Value.ofJson element).depth < levels := by omega
  obtain ⟨child, isChild, _⟩ := loaded levels enough
  obtain ⟨bare, made, isKind, decides⟩ := array_decides form.only least most found isChild
  refine ⟨bare, made, isKind ▸ rfl, fun subject _ served => decides subject fun item mem => ?_⟩
  exact (served element item inner (.item found mem)).decides enough isChild

/-- A description of objects is loaded if those of the fields are. -/
theorem object_loads {fields : List (String × Json)}
    (form : description.IsOfType "object" ["properties", "required"])
    (found : description.member? "properties" = some (.object fields)) (nonempty : fields ≠ [])
    (distinct : (fields.map (·.1)).Nodup) (each : ∀ field ∈ fields, root.IsDescription field.2)
    (required : ∀ names, description.member? "required" = some names → names.AreNamed fields)
    (loaded : ∀ field ∈ fields, Loads root field.2) : Loads root description := by
  have smaller := Value.depth_lt_member found
  refine loads_of_type form (by decide) (by decide) fun levels enough => ?_
  have enough : ∀ field ∈ fields, (Value.ofJson field.2).depth < levels := by
    intro field mem
    have := Value.depth_lt_field mem
    omega
  choose! made isMade faithful using fun field mem => loaded field mem levels (enough field mem)
  obtain ⟨bare, isBare, isKind, decides⟩ := object_decides form.only found nonempty distinct
    required isMade fun field mem => (faithful field mem).refuses
  refine ⟨bare, isBare, isKind ▸ rfl, fun subject _ served => decides subject ?_⟩
  intro field mem piece there
  exact (served field.2 piece (each field mem) (.field found mem there)).decides (enough field mem)
    (isMade field mem)

/-- A description of records is loaded if that of the values is. -/
theorem record_loads {element : Json}
    (form : description.IsOfType "object" ["additionalProperties"])
    (found : description.member? "additionalProperties" = some element)
    (inner : root.IsDescription element) (loaded : Loads root element) :
    Loads root description := by
  have smaller := Value.depth_lt_member found
  refine loads_of_type form (by decide) (by decide) fun levels enough => ?_
  have enough : (Value.ofJson element).depth < levels := by omega
  obtain ⟨child, isChild, _⟩ := loaded levels enough
  obtain ⟨first, rest, isObject⟩ := inner.exists_object
  obtain ⟨bare, made, isKind, decides⟩ := record_decides form.only found isObject isChild
  refine ⟨bare, made, isKind ▸ rfl, fun subject _ served => decides subject fun member mem => ?_⟩
  exact (served element member.2 inner (.additional found mem)).decides enough isChild

/-- A combination of descriptions is loaded if all of them are. -/
theorem combination_loads {keyword : String} {parts : List Json}
    (combines : keyword ∈ ["anyOf", "allOf"]) (only : description.HasOnly [keyword])
    (found : description.member? keyword = some (.array parts)) (nonempty : parts ≠ [])
    (each : ∀ part ∈ parts, root.IsDescription part) (loaded : ∀ part ∈ parts, Loads root part) :
    Loads root description := by
  have smaller := Value.depth_lt_member found
  refine loads_of_bare found fun levels enough => ?_
  have enough : ∀ part ∈ parts, (Value.ofJson part).depth < levels := by
    intro part mem
    have := Value.depth_lt_item mem
    omega
  choose! made isMade _ using fun part mem => loaded part mem levels (enough part mem)
  obtain ⟨schema, isSchema, decides⟩ := combination_decides isMade nonempty combines only found
  have untyped : "type" ∉ [keyword] ++ Json.annotations := by
    simp only [List.mem_cons, List.not_mem_nil, or_false] at combines
    rcases combines with rfl | rfl <;> decide
  refine ⟨schema, isSchema, fun isPlain => absurd isPlain (only.not_plain untyped),
    fun subject _ served => decides subject fun part mem => ?_⟩
  exact (served part subject (each part mem) (.same (.part combines found mem))).decides
    (enough part mem) (isMade part mem)

/-- A reference is loaded if it points to something in the document. -/
theorem reference_loads (sound : root.IsDocument) {target : Json} {text : String}
    (only : description.HasOnly ["$ref"]) (found : description.member? "$ref" = some (.text text))
    (points : root.PointsTo text target) : Loads root description := by
  refine loads_of_bare found fun levels _ => ?_
  obtain ⟨schema, isSchema, decides⟩ := reference_decides sound only found points
  refine ⟨schema, isSchema, fun isPlain => absurd isPlain (only.not_plain (by decide)),
    fun subject _ served => ?_⟩
  obtain ⟨_, _, _, _, mem⟩ := mem_of_pointsTo points
  have serves := served target subject (sound.each _ mem) (.same (.reference found points))
  obtain ⟨loaded, isLoaded, decided⟩ := serves _ (Nat.lt_succ_self _)
  exact decides subject loaded isLoaded decided

/-- Every description in the fragment is loaded faithfully. -/
theorem loads (sound : root.IsDocument) (described : root.IsDescription description) :
    Loads root description := by
  induction described with
  | string form least most => exact string_loads form least most
  | number isNumeric form minimum maximum above below =>
    exact number_loads isNumeric form minimum maximum above below
  | boolean form =>
    exact loads_of_type form (by decide) (List.forall_mem_nil _) fun _ _ =>
      ⟨.boolean, rfl, rfl, fun subject _ _ => boolean_decides subject⟩
  | null only found =>
    refine loads_of_bare found fun _ _ => ?_
    obtain ⟨made, decides⟩ := null_decides only found
    exact ⟨.null, made, fun _ => rfl, fun subject _ _ => decides subject⟩
  | array form least most found inner loaded => exact array_loads form least most found inner loaded
  | object form found nonempty distinct each required loaded =>
    exact object_loads form found nonempty distinct each required loaded
  | record form found inner loaded => exact record_loads form found inner loaded
  | enumeration only found nonempty =>
    refine loads_of_bare found fun _ _ => ?_
    obtain ⟨schema, made, decides⟩ := enumeration_decides only found nonempty
    exact ⟨schema, made, fun isPlain => absurd isPlain (only.not_plain (by decide)),
      fun subject _ _ => decides subject⟩
  | constant only found =>
    refine loads_of_bare found fun _ _ => ?_
    obtain ⟨schema, made, decides⟩ := constant_decides only found
    exact ⟨schema, made, fun isPlain => absurd isPlain (only.not_plain (by decide)),
      fun subject _ _ => decides subject⟩
  | combination combines only found nonempty each loaded =>
    exact combination_loads combines only found nonempty each loaded
  | reference only found points => exact reference_loads sound only found points

/-! ### Asking comes to an end -/

/-- References come to an end if they do from the definitions that are referred to. -/
theorem acc_of_definitions (description : Json)
    (each : ∀ definition ∈ root.definitions.map (·.2),
      Relation.TransGen root.RefersTo description definition →
        Acc (fun later earlier => root.RefersTo earlier later) definition) :
    Acc (fun later earlier => root.RefersTo earlier later) description := by
  -- parts of a combination nest less deeply, and references lead to definitions
  induction depth : (Value.ofJson description).depth using Nat.strongRecOn
    generalizing description with
  | ind depth shallower =>
    refine .intro description fun other refers => ?_
    cases id refers with
    | part combines found mem =>
      have smaller := (Value.depth_lt_item mem).trans (Value.depth_lt_member found)
      exact shallower _ (depth ▸ smaller) other
        (fun definition listed leads => each definition listed (.head refers leads)) rfl
    | reference found points =>
      obtain ⟨_, _, _, _, mem⟩ := mem_of_pointsTo points
      exact each other (List.mem_map_of_mem mem) (.single refers)

/-- In a document of the fragment references come to an end. -/
theorem refers_acc (sound : root.IsDocument) (description : Json) :
    Acc (fun later earlier => root.RefersTo earlier later) description := by
  have acyclic : ∀ definition ∈ root.definitions.map (·.2),
      ¬ Relation.TransGen root.RefersTo definition definition :=
    List.forall_mem_map.2 sound.grounded
  have each := forall_of_acyclic acyclic fun definition _ => acc_of_definitions definition
  exact acc_of_definitions description fun definition listed _ => each definition listed

/-- A subject is decided about if its parts are. -/
theorem serves_of_parts (sound : root.IsDocument) (moderate : subject.IsModerate)
    (items : ∀ item ∈ subject.items, ∀ other, root.IsDescription other → Serves root other item)
    (members : ∀ member ∈ subject.members, ∀ other, root.IsDescription other →
      Serves root other member.2)
    (described : root.IsDescription description) : Serves root description subject := by
  induction refers_acc sound description with
  | intro description _ hypothesis =>
    intro levels enough
    obtain ⟨schema, made, faithful⟩ := loads sound described levels enough
    refine ⟨schema, made, faithful.decides subject moderate fun other piece isOther asks => ?_⟩
    cases asks with
    | item _ mem => exact items piece mem other isOther
    | @field fields field piece _ _ there =>
      exact members (field.1, piece) (mem_of_lookup there) field.2 isOther
    | @additional element member _ mem => exact members member mem other isOther
    | same refers => exact hypothesis other refers isOther

/-- A subject without parts is served by every description. -/
theorem serves_of_leaf (sound : root.IsDocument) (moderate : subject.IsModerate)
    (noItems : subject.items = []) (noMembers : subject.members = [])
    (described : root.IsDescription description) : Serves root description subject := by
  refine serves_of_parts sound moderate ?_ ?_ described
  · rw [noItems]
    exact List.forall_mem_nil _
  · rw [noMembers]
    exact List.forall_mem_nil _

/-- About every description and every subject of moderate size it is decided. -/
theorem serves (sound : root.IsDocument) (moderate : subject.IsModerate)
    (described : root.IsDescription description) : Serves root description subject := by
  induction moderate generalizing description with
  | null => exact serves_of_leaf sound .null rfl rfl described
  | bool truth => exact serves_of_leaf sound (.bool truth) rfl rfl described
  | text text => exact serves_of_leaf sound (.text text) rfl rfl described
  | @number json value isNumber small =>
    cases json with
    | int _ | float _ => exact serves_of_leaf sound (.number isNumber small) rfl rfl described
    | _ => cases isNumber
  | array each hypothesis =>
    exact serves_of_parts sound (.array each) (fun item mem other => hypothesis item mem)
      (List.forall_mem_nil _) described
  | object each hypothesis =>
    exact serves_of_parts sound (.object each) (List.forall_mem_nil _)
      (fun member mem other => hypothesis member mem) described

/-! ### Documents -/

/-- What is loaded by a name: the document itself if there is none, or the definition of the name.
-/
inductive Selects (root : Json) : Value → Json → Prop
  | whole (described : root.IsDescription root) : Selects root .null root
  | definition {name : String} {description : Json}
      (mem : (name, description) ∈ root.definitions) : Selects root (.text name) description

variable {name : Value}

theorem Selects.isDescription (selects : Selects root name description) (sound : root.IsDocument) :
    root.IsDescription description := by
  cases selects with
  | whole described => exact described
  | definition mem => exact sound.each _ mem

/-- The schema of a name is what its description is built to. -/
theorem schemaFor_eq (sound : root.IsDocument) (selects : Selects root name description) :
    (ofRoot root).schemaFor name = (ofRoot root).build (.ofJson description) := by
  cases selects with
  | whole => rfl
  | @definition name _ mem =>
    have nonempty : name ≠ "" := (sound.names _ mem).1
    have truthy : (Value.text name).isTruthy = true := by simp [Value.isTruthy, nonempty]
    have found : Value.lookup? (ofRoot root).definitions (.text name) =
        some (.ofJson description) := by
      show Value.field? (Value.ofJsonMembers root.definitions) name = _
      rw [Value.field_ofJsonMembers, lookup_of_mem sound.distinct mem]
      rfl
    rw [schemaFor, if_pos truthy, Document.definition, if_neg (by simp [Value.isHashable]), found]

/-- A document of the fragment is loaded as a schema, which accepts exactly the JSON values that
conform to its description. -/
theorem load_conforms (sound : root.IsDocument) (selects : Selects root name description) :
    ∃ document schema, Document.ofValue (.ofJson root) = .ok document ∧
      loadSchema (.ofJson root) name = .ok schema ∧
        ∀ subject : Json, subject.IsModerate → ∀ path, ∃ issues,
          validate document.schemas schema (.ofJson subject) path = .ok issues ∧
            (issues = [] ↔ root.Conforms description subject) := by
  have described := selects.isDescription sound
  have enough := Nat.lt_succ_self (Value.ofJson description).depth
  obtain ⟨schema, made, _⟩ := loads sound described _ enough
  refine ⟨ofRoot root, schema, ofValue_eq sound, ?_, fun subject moderate => ?_⟩
  · rw [loadSchema, ofValue_eq sound]
    exact (schemaFor_eq sound selects).trans made
  · exact (serves sound moderate described).decides enough made

/-! ### A document of trees -/

namespace Trees

/-- A description of names, which are not empty. -/
def named : Json := .object [("type", .text "string"), ("minLength", .int 1)]

/-- A description of what refers to trees. -/
def referred : Json := .object [("$ref", .text "#/definitions/Tree")]

/-- A description of lists of trees. -/
def listed : Json := .object [("type", .text "array"), ("items", referred)]

/-- A description of trees, which have names, and trees for children if they have any. -/
def tree : Json := .object [("type", .text "object"),
  ("properties", .object [("name", named), ("children", listed)]),
  ("required", .array [.text "name"])]

/-- A document of trees. -/
def forest : Json := .object [("$ref", .text "#/definitions/Tree"),
  ("definitions", .object [("Tree", tree)])]

theorem forest_pointsTo : forest.PointsTo "#/definitions/Tree" tree :=
  ⟨("#/definitions/", ["definitions"]), by simp [Json.places], "Tree", rfl,
    List.mem_singleton.2 rfl⟩

theorem tree_isDescription : forest.IsDescription tree := by
  refine .object ⟨.of_members (by decide), .inl rfl⟩ rfl (List.cons_ne_nil _ _)
    (by decide) ?_ ?_
  · refine List.forall_mem_cons.2 ⟨?_, List.forall_mem_singleton.2 ?_⟩
    · refine .string ⟨.of_members (by decide), .inl rfl⟩ (fun value found => ?_)
        fun value found => ?_
      · cases found
        exact ⟨1, rfl⟩
      · cases found
    · refine .array ⟨.of_members (by decide), .inl rfl⟩ (fun value found => ?_)
        (fun value found => ?_) rfl ?_
      · cases found
      · cases found
      · exact .reference (.of_members (by decide)) rfl forest_pointsTo
  · intro names found
    cases found
    refine ⟨["name"], rfl, List.forall_mem_singleton.2 ⟨_, List.mem_cons_self, rfl, ⟨_, rfl⟩, rfl⟩⟩

/-- The document of trees is one of the fragment, though a tree refers to itself. -/
theorem forest_isDocument : forest.IsDocument where
  isObject := ⟨_, rfl⟩
  places := by
    simp only [List.forall_mem_cons]
    exact ⟨.inl rfl, .inl rfl, .inr ⟨_, rfl⟩, .inl rfl, List.forall_mem_nil _⟩
  distinct := by decide
  names := List.forall_mem_singleton.2 ⟨by decide, by decide⟩
  each := List.forall_mem_singleton.2 tree_isDescription
  grounded := by
    refine List.forall_mem_singleton.2 fun leads => ?_
    obtain ⟨other, refers, _⟩ := Relation.TransGen.head'_iff.1 leads
    cases refers with
    | part combines found =>
      simp only [List.mem_cons, List.not_mem_nil, or_false] at combines
      rcases combines with rfl | rfl <;> cases found
    | reference found => cases found

/-! ### Verdicts on trees -/

/-- A name is a text that is not empty. -/
theorem conforms_named : forest.Conforms named subject ↔
    ∃ name : String, subject = .text name ∧ 1 ≤ name.length := by
  have only : named.HasOnly ["type", "minLength"] := .of_members (by decide)
  have isType : named.member? "type" = some (.text "string") := rfl
  have isLeast : named.member? "minLength" = some (.int 1) := rfl
  rw [only.conforms_iff, List.forall_mem_cons, List.forall_mem_singleton,
    Json.forall_member_iff isType, Json.forall_member_iff isLeast]
  cases subject <;>
    simp [Json.MeetsKeyword, Json.items, Json.HasType, Json.Limits, Json.rational?, Json.length?]

theorem conforms_listed : forest.Conforms listed subject ↔
    ∃ items, subject = .array items ∧ ∀ item ∈ items, forest.Conforms tree item := by
  have only : listed.HasOnly ["type", "items"] := .of_members (by decide)
  have isType : listed.member? "type" = some (.text "array") := rfl
  have areItems : listed.member? "items" = some referred := rfl
  have refers : ∀ item, forest.Conforms referred item ↔ forest.Conforms tree item := fun item =>
    conforms_reference forest_isDocument (.of_members (by decide)) rfl forest_pointsTo
  rw [only.conforms_iff, List.forall_mem_cons, List.forall_mem_singleton,
    Json.forall_member_iff isType, Json.forall_member_iff areItems]
  cases subject <;> simp [Json.MeetsKeyword, Json.items, Json.HasType, refers]

/-- A tree has a name, and its children are trees if it has any. -/
theorem conforms_tree : forest.Conforms tree subject ↔ ∃ members, subject = .object members ∧
    (∃ name, members.lookup "name" = some name ∧ forest.Conforms named name) ∧
      ∀ children, members.lookup "children" = some children → forest.Conforms listed children := by
  have only : tree.HasOnly ["type", "properties", "required"] := .of_members (by decide)
  have isType : tree.member? "type" = some (.text "object") := rfl
  have fields : tree.member? "properties" =
      some (.object [("name", named), ("children", listed)]) := rfl
  have names : tree.member? "required" = some (.array [.text "name"]) := rfl
  rw [only.conforms_iff, List.forall_mem_cons, List.forall_mem_cons, List.forall_mem_singleton,
    Json.forall_member_iff isType, Json.forall_member_iff fields, Json.forall_member_iff names]
  cases subject with
  | object members =>
    cases found : members.lookup "name" <;>
      simp [Json.MeetsKeyword, Json.items, Json.HasType, Json.member?, Json.members, found]
  | _ => simp [Json.MeetsKeyword, Json.items, Json.HasType]

theorem conforms_forest : forest.Conforms forest subject ↔ forest.Conforms tree subject :=
  conforms_reference forest_isDocument (.of_members (by decide)) rfl forest_pointsTo

/-- A tree without children. -/
def leaf (name : String) : Json := .object [("name", .text name)]

/-- A tree with a child of that name. -/
def parentOf (name : String) : Json :=
  .object [("name", .text "root"), ("children", .array [leaf name])]

theorem parentOf_isModerate (name : String) : (parentOf name).IsModerate := by
  refine .object (List.forall_mem_cons.2 ⟨.text "root", List.forall_mem_singleton.2 ?_⟩)
  refine .array (List.forall_mem_singleton.2 (.object (List.forall_mem_singleton.2 ?_)))
  exact .text name

/-- A tree with one child, itself a leaf, conforms if their name is not empty. -/
theorem conforms_parentOf (name : String) :
    forest.Conforms forest (parentOf name) ↔ 1 ≤ name.length := by
  have ofLeaf : forest.Conforms tree (leaf name) ↔ 1 ≤ name.length := by
    have childless : [("name", Json.text name)].lookup "children" = none := rfl
    rw [conforms_tree]
    simp [leaf, conforms_named, childless]
  have children : [("name", Json.text "root"), ("children", .array [leaf name])].lookup "children" =
      some (.array [leaf name]) := rfl
  have long : 1 ≤ "root".length := by decide
  rw [conforms_forest, conforms_tree]
  simp [parentOf, conforms_named, conforms_listed, children, ofLeaf, long]

/-- The document of trees is loaded as a schema that looks at the names of children. -/
theorem loaded_faithfully : forest.IsDocument ∧ Selects forest .null forest ∧
    ∃ loaded schema, Document.ofValue (.ofJson forest) = .ok loaded ∧
      loadSchema (.ofJson forest) .null = .ok schema ∧
        validate loaded.schemas schema (.ofJson (parentOf "leaf")) [] = .ok [] ∧
          ∃ issue issues, validate loaded.schemas schema (.ofJson (parentOf "")) [] =
            .ok (issue :: issues) := by
  have selects : Selects forest .null forest :=
    .whole (.reference (.of_members (by decide)) rfl forest_pointsTo)
  obtain ⟨loaded, schema, isLoaded, isSchema, decides⟩ := load_conforms forest_isDocument selects
  refine ⟨forest_isDocument, selects, loaded, schema, isLoaded, isSchema, ?_, ?_⟩
  · obtain ⟨issues, answered, verdict⟩ := decides (parentOf "leaf") (parentOf_isModerate "leaf") []
    rw [answered, verdict.2 ((conforms_parentOf "leaf").2 (by decide))]
  · obtain ⟨issues, answered, verdict⟩ := decides (parentOf "") (parentOf_isModerate "") []
    cases issues with
    | nil => exact absurd ((conforms_parentOf "").1 (verdict.1 rfl)) (by decide)
    | cons issue issues => exact ⟨issue, issues, answered⟩

end Trees

end Document

end Specimen
