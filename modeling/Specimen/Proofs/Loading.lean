/-
**Samples of documents can be written.**

A description that is JSON and nowhere asks for items to be unique is loaded as a schema without
sets, which compares with JSON values alone (`Document.build_free`). So a sample that conforms to it
conforms once it has been written and read again, as far as validation answers
(`Document.validate_rendered`).
-/

import Specimen.Document
import Specimen.Proofs.Building
import Specimen.Proofs.Serialization

namespace Specimen

/-! ### Operations that may fail -/

/-- If the operation succeeds, its result has the property. -/
def Makes {α : Type} (property : α → Prop) (operation : Except Fault α) : Prop :=
  ∀ result, operation = .ok result → property result

namespace Makes

variable {α β : Type} {property : α → Prop} {other : β → Prop}

theorem pure {result : α} (holds : property result) :
    Makes property (pure result : Except Fault α) := by
  intro found same
  cases same
  exact holds

theorem error (fault : Fault) : Makes property (.error fault) := nofun

/-- What a sequence makes has the property if its last part makes nothing else of what the first
made. -/
theorem bind {first : Except Fault α} {next : α → Except Fault β} (begun : Makes property first)
    (continued : ∀ result, property result → Makes other (next result)) :
    Makes other (first >>= next) := by
  cases first with
  | error fault => exact error fault
  | ok result => exact continued result (begun result rfl)

/-- The results of a step for each item have the property if every step makes such results. -/
theorem mapM {items : List β} {step : β → Except Fault α}
    (each : ∀ item ∈ items, Makes property (step item)) :
    Makes (fun results => ∀ result ∈ results, property result) (items.mapM step) := by
  induction items with
  | nil => exact pure (List.forall_mem_nil _)
  | cons first rest hypothesis =>
    rw [List.forall_mem_cons] at each
    rw [List.mapM_cons]
    exact each.1.bind fun result holds => (hypothesis each.2).bind fun results others =>
      pure (List.forall_mem_cons.2 ⟨holds, others⟩)

end Makes

/-! ### Descriptions -/

/-- The value has a form in JSON. -/
def Value.IsJson (value : Value) : Prop := ∃ json, value = .ofJson json

namespace Document

/-- A value stands among the entries of a description where a description should stand. -/
inductive IsPart (entries : Entries) : Value → Prop
  | one {keyword : String} (describes : keyword ∈ ["items", "additionalProperties"]) :
      IsPart entries (get entries keyword)
  | several {keyword : String} (describes : keyword ∈ ["oneOf", "anyOf", "allOf", "prefixItems"])
      {parts : List Value} (found : (get entries keyword).items = .ok parts) {part : Value}
      (mem : part ∈ parts) : IsPart entries part
  | property {fields : Entries} (found : get entries "properties" = .dictionary fields)
      {field : Value × Value} (mem : field ∈ fields) : IsPart entries field.2

/-- A description asks for unique items, or one of its parts does. -/
inductive AsksForUnique : Value → Prop
  | here {entries : Entries} (asked : (get entries "uniqueItems").isTruthy = true) :
      AsksForUnique (.dictionary entries)
  | inside {entries : Entries} {part : Value} (isPart : IsPart entries part)
      (asks : AsksForUnique part) : AsksForUnique (.dictionary entries)

/-- A description in JSON that does not ask for unique items. -/
structure IsSetFree (description : Value) : Prop where
  json : description.IsJson
  free : ¬ AsksForUnique description

end Document

namespace Value.IsJson

variable {value : Value} {entries : List (Value × Value)} {items : List Value}

theorem mem_items {json : List Json} : ∀ item ∈ ofJsonItems json, item.IsJson := by
  induction json with
  | nil => exact List.forall_mem_nil _
  | cons first rest hypothesis => exact List.forall_mem_cons.2 ⟨⟨first, rfl⟩, hypothesis⟩

/-- The items of a value in JSON are in JSON. -/
theorem items_json (json : value.IsJson) (found : value.items = .ok items) :
    ∀ item ∈ items, item.IsJson := by
  obtain ⟨json, rfl⟩ := json
  cases json with
  | array parts =>
    cases found
    exact mem_items
  | text text =>
    cases found
    intro item mem
    obtain ⟨member, _, rfl⟩ := List.mem_map.1 mem
    exact ⟨.text (String.singleton member), rfl⟩
  | object members =>
    cases found
    intro item mem
    rw [ofJsonMembers_eq, List.map_map] at mem
    obtain ⟨member, _, rfl⟩ := List.mem_map.1 mem
    exact ⟨.text member.1, rfl⟩
  | _ => cases found

/-- The values under the keys of an object are in JSON. -/
theorem entry_json (json : (Value.dictionary entries).IsJson) :
    ∀ entry ∈ entries, entry.2.IsJson := by
  obtain ⟨json, same⟩ := json
  cases json with
  | object members =>
    cases same
    intro entry mem
    rw [ofJsonMembers_eq] at mem
    obtain ⟨member, _, rfl⟩ := List.mem_map.1 mem
    exact ⟨member.2, rfl⟩
  | _ => cases same

/-- What is found under a keyword is in JSON, and so is what is not found. -/
theorem get_json (json : (Value.dictionary entries).IsJson) (keyword : String) :
    (Document.get entries keyword).IsJson := by
  unfold Document.get
  cases found : field? entries keyword with
  | none => exact ⟨.null, rfl⟩
  | some value =>
    obtain ⟨entry, isEntry, rfl⟩ := Option.map_eq_some_iff.1 found
    exact json.entry_json entry (List.mem_of_find?_eq_some isEntry)

end Value.IsJson

/-! ### Schemas without sets -/

namespace Schema

/-- The schema has no sets and compares with JSON values alone. -/
abbrev IsSetFree (schema : Schema) : Prop := schema.Everywhere IsIndifferent

/-- A node that is no set and has no values of its own is indifferent to sets. -/
theorem IsIndifferent.of_kind {schema : Schema} (kind : Kind) (isKind : schema.kind = kind)
    (other : kind ∉ [.set, .literal, .enumeration, .nativeEnumeration]) :
    schema.IsIndifferent := by
  subst isKind
  simp only [List.mem_cons, List.not_mem_nil, or_false, not_or] at other
  obtain ⟨noSet, noLiteral, noEnumeration, noNative⟩ := other
  exact ⟨noSet, fun kind => absurd kind noLiteral, fun kind => kind.elim
    (fun kind => absurd kind noEnumeration) fun kind => absurd kind noNative⟩

/-- Other checks, another description and the like change nothing. -/
theorem IsSetFree.setTraits {schema : Schema} (free : schema.IsSetFree) {traits : Traits}
    (literal : traits.literal = schema.traits.literal) (values : traits.values = schema.traits.values) :
    (schema.setTraits traits).IsSetFree := by
  obtain ⟨here, inside⟩ := free
  cases schema with
  | node kind old fields inner key value rest arguments items =>
    exact .intro ⟨here.notSet, fun other => literal ▸ here.literal other,
      fun other => values ▸ here.values other⟩ inside

theorem IsSetFree.withCheck {schema : Schema} (free : schema.IsSetFree) (check : Check) :
    (schema.withCheck check).IsSetFree := free.setTraits rfl rfl

theorem isSetFree_leaf (kind : Kind)
    (other : kind ∉ [.set, .literal, .enumeration, .nativeEnumeration]) :
    (leaf kind {}).IsSetFree :=
  .intro (.of_kind kind rfl other) (List.forall_mem_nil _)

theorem IsSetFree.wrap {schema : Schema} (free : schema.IsSetFree) (kind : Kind) (traits : Traits)
    (other : kind ∉ [.set, .literal, .enumeration, .nativeEnumeration]) :
    (wrap kind traits schema).IsSetFree :=
  .intro (.of_kind kind rfl other) (List.forall_mem_singleton.2 free)

theorem isSetFree_intersection {left right : Schema} (first : left.IsSetFree)
    (second : right.IsSetFree) : (intersection left right).IsSetFree :=
  .intro (.of_kind .intersection rfl (by decide)) (List.forall_mem_cons.2 ⟨first, List.forall_mem_singleton.2 second⟩)

end Schema

namespace Document

variable {entries : Entries} {build : Builder}

/-- What stands in a set-free description is a set-free description. -/
theorem IsSetFree.part {part : Value} (free : IsSetFree (.dictionary entries))
    (isPart : IsPart entries part) : IsSetFree part := by
  refine ⟨?_, fun asks => free.free (.inside isPart asks)⟩
  cases isPart with
  | one => exact free.json.get_json _
  | several _ found mem => exact (free.json.get_json _).items_json found part mem
  | property found mem =>
    have fields := free.json.get_json "properties"
    rw [found] at fields
    exact fields.entry_json _ mem

/-! ### Builders -/

/-- The builder makes schemas without sets of set-free descriptions. -/
def AvoidsSets (build : Builder) : Prop :=
  ∀ description, IsSetFree description → Makes Schema.IsSetFree (build description)

/-- A keyword that adds no set leaves a schema free of sets. -/
theorem withKeyword_free {schema : Schema} (free : schema.IsSetFree) (keyword : String)
    {apply : Schema → Value → Except Fault Schema}
    (each : ∀ value, Makes Schema.IsSetFree (apply schema value)) :
    Makes Schema.IsSetFree (withKeyword entries keyword schema apply) := by
  unfold withKeyword
  split
  · exact each _
  · exact .pure free

theorem atLeast_free {schema : Schema} (free : schema.IsSetFree) (bound : Value) :
    Makes Schema.IsSetFree (atLeast schema bound) :=
  .bind (fun _ _ => True.intro) fun _ _ => .pure (free.withCheck _)

theorem atMost_free {schema : Schema} (free : schema.IsSetFree) (bound : Value) :
    Makes Schema.IsSetFree (atMost schema bound) :=
  .bind (fun _ _ => True.intro) fun _ _ => .pure (free.withCheck _)

theorem withFormat_free {schema : Schema} (free : schema.IsSetFree) (format : Value) :
    Makes Schema.IsSetFree (withFormat schema format) := by
  unfold withFormat
  split
  · exact .pure free
  · split
    · exact .error _
    · cases format with
      | text name =>
        cases found : formatCheck? name with
        | none =>
          simp only [found]
          exact .pure free
        | some check =>
          simp only [found]
          exact .pure (free.withCheck check)
      | _ => exact .pure free

/-- A pattern adds a check alone. -/
theorem regex_free {schema : Schema} (free : schema.IsSetFree) (pattern : Value) :
    Makes Schema.IsSetFree (schema.regex pattern) := by
  unfold Schema.regex
  split
  · exact .bind (fun _ _ => True.intro) fun _ _ => .pure (free.withCheck _)
  · exact .pure (free.withCheck _)

theorem buildString_free : Makes Schema.IsSetFree (buildString entries) := by
  have plain : Schema.string.IsSetFree := Schema.isSetFree_leaf .string (by decide)
  unfold buildString
  refine (withKeyword_free plain _ (atLeast_free plain)).bind fun lower free => ?_
  refine (withKeyword_free free _ (atMost_free free)).bind fun bounded free => ?_
  simp only
  split
  · exact (regex_free free _).bind fun matching free => withFormat_free free _
  · exact withFormat_free free _

theorem buildNumber_free (integral : Bool) : Makes Schema.IsSetFree (buildNumber integral entries) := by
  have number : Schema.number.IsSetFree := Schema.isSetFree_leaf .number (by decide)
  have plain : (if integral then Schema.number.int else Schema.number).IsSetFree := by
    split
    · exact number.withCheck _
    · exact number
  unfold buildNumber
  refine (withKeyword_free plain _ fun _ => .pure (plain.withCheck _)).bind fun lower free => ?_
  refine (withKeyword_free free _ fun _ => .pure (free.withCheck _)).bind fun upper free => .pure ?_
  cases exclusiveBound? entries "minimum" "exclusiveMinimum" <;>
    cases exclusiveBound? entries "maximum" "exclusiveMaximum"
  · exact free
  · exact free.withCheck _
  · exact free.withCheck _
  · exact (free.withCheck _).withCheck _

/-- What stands for items that are not described is free of sets. -/
theorem usualItems_free : IsSetFree usualItems := by
  refine ⟨⟨.object [("type", .text "string")], rfl⟩, fun asks => ?_⟩
  cases asks with
  | here asked => cases asked
  | inside isPart asks =>
    cases isPart with
    | one describes =>
      simp only [List.mem_cons, List.not_mem_nil, or_false] at describes
      rcases describes with rfl | rfl <;> cases asks
    | several describes found =>
      simp only [List.mem_cons, List.not_mem_nil, or_false] at describes
      rcases describes with rfl | rfl | rfl | rfl <;> cases found
    | property found => cases found

section Parts

variable (free : IsSetFree (.dictionary entries)) (avoids : AvoidsSets build)

include free avoids

/-- Several descriptions that avoid sets are built without sets. -/
theorem buildAll_free {keyword : String}
    (describes : keyword ∈ ["oneOf", "anyOf", "allOf", "prefixItems"]) :
    Makes (fun schemas => ∀ schema ∈ schemas, schema.IsSetFree)
      (buildAll build (get entries keyword)) := by
  unfold buildAll
  refine Makes.bind (fun parts found => found) fun parts found => .mapM fun part mem => ?_
  exact avoids part (free.part (.several describes found mem))

/-- Objects and records are built of parts, none of which is a set. -/
theorem buildObject_free : Makes Schema.IsSetFree (buildObject build entries) := by
  unfold buildObject
  simp only
  split
  · next additional _ isDictionary =>
    have part := free.part (.one (by decide : "additionalProperties" ∈ _))
    rw [isDictionary] at part
    refine (avoids _ part).bind fun value free => .pure ?_
    refine .intro (.of_kind .record rfl (by decide)) (List.forall_mem_cons.2 ⟨?_, ?_⟩)
    · exact Schema.isSetFree_leaf .string (by decide)
    · exact List.forall_mem_singleton.2 free
  · refine Makes.bind (fun _ _ => True.intro) fun required _ => ?_
    have listed : Makes (fun fields => ∀ field ∈ fields, IsSetFree field.2)
        (propertyEntries (get entries "properties")) := by
      intro fields found
      unfold propertyEntries at found
      split at found
      · cases found
        exact List.forall_mem_nil _
      · split at found
        · next given isDictionary =>
          cases found
          exact fun field mem => free.part (.property isDictionary mem)
        · cases found
    refine listed.bind fun fields free => ?_
    have built : Makes (fun fields => ∀ field ∈ fields, field.2.IsSetFree)
        (fields.mapM (buildField build required)) := by
      refine .mapM fun field mem => ?_
      refine (avoids _ (free field mem)).bind fun schema free => .pure ?_
      split
      · exact free
      · exact free.wrap _ _ (by decide)
    exact built.bind fun fields free =>
      .pure (.intro (.of_kind .object rfl (by decide)) (Schema.children_object free))

omit free in
theorem buildRest_free {rest : Value} (free : IsSetFree rest) :
    Makes (fun built => ∀ schema ∈ built, schema.IsSetFree) (buildRest build rest) := by
  unfold buildRest
  split
  · exact (avoids _ free).bind fun schema free => .pure fun other same => Option.some.inj same ▸ free
  · exact .pure nofun

/-- Arrays and tuples are built of parts, none of which is a set. -/
theorem buildArray_free : Makes Schema.IsSetFree (buildArray build entries) := by
  have noUnique : (get entries "uniqueItems").isTruthy = false :=
    eq_false_of_ne_true fun asked => free.free (.here asked)
  have items : IsSetFree ((Value.field? entries "items").getD usualItems) := by
    cases found : Value.field? entries "items" with
    | none => exact usualItems_free
    | some value =>
      have part := free.part (.one (by decide : "items" ∈ _))
      unfold get at part
      rw [found] at part
      exact part
  unfold buildArray
  simp only [noUnique]
  split
  · refine (buildRest_free avoids items).bind fun rest following => ?_
    refine (buildAll_free free avoids (by decide)).bind fun first each => .pure ?_
    refine .intro (.of_kind .tuple rfl (by decide)) (List.forall_mem_append.2 ⟨?_, each⟩)
    exact fun child mem => following child (Option.mem_toList.1 mem)
  · refine (avoids _ items).bind fun element free => ?_
    have collection : (Schema.array element).IsSetFree := free.wrap _ _ (by decide)
    refine (withKeyword_free collection _ (atLeast_free collection)).bind fun lower free => ?_
    exact withKeyword_free free _ (atMost_free free)

/-- No type stands for a set. -/
theorem buildTyped_free (type : Value) : Makes Schema.IsSetFree (buildTyped build type entries) := by
  unfold buildTyped
  split
  · exact buildObject_free free avoids
  · exact buildArray_free free avoids
  · exact buildString_free
  · exact buildNumber_free true
  · exact buildNumber_free false
  · exact .pure (Schema.isSetFree_leaf .boolean (by decide))
  · exact .pure (Schema.isSetFree_leaf .null (by decide))
  · exact .error _

theorem buildByType_free : Makes Schema.IsSetFree (buildByType build entries) := by
  unfold buildByType
  split
  · unfold buildUntyped
    split
    · exact buildObject_free free avoids
    · split
      · exact buildArray_free free avoids
      · exact .pure (Schema.isSetFree_leaf .any (by decide))
  · unfold buildTypeList
    split
    · exact .pure (Schema.isSetFree_leaf .null (by decide))
    · refine (buildTyped_free free avoids _).bind fun schema free => .pure ?_
      split
      · exact free.wrap _ _ (by decide)
      · exact free
  · exact buildTyped_free free avoids _

omit avoids in
/-- The values of an enumeration come from JSON, which has no sets. -/
theorem buildEnumeration_free : Makes Schema.IsSetFree (buildEnumeration (get entries "enum")) := by
  unfold buildEnumeration
  split
  · next values isList =>
    have json := (free.json.get_json "enum").items_json (congrArg Value.items isList)
    split
    · exact .error _
    · intro schema made
      obtain ⟨-, rfl⟩ := Schema.enumeration_eq_ok.1 made
      exact .intro ⟨nofun, nofun, fun _ => json⟩ (List.forall_mem_nil _)
  · exact .error _

/-- Intersections are folded from parts without sets. -/
theorem buildConjunction_free :
    Makes Schema.IsSetFree (buildConjunction build (get entries "allOf")) := by
  unfold buildConjunction
  refine (buildAll_free free avoids (by decide)).bind fun parts each => ?_
  cases parts with
  | nil => exact .error _
  | cons first others =>
    rw [List.forall_mem_cons] at each
    refine .pure ?_
    obtain ⟨here, later⟩ := each
    induction others generalizing first with
    | nil => exact here
    | cons second others hypothesis =>
      rw [List.forall_mem_cons] at later
      exact hypothesis _ (Schema.isSetFree_intersection here later.1) later.2

theorem union_free {keyword : String} (describes : keyword ∈ ["oneOf", "anyOf", "allOf", "prefixItems"]) :
    Makes Schema.IsSetFree (do Schema.union (← buildAll build (get entries keyword))) := by
  refine (buildAll_free free avoids describes).bind fun parts each schema made => ?_
  obtain ⟨-, rfl⟩ := Schema.union_eq_ok.1 made
  exact .intro (.of_kind .union rfl (by decide)) each

/-- Whatever keyword decides, no set is built. -/
theorem buildBare_free (definitions : Entries) :
    Makes Schema.IsSetFree (buildBare definitions build entries) := by
  unfold buildBare
  split
  · unfold buildReference
    split
    · split
      · exact .error _
      · split
        · exact .pure (.intro (.of_kind .lazy rfl (by decide)) (List.forall_mem_nil _))
        · exact .error _
    · exact .error _
  · exact .pure (.intro ⟨nofun, fun _ => free.json.get_json "const", nofun⟩ (List.forall_mem_nil _))
  · exact buildEnumeration_free free
  · exact union_free free avoids (by decide)
  · exact union_free free avoids (by decide)
  · exact buildConjunction_free free avoids
  · exact buildByType_free free avoids

end Parts

/-! ### Documents -/

/-- A description and a default leave a schema free of sets. -/
theorem annotate_free {schema : Schema} (free : schema.IsSetFree) :
    (annotate entries schema).IsSetFree := by
  unfold annotate
  simp only
  cases Value.field? entries "default" with
  | none =>
    split
    · exact free.setTraits rfl rfl
    · exact free
  | some value =>
    have defaulted : (schema.default (.value value)).IsSetFree := free.wrap _ _ (by decide)
    split
    · exact defaulted.setTraits rfl rfl
    · exact defaulted

/-- What is built of JSON is free of sets; by induction on the levels. -/
theorem buildWithin_free (definitions : Entries) (levels : Nat) :
    AvoidsSets (buildWithin definitions levels) := by
  induction levels with
  | zero => exact fun _ _ => .error _
  | succ levels hypothesis =>
    intro description free
    unfold buildWithin
    split
    · exact .pure (Schema.isSetFree_leaf .any (by decide))
    · exact .pure (Schema.isSetFree_leaf .any (by decide))
    · exact (buildBare_free free hypothesis definitions).bind fun schema free =>
        .pure (annotate_free free)
    · exact .error _

/-- A set-free description is loaded as a schema without sets. -/
theorem build_free (document : Document) : AvoidsSets document.build := fun description =>
  buildWithin_free document.definitions (description.depth + 1) description

/-- Descriptions of definitions are set-free. -/
def HasSetFreeDefinitions (document : Document) : Prop :=
  ∀ entry ∈ document.definitions, IsSetFree entry.2

/-- The definitions of a document are free of sets like its root. -/
theorem schemas_free {document : Document} (free : document.HasSetFreeDefinitions) :
    ∀ name target, (name, .ok target) ∈ document.schemas → target.IsSetFree := by
  intro name target mem
  obtain ⟨⟨key, description⟩, listed, found⟩ := List.mem_filterMap.1 mem
  cases key with
  | text given =>
    have built : document.build description = .ok target := congrArg Prod.snd (Option.some.inj found)
    exact document.build_free description (free _ listed) target built
  | _ => cases found

/-! ### Samples that are written -/

/-- **Written samples conform.** Validation by a schema of a document that does not ask for unique
items has no issue with what is read back of a value, if it has none with the value; and it answers,
if there are no tuples in the value. -/
theorem validate_rendered (document : Document) (definitions : document.HasSetFreeDefinitions)
    (description : Value) (free : IsSetFree description) (schema : Schema)
    (built : document.build description = .ok schema) (tuples : Bool) (value : Value)
    (portable : value.IsPortable tuples) (path : Path)
    (accepted : validate document.schemas schema value path = .ok []) :
    (∀ issues, validate document.schemas schema (.ofJson value.toJson) path = .ok issues →
        issues = []) ∧
      (tuples = false → validate document.schemas schema (.ofJson value.toJson) path = .ok []) := by
  have carries := Schema.validateWithin_carries (schemas_free definitions)
    (passLimit document.schemas value) (document.build_free description free schema built)
    (fun _ => portable) path
  rw [Value.rendered_eq portable.ne_absent] at carries
  refine ⟨carries.silent accepted, fun none => ?_⟩
  obtain ⟨issues, answered⟩ := carries.answers none [] accepted
  rw [answered, carries.silent accepted issues answered]

/-- The description of an object that may have a name. -/
def maybeNamed : Value :=
  .dictionary [(.text "type", .text "object"),
    (.text "properties", .dictionary [(.text "name", usualItems)])]

/-- A name that is absent is left out of the written sample, which is still valid. -/
theorem maybeNamed_rendered :
    ∃ schema, Document.build ⟨maybeNamed, []⟩ maybeNamed = .ok schema ∧
      validate [] schema (.ofJson (Value.dictionary [(.text "name", .absent)]).toJson) [] = .ok [] := by
  have free : IsSetFree maybeNamed := by
    refine ⟨⟨.object [("type", .text "object"),
      ("properties", .object [("name", .object [("type", .text "string")])])], rfl⟩, fun asks => ?_⟩
    cases asks with
    | here asked => cases asked
    | inside isPart asks =>
      cases isPart with
      | one describes =>
        simp only [List.mem_cons, List.not_mem_nil, or_false] at describes
        rcases describes with rfl | rfl <;> cases asks
      | several describes found =>
        simp only [List.mem_cons, List.not_mem_nil, or_false] at describes
        rcases describes with rfl | rfl | rfl | rfl <;> cases found
      | property found mem =>
        cases found
        cases List.mem_singleton.1 mem
        exact usualItems_free.free asks
  have portable : (Value.dictionary [(.text "name", .absent)]).IsPortable false := by
    refine .dictionary (by simp) (List.forall_mem_singleton.2 ⟨"name", rfl⟩) ?_
    exact List.forall_mem_singleton.2 fun present => absurd rfl present
  refine ⟨.object [("name", Schema.string.optional)], rfl, ?_⟩
  exact (validate_rendered ⟨maybeNamed, []⟩ (List.forall_mem_nil _) maybeNamed free
    (.object [("name", Schema.string.optional)]) rfl false _ portable [] rfl).2 rfl

/-- The description of a list of locations, or else of one text in a tuple. -/
def locations : Value :=
  .dictionary [(.text "anyOf", .list [
    .dictionary [(.text "type", .text "array"), (.text "items",
      .dictionary [(.text "type", .text "string"), (.text "format", .text "uri")])],
    .dictionary [(.text "type", .text "array"), (.text "prefixItems",
      .list [.dictionary [(.text "type", .text "string")]])]])]

/-- Validation fails on the list that a tuple has become, whose text is no location. -/
theorem locations_not_rendered :
    ∃ schema, Document.build ⟨locations, []⟩ locations = .ok schema ∧
      validate [] schema (.tuple [.text "http://["]) [] = .ok [] ∧
      validate [] schema (.ofJson (Value.tuple [.text "http://["]).toJson) [] ≠ .ok [] := by
  refine ⟨_, rfl, by decide +kernel, ?_⟩
  decide +kernel

end Document

end Specimen
