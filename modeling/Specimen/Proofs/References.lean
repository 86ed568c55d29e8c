/-
**What the loader makes of references.**

A document in the fragment is loaded with the definitions of all of its places. A reference into one
of them is loaded as a lazy node that names the definition, which validation looks up.
-/

import Specimen.Proofs.Forms

namespace Specimen

namespace Document

variable {root description : Json} {build : Builder}

/-! ### Names -/

theorem afterPrefix_append (lead rest : List Char) :
    afterPrefix? lead (lead ++ rest) = some rest := by
  have starts : lead.isPrefixOf (lead ++ rest) = true :=
    List.isPrefixOf_iff_prefix.2 (List.prefix_append lead rest)
  rw [afterPrefix?, if_pos starts, List.drop_left]

theorem withoutBreak_eq {text : List Char} (oneLine : '\n' ∉ text) : withoutBreak text = text := by
  unfold withoutBreak
  rw [if_neg fun last => oneLine (List.mem_of_getLast? last)]

/-- A reference into one of the places is one to the name that follows. -/
theorem referenceName_eq {place name : String} (isPlace : place ∈ Json.places.map (·.1))
    (nonempty : name ≠ "") (oneLine : '\n' ∉ name.toList) :
    referenceName? (place ++ name) = some name := by
  have found : (referencePlaces.findSome? fun lead =>
      afterPrefix? lead.toList (place ++ name).toList) = some name.toList := by
    rw [String.toList_append]
    simp only [Json.places, List.map_cons, List.map_nil, List.mem_cons, List.not_mem_nil,
      or_false] at isPlace
    have own := afterPrefix_append place.toList name.toList
    rcases isPlace with rfl | rfl | rfl
    · have first : afterPrefix? "#/definitions/".toList
          ("#/components/schemas/".toList ++ name.toList) = none := rfl
      have second : afterPrefix? "#/$defs/".toList
          ("#/components/schemas/".toList ++ name.toList) = none := rfl
      simp only [referencePlaces, List.findSome?_cons, first, second, own]
    · simp only [referencePlaces, List.findSome?_cons, own]
    · have first : afterPrefix? "#/definitions/".toList ("#/$defs/".toList ++ name.toList) =
          none := rfl
      simp only [referencePlaces, List.findSome?_cons, first, own]
  have named : ¬ (name.toList.isEmpty || name.toList.contains '\n') = true := by
    simp [oneLine, nonempty]
  unfold referenceName?
  rw [found]
  show (if (withoutBreak name.toList).isEmpty || (withoutBreak name.toList).contains '\n' then none
    else some (String.ofList (withoutBreak name.toList))) = some name
  rw [withoutBreak_eq oneLine, if_neg named, String.ofList_toList]

/-! ### Definitions -/

theorem mem_of_pointsTo {text : String} {target : Json} (points : root.PointsTo text target) :
    ∃ place ∈ Json.places.map (·.1), ∃ name, text = place ++ name ∧
      (name, target) ∈ root.definitions := by
  obtain ⟨place, isPlace, name, isText, mem⟩ := points
  exact ⟨place.1, List.mem_map_of_mem isPlace, name, isText,
    List.mem_flatMap.2 ⟨place, isPlace, mem⟩⟩

/-- Entries with new names are put at the end. -/
theorem putAll_eq {before members : List (String × Json)}
    (distinct : ((before ++ members).map (·.1)).Nodup) :
    Value.putAll (Value.ofJsonMembers before) (Value.ofJsonMembers members) =
      Value.ofJsonMembers (before ++ members) := by
  induction members generalizing before with
  | nil => rw [List.append_nil]; rfl
  | cons first rest hypothesis =>
    obtain ⟨name, json⟩ := first
    have new : name ∉ before.map (·.1) := by
      rw [List.map_append, List.map_cons, List.nodup_middle, List.nodup_cons, List.mem_append,
        not_or] at distinct
      exact distinct.1.1
    have placed : Value.put (Value.ofJsonMembers before) (.text name) (.ofJson json) =
        Value.ofJsonMembers (before ++ [(name, json)]) := by
      clear distinct hypothesis
      induction before with
      | nil => rfl
      | cons first others hypothesis =>
        obtain ⟨other, old⟩ := first
        rw [List.map_cons, List.mem_cons, not_or] at new
        have different : (Value.text name).same (.text other) ≠ true :=
          fun same => new.1 (Value.text.inj (Value.text_same_iff.1 same)).symm
        rw [List.cons_append, Value.ofJsonMembers, Value.ofJsonMembers, Value.put, if_neg different,
          hypothesis new.2]
    have kept : ((before ++ [(name, json)] ++ rest).map (·.1)).Nodup := by
      rw [List.append_assoc]
      exact distinct
    show Value.putAll (Value.put (Value.ofJsonMembers before) (.text name) (.ofJson json))
      (Value.ofJsonMembers rest) = _
    rw [placed, hypothesis kept, List.append_assoc]
    rfl

theorem get_atPlace (json : Json) (keyword : String) :
    get json.entries keyword = .ofJson (json.atPlace [keyword]) := by
  rw [get, field_entries, Json.atPlace, List.foldl_cons, List.foldl_nil]
  cases json.member? keyword <;> rfl

variable {json : Json} (isPlace : json = .null ∨ json.HasType "object")

include isPlace

theorem inside_eq (keyword : String) :
    inside (.ofJson json) keyword = .ok (.ofJson (json.atPlace [keyword])) := by
  rcases isPlace with rfl | ⟨members, rfl⟩
  · rfl
  · rw [← get_atPlace]
    cases members <;> rfl

theorem addDefinitions_eq {before : List (String × Json)}
    (distinct : ((before ++ json.members).map (·.1)).Nodup) :
    addDefinitions (Value.ofJsonMembers before) (.ofJson json) =
      .ok (Value.ofJsonMembers (before ++ json.members)) := by
  have added : addDefinitions (Value.ofJsonMembers before) (.ofJson json) =
      .ok (Value.putAll (Value.ofJsonMembers before) (Value.ofJsonMembers json.members)) := by
    rcases isPlace with rfl | ⟨members, rfl⟩
    · rfl
    · cases members <;> rfl
  rw [added, putAll_eq distinct]

omit isPlace

/-- A document in the fragment is loaded with all of its definitions. -/
theorem ofValue_eq (sound : root.IsDocument) : Document.ofValue (.ofJson root) =
    .ok ⟨.ofJson root, Value.ofJsonMembers root.definitions⟩ := by
  obtain ⟨⟨members, rfl⟩, places, distinct, _, _, _⟩ := sound
  simp only [List.forall_mem_cons] at places
  obtain ⟨components, schemas, legacy, current, _⟩ := places
  have listed : (Json.object members).definitions =
      ((Json.object members).atPlace ["components", "schemas"]).members ++
        ((Json.object members).atPlace ["definitions"]).members ++
          ((Json.object members).atPlace ["$defs"]).members := by
    simp [Json.definitions, Json.places]
  rw [listed] at distinct
  have third := addDefinitions_eq current distinct
  rw [List.map_append] at distinct
  have second := addDefinitions_eq legacy distinct.of_append_left
  have earlier := distinct.of_append_left
  rw [List.map_append] at earlier
  have first :
      addDefinitions [] (.ofJson ((Json.object members).atPlace ["components", "schemas"])) = .ok
        (Value.ofJsonMembers ((Json.object members).atPlace ["components", "schemas"]).members) :=
    @addDefinitions_eq _ schemas [] earlier.of_append_left
  have below : inside (.ofJson ((Json.object members).atPlace ["components"])) "schemas" =
      .ok (.ofJson ((Json.object members).atPlace ["components", "schemas"])) :=
    inside_eq components _
  show (do
    let place ← inside (get (Json.object members).entries "components") "schemas"
    let found ← addDefinitions [] place
    let legacy ← addDefinitions found (get (Json.object members).entries "definitions")
    let all ← addDefinitions legacy (get (Json.object members).entries "$defs")
    pure (Document.mk (.ofJson (.object members)) all)) = _
  simp only [below, get_atPlace, first, second, third, listed, bind, Except.bind]
  rfl

/-- What is listed under a name that is listed once is found there. -/
theorem lookup_of_mem {Found : Type} {members : List (String × Found)} {name : String}
    {found : Found} (distinct : (members.map (·.1)).Nodup) (mem : (name, found) ∈ members) :
    members.lookup name = some found := by
  induction members with
  | nil => cases mem
  | cons first rest hypothesis =>
    rw [List.map_cons, List.nodup_cons] at distinct
    rcases List.mem_cons.1 mem with rfl | later
    · exact List.lookup_cons_self
    · have different : name ≠ first.1 := fun same =>
        distinct.1 (same ▸ List.mem_map_of_mem later)
      obtain ⟨other, value⟩ := first
      rw [List.lookup_cons, beq_eq_false_iff_ne.2 different]
      exact hypothesis distinct.2 later

/-- What is loaded of a document in the fragment. -/
def ofRoot (root : Json) : Document := ⟨.ofJson root, Value.ofJsonMembers root.definitions⟩

theorem schemas_ofRoot (root : Json) :
    (ofRoot root).schemas = root.definitions.map fun definition =>
      (definition.1, (ofRoot root).build (.ofJson definition.2)) := by
  rw [schemas]
  simp only [ofRoot, Value.ofJsonMembers_eq, List.filterMap_map]
  exact congrFun List.filterMap_eq_map root.definitions

section References

variable (sound : root.IsDocument)

include sound

theorem lookup_schemas {name : String} {target : Json} (mem : (name, target) ∈ root.definitions) :
    (ofRoot root).schemas.lookup name = some ((ofRoot root).build (.ofJson target)) := by
  rw [schemas_ofRoot]
  refine lookup_of_mem ?_ (List.mem_map_of_mem mem)
  rw [List.map_map]
  exact sound.distinct

theorem referenceName_of_pointsTo {text : String} {target : Json}
    (points : root.PointsTo text target) :
    ∃ name, referenceName? text = some name ∧ (name, target) ∈ root.definitions := by
  obtain ⟨place, isPlace, name, rfl, mem⟩ := mem_of_pointsTo points
  obtain ⟨nonempty, oneLine⟩ := sound.names _ mem
  exact ⟨name, referenceName_eq isPlace nonempty oneLine, mem⟩

/-- A reference points to one definition at most. -/
theorem pointsTo_unique {text : String} {first second : Json} (one : root.PointsTo text first)
    (other : root.PointsTo text second) : first = second := by
  obtain ⟨name, isName, mem⟩ := referenceName_of_pointsTo sound one
  obtain ⟨again, isAgain, memAgain⟩ := referenceName_of_pointsTo sound other
  rw [isName] at isAgain
  cases isAgain
  have found := lookup_of_mem sound.distinct mem
  rw [lookup_of_mem sound.distinct memAgain] at found
  exact (Option.some.inj found).symm

/-- A subject conforms to a reference exactly if it conforms to the definition. -/
theorem conforms_reference {text : String} {target subject : Json}
    (only : description.HasOnly ["$ref"]) (found : description.member? "$ref" = some (.text text))
    (points : root.PointsTo text target) :
    root.Conforms description subject ↔ root.Conforms target subject := by
  rw [conforms_single only found]
  constructor
  · rintro ⟨other, second, isText, alsoPoints, conforms⟩
    cases isText
    exact pointsTo_unique sound points alsoPoints ▸ conforms
  · exact fun conforms => ⟨text, target, rfl, points, conforms⟩

/-- A reference decides what the definition decides. -/
theorem reference_decides {text : String} {target : Json} (only : description.HasOnly ["$ref"])
    (found : description.member? "$ref" = some (.text text)) (points : root.PointsTo text target) :
    ∃ schema, buildBare (ofRoot root).definitions build description.entries = .ok schema ∧
      ∀ subject loaded, (ofRoot root).build (.ofJson target) = .ok loaded →
        Judge.Decides (validate (ofRoot root).schemas loaded) (.ofJson subject)
          (Json.Conforms root target subject) →
        Judge.Decides (validate (ofRoot root).schemas schema) (.ofJson subject)
          (Json.Conforms root description subject) := by
  have decides := find_deciding (by decide) only found
  rw [deciding] at decides
  obtain ⟨name, isName, mem⟩ := referenceName_of_pointsTo sound points
  refine ⟨.lazy name, ?_, fun subject loaded isLoaded each => ?_⟩
  · have listed : has (ofRoot root).definitions name = true := by
      rw [has, ofRoot, Value.field_ofJsonMembers, lookup_of_mem sound.distinct mem]
      rfl
    rw [buildBare, decides]
    simp only [get_entries found, Value.ofJson, buildReference, isName, listed, if_true]
  · have resolved : (Schema.lazy name).resolve (ofRoot root).schemas = .ok loaded := by
      unfold Schema.resolve
      simp only [Schema.lazy, Schema.leaf, Schema.traits, lookup_schemas sound mem, isLoaded]
    refine validate_decides (.inr rfl) ?_
    show Judge.Decides (Judge.deferred _ _) _ _
    rw [resolved, conforms_reference sound only found points]
    exact each

end References

end Document

end Specimen
