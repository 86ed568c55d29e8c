/-
**Lists of types.**

A description may list several types. Of these null and the first other one are regarded, and the
rest are not (`Document.Regards`): a value is accepted exactly if the description accepts it with
one of the regarded types in place of the list (`Document.build_typeList`). So values of a further
type are refused although it is listed (`Document.typeList_not_any`).
-/

import Specimen.Proofs.Descriptions

namespace Specimen

/-! ### Wrapped schemas -/

section Wrapped

variable {definitions : Schema.Definitions} {value : Value} {path : Path}

/-- A nullable schema accepts null and what the schema accepts, but nothing that is absent. -/
theorem validate_nullable {schema : Schema} :
    validate definitions schema.nullable value path = .ok [] ↔
      value = .null ∨ value ≠ .absent ∧ validate definitions schema value path = .ok [] := by
  rw [validate_eq]
  cases value with
  | absent => simp [Judge.ofNode, Judge.report, Value.isAbsent, Schema.nullable, Schema.wrap,
      Schema.kind, Kind.acceptsAbsent]
  | null => exact iff_of_true rfl (.inl rfl)
  | _ =>
    simp only [reduceCtorEq, false_or, ne_eq, not_false_eq_true, true_and]
    exact Iff.rfl

theorem validate_null :
    validate definitions .null value path = .ok [] ↔ value = .null := by
  rw [validate_eq]
  cases value with
  | null => exact iff_of_true rfl rfl
  | _ => exact iff_of_false (fun accepted => nomatch accepted) nofun

/-- A schema that refuses absent values does not accept any. -/
theorem present_of_accepted {schema : Schema} (refuses : Document.RefusesAbsent schema)
    (accepted : validate definitions schema value path = .ok []) : value ≠ .absent := by
  rintro rfl
  have refused : Settles (validate definitions schema .absent path) False :=
    validate_absent refuses path
  obtain ⟨issues, answered, none⟩ := refused
  rw [accepted] at answered
  exact none.1 (Except.ok.inj answered).symm

end Wrapped

/-- A result is made of another one if there is one. -/
theorem bind_pure_eq_ok {First Last : Type} {operation : Except Fault First} {make : First → Last}
    {result : Last} : (do pure (make (← operation))) = Except.ok (ε := Fault) result ↔
      ∃ first, operation = .ok first ∧ make first = result := by
  cases operation with
  | error fault => exact iff_of_false nofun nofun
  | ok first => exact ⟨fun same => ⟨first, rfl, Except.ok.inj same⟩, fun ⟨_, same, made⟩ => by
      cases same; rw [← made]; rfl⟩

theorem exists_bind_pure {First Last : Type} {operation : Except Fault First} {make : First → Last} :
    (∃ result, (do pure (make (← operation))) = Except.ok (ε := Fault) result) ↔
      ∃ first, operation = .ok first := by
  simp only [bind_pure_eq_ok]
  exact ⟨fun ⟨_, first, made, _⟩ => ⟨first, made⟩, fun ⟨first, made⟩ => ⟨_, first, made, rfl⟩⟩

namespace Document

/-! ### Types that are regarded -/

/-- Of a list of types null is regarded, and the first one that is not null. -/
inductive Regards (types : List String) : String → Prop
  | null (listed : "null" ∈ types) : Regards types "null"
  | first {type : String} (isFirst : types.find? (· != "null") = some type) : Regards types type

theorem Regards.mem {types : List String} {type : String} (regards : Regards types type) :
    type ∈ types := by
  cases regards with
  | null listed => exact listed
  | first isFirst => exact List.mem_of_find?_eq_some isFirst

/-- The description with one type in place of what it has. -/
def withType (entries : Entries) (type : String) : Entries :=
  Value.put entries (.text "type") (.text type)

variable {entries : Entries} {build : Builder} {types : List String}

theorem withType_same (entries : Entries) (type : String) :
    SameButType entries (withType entries type) := by
  intro keyword other
  rw [withType, Value.field_put, if_neg (Ne.symm other)]

theorem get_withType (entries : Entries) (type : String) :
    get (withType entries type) "type" = .text type := by
  rw [get, withType, Value.field_put, if_pos rfl]
  rfl

theorem isWord_null (type : String) : isWord "null" (.text type) = (type == "null") := by
  simp [isWord, Value.equals, Value.isNan, Value.same]

theorem buildTypeList_texts (types : List String) :
    buildTypeList build (types.map .text) entries =
      (match types.find? (· != "null") with
      | none => .ok .null
      | some first => do
        let schema ← buildTyped build (.text first) entries
        pure (if "null" ∈ types then schema.nullable else schema)) := by
  have others : (types.map Value.text).filter (fun type => !isWord "null" type) =
      (types.filter (· != "null")).map .text := by
    rw [List.filter_map]
    congr 1
  have hasNull : (types.map Value.text).any (isWord "null") = decide ("null" ∈ types) := by
    simp only [List.any_map, Function.comp_def, isWord_null, List.any_beq', List.contains_eq_mem]
  unfold buildTypeList
  rw [others, hasNull, ← List.head?_filter]
  cases types.filter (· != "null") with
  | nil => rfl
  | cons first rest => simp

theorem null_mem_of_find (nonempty : types ≠ []) (none : types.find? (· != "null") = none) :
    "null" ∈ types := by
  obtain ⟨first, rest, rfl⟩ := List.exists_cons_of_ne_nil nonempty
  rw [List.find?_eq_none] at none
  have isNull := none first List.mem_cons_self
  simp only [bne_iff_ne, ne_eq, Decidable.not_not] at isNull
  exact isNull ▸ List.mem_cons_self

/-- The schema of a list of types is there if those of the regarded types are. -/
theorem buildTypeList_ok :
    (∃ schema, buildTypeList build (types.map .text) entries = .ok schema) ↔
      ∀ type, Regards types type → ∃ schema, buildTyped build (.text type) entries = .ok schema := by
  rw [buildTypeList_texts]
  have ofNull : ∃ schema, buildTyped build (.text "null") entries = .ok schema := ⟨.null, rfl⟩
  cases found : types.find? (· != "null") with
  | none =>
    refine iff_of_true ⟨.null, rfl⟩ fun type regards => ?_
    cases regards with
    | null => exact ofNull
    | first isFirst => rw [found] at isFirst; cases isFirst
  | some first =>
    constructor
    · rintro ⟨schema, built⟩ type regards
      cases regards with
      | null => exact ofNull
      | first isFirst =>
        cases found.symm.trans isFirst
        obtain ⟨bare, isBare, _⟩ := of_bind_ok built
        exact ⟨bare, isBare⟩
    · intro each
      obtain ⟨bare, isBare⟩ := each first (.first found)
      simp only [isBare]
      exact ⟨_, rfl⟩

/-- The schema of a list of types accepts what the schema of a regarded type accepts. -/
theorem buildTypeList_accepts {definitions : Schema.Definitions} (nonempty : types ≠ [])
    {schema : Schema} (built : buildTypeList build (types.map .text) entries = .ok schema)
    (value : Value) (path : Path) :
    validate definitions schema value path = .ok [] ↔
      ∃ type, Regards types type ∧ ∃ bare, buildTyped build (.text type) entries = .ok bare ∧
        validate definitions bare value path = .ok [] := by
  rw [buildTypeList_texts] at built
  cases found : types.find? (· != "null") with
  | none =>
    rw [found] at built
    cases built
    refine ⟨fun accepted => ⟨"null", .null (null_mem_of_find nonempty found), .null, rfl, accepted⟩,
      ?_⟩
    rintro ⟨type, regards, bare, isBare, accepted⟩
    cases regards with
    | null => cases isBare; exact accepted
    | first isFirst => rw [found] at isFirst; cases isFirst
  | some first =>
    rw [found] at built
    obtain ⟨bare, isBare, isSchema⟩ := of_bind_ok built
    cases isSchema
    by_cases listed : "null" ∈ types
    · rw [if_pos listed, validate_nullable]
      constructor
      · rintro (rfl | ⟨_, accepted⟩)
        · exact ⟨"null", .null listed, .null, rfl, validate_null.2 rfl⟩
        · exact ⟨first, .first found, bare, isBare, accepted⟩
      · rintro ⟨type, regards, other, isOther, accepted⟩
        cases regards with
        | null => cases isOther; exact .inl (validate_null.1 accepted)
        | first isFirst =>
          cases found.symm.trans isFirst
          cases isBare.symm.trans isOther
          exact .inr ⟨present_of_accepted (buildTyped_refuses _ _ isBare) accepted, accepted⟩
    · rw [if_neg listed]
      refine ⟨fun accepted => ⟨first, .first found, bare, isBare, accepted⟩, ?_⟩
      rintro ⟨type, regards, other, isOther, accepted⟩
      cases regards with
      | null => exact absurd ‹_› listed
      | first isFirst =>
        cases found.symm.trans isFirst
        cases isBare.symm.trans isOther
        exact accepted

theorem exists_regards (nonempty : types ≠ []) : ∃ type, Regards types type := by
  cases found : types.find? (· != "null") with
  | none => exact ⟨"null", .null (null_mem_of_find nonempty found)⟩
  | some first => exact ⟨first, .first found⟩

/-! ### Descriptions with a list of types -/

/-- A type is not deep. -/
theorem depth_withType_le (entries : Entries) (type : String) :
    (Value.dictionary (withType entries type)).depth ≤ (Value.dictionary entries).depth := by
  refine Nat.succ_le_succ ?_
  unfold withType
  induction entries with
  | nil => exact Nat.le_refl 0
  | cons first rest hypothesis =>
    obtain ⟨key, value⟩ := first
    have typeDepth : (Value.text type).depth = 0 := rfl
    unfold Value.put
    split <;> simp only [Value.depthEntries] <;> omega

section Documents

variable (document : Document) (undecided : IsUndecided entries)

include undecided

/-- The schema of a description with one type in place of what it has. -/
theorem build_withType {type : String} {levels : Nat}
    (enough : (Value.dictionary (withType entries type)).depth ≤ levels) :
    document.build (.dictionary (withType entries type)) = (do
      pure (annotate entries
        (← buildTyped (buildWithin document.definitions levels) (.text type) entries))) := by
  have same := withType_same entries type
  have typed := get_withType entries type
  obtain ⟨first, rest, isCons⟩ : ∃ first rest, withType entries type = first :: rest := by
    cases isNil : withType entries type with
    | nil => rw [isNil] at typed; cases typed
    | cons first rest => exact ⟨first, rest, rfl⟩
  rw [isCons] at enough ⊢
  rw [document.build_eq enough, ← isCons, buildBare_undecided (same.isUndecided undecided),
    buildByType, typed]
  show (do
    pure (annotate (withType entries type) (← buildTyped _ (.text type) (withType entries type)))) = _
  rw [← buildTyped_congr same]
  simp only [← same.annotate_eq]

variable (nonempty : types ≠ []) (listed : get entries "type" = .list (types.map .text))

include listed

/-- The schema of a description with a list of types. -/
theorem build_listed {levels : Nat} (enough : (Value.dictionary entries).depth ≤ levels) :
    document.build (.dictionary entries) = (do
      pure (annotate entries
        (← buildTypeList (buildWithin document.definitions levels) (types.map .text) entries))) := by
  obtain ⟨first, rest, rfl⟩ : ∃ first rest, entries = first :: rest := by
    cases entries with
    | nil => cases listed
    | cons first rest => exact ⟨first, rest, rfl⟩
  rw [document.build_eq enough, buildBare_undecided undecided, buildByType, listed]

include nonempty

/-- **A list of types means the regarded ones.** A description with a list of types has a schema
exactly if it has one with each of the regarded types in place of the list, and then its schema
accepts exactly the values that one of those accepts: null may be one of these types, and the first
type in the list that is not null. -/
theorem build_typeList :
    ((∃ schema, document.build (.dictionary entries) = .ok schema) ↔
      ∀ type, Regards types type →
        ∃ schema, document.build (.dictionary (withType entries type)) = .ok schema) ∧
    ∀ schema, document.build (.dictionary entries) = .ok schema → ∀ value path,
      (validate document.schemas schema value path = .ok [] ↔ ∃ type, Regards types type ∧
        ∃ single, document.build (.dictionary (withType entries type)) = .ok single ∧
          validate document.schemas single value path = .ok []) := by
  have single : ∀ type, document.build (.dictionary (withType entries type)) = (do
      pure (annotate entries (← buildTyped (buildWithin document.definitions
        (Value.dictionary entries).depth) (.text type) entries))) :=
    fun type => build_withType document undecided (depth_withType_le entries type)
  rw [build_listed document undecided listed (Nat.le_refl _)]
  simp only [single]
  refine ⟨?_, ?_⟩
  · simp only [exists_bind_pure]
    exact buildTypeList_ok
  · simp only [bind_pure_eq_ok]
    rintro _ ⟨bare, built, rfl⟩ value path
    obtain ⟨type, regards⟩ := exists_regards nonempty
    obtain ⟨other, isOther⟩ := buildTypeList_ok.1 ⟨bare, built⟩ type regards
    simp only [exists_exists_and_eq_and, validate_annotate]
    by_cases defaulted : (value.isAbsent && has entries "default") = true
    · simp only [if_pos defaulted]
      exact iff_of_true trivial ⟨type, regards, other, isOther, trivial⟩
    · simp only [if_neg defaulted]
      exact buildTypeList_accepts nonempty built value path

end Documents

/-! ### Texts and integers -/

/-- A description of texts and integers. -/
def textOrInteger : Entries := [(.text "type", .list [.text "string", .text "integer"])]

/-- Only texts are regarded of texts and integers. -/
theorem textOrInteger_typeList :
    IsUndecided textOrInteger ∧
      get textOrInteger "type" = .list (["string", "integer"].map .text) ∧
      ∃ listed, Document.build ⟨.dictionary textOrInteger, []⟩ (.dictionary textOrInteger) =
        .ok listed ∧ ∀ value path, validate [] listed value path = .ok [] →
          ∃ single, Document.build ⟨.dictionary textOrInteger, []⟩
            (.dictionary (withType textOrInteger "string")) = .ok single ∧
            validate [] single value path = .ok [] := by
  have undecided : IsUndecided textOrInteger := rfl
  have listed : get textOrInteger "type" = .list (["string", "integer"].map .text) := rfl
  have typeList := build_typeList ⟨.dictionary textOrInteger, []⟩ undecided
    (List.cons_ne_nil _ _) listed
  refine ⟨undecided, listed, .string, rfl, fun value path accepted => ?_⟩
  obtain ⟨type, regards, single, built, accepts⟩ := (typeList.2 .string rfl value path).1 accepted
  cases regards with
  | null listed => exact absurd listed (by decide)
  | first isFirst =>
    cases isFirst
    exact ⟨single, built, accepts⟩

/-- **A listed type is not always regarded.** An integer is refused though integers are listed. -/
theorem typeList_not_any :
    ∃ listed single, Document.build ⟨.dictionary textOrInteger, []⟩ (.dictionary textOrInteger) =
        .ok listed ∧
      Document.build ⟨.dictionary textOrInteger, []⟩ (.dictionary (withType textOrInteger "integer")) =
        .ok single ∧
      validate [] single (.int 1) [] = .ok [] ∧ validate [] listed (.int 1) [] ≠ .ok [] :=
  ⟨.string, .int .number, rfl, rfl, rfl, nofun⟩

end Document

end Specimen
