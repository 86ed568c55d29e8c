/-
**Required names.**

A value may lack a name whose description accepts a value that is absent, required or not: one that
asks nothing, has a default, or leads to such descriptions by a reference or a combination
(`Document.MayLack`). A name that is required is demanded if it is described by any other
description; every value that is accepted has the names that are demanded, and no others need to be
there (`Document.required_present`).
-/

import Specimen.Proofs.Descriptions

namespace Specimen

/-! ### What a result tells -/

/-- The result, if there is one, is without an issue exactly if the property holds. -/
def Tells (result : Except Fault (List Issue)) (holds : Prop) : Prop :=
  ∀ issues, result = .ok issues → (issues = [] ↔ holds)

namespace Tells

variable {result : Except Fault (List Issue)} {holds other : Prop}

/-- What is told can be put in other words. -/
theorem congr (tells : Tells result holds) (same : holds ↔ other) : Tells result other :=
  fun issues answered => (tells issues answered).trans same

theorem accept (true : holds) : Tells (.ok []) holds := by
  intro issues answered
  cases answered
  exact iff_of_true rfl true

theorem error (fault : Fault) : Tells (.error fault) holds := nofun

/-- What settles whether something holds tells it. -/
theorem of_settles (settles : Settles result holds) : Tells result holds := by
  obtain ⟨issues, found, decides⟩ := settles
  intro others answered
  cases found.symm.trans answered
  exact decides

/-- What a result tells is settled once it is there. -/
theorem settles {issues : List Issue} (tells : Tells result holds) (answered : result = .ok issues) :
    Settles result holds :=
  ⟨issues, answered, tells issues answered⟩

/-- Gathering tells that all hold if every judgement tells of its subject. -/
theorem gather {Subject : Type} {judge : Subject → Except Fault (List Issue)}
    {subjects : List Subject} {each : Subject → Prop}
    (tells : ∀ subject ∈ subjects, Tells (judge subject) (each subject)) :
    Tells (Judge.gather judge subjects) (∀ subject ∈ subjects, each subject) := by
  intro issues answered
  refine of_settles (.gather fun subject mem => ?_) issues answered
  obtain ⟨others, found⟩ := Judge.gather_answers_iff.1 ⟨issues, answered⟩ subject mem
  exact (tells subject mem).settles found

/-- A union tells that one of its parts holds. -/
theorem union {Part : Type} {parts : List Part} {judge : Part → Judge} {each : Part → Prop}
    {subject : Value} {path : Path}
    (tells : ∀ part ∈ parts, Tells (judge part subject path) (each part)) :
    Tells (Judge.union (parts.map judge) subject path) (∃ part ∈ parts, each part) := by
  have answers : ∀ answer, Judge.anyAccepts (parts.map judge) subject path = .ok answer →
      (answer = true ↔ ∃ part ∈ parts, each part) := by
    induction parts with
    | nil =>
      intro answer found
      cases found
      simp
    | cons first rest hypothesis =>
      rw [List.forall_mem_cons] at tells
      intro answer found
      obtain ⟨issues, judged, next⟩ := of_bind_ok found
      have here := tells.1 issues judged
      rw [List.exists_mem_cons_iff]
      by_cases silent : issues = []
      · subst silent
        cases next
        exact iff_of_true rfl (.inl (here.1 rfl))
      · rw [if_neg (by simpa using silent)] at next
        rw [hypothesis tells.2 answer next]
        exact ⟨.inr, fun some => some.resolve_left fun holds => silent (here.2 holds)⟩
  intro issues found
  obtain ⟨answer, any, next⟩ := of_bind_ok found
  rw [← answers answer any]
  cases answer with
  | true =>
    cases next
    exact iff_of_true rfl rfl
  | false =>
    cases next
    exact iff_of_false (List.cons_ne_nil _ _) Bool.false_ne_true

end Tells

/-! ### Absent values -/

section Absent

variable {definitions : Schema.Definitions} {passes : Nat} {path : Path}

/-- A node that refuses absent values never accepts one. -/
theorem refuses_tells {schema : Schema} (refuses : Document.RefusesAbsent schema) :
    Tells (validateWithin definitions passes schema .absent path) False := by
  rw [validateWithin_eq]
  unfold Judge.ofNode
  have refused : (Value.absent.isAbsent && !schema.kind.acceptsAbsent) = true := by
    rw [show schema.kind.acceptsAbsent = false from refuses]
    rfl
  rw [if_pos refused]
  exact .of_settles (.report _ _ id)

/-- Intersections from the left tell whether all of their parts hold. -/
theorem foldl_tells {Part : Type} {made : Part → Schema} {value : Value} {each : Part → Prop}
    {rest : List Part} {first : Schema} {holds : Prop}
    (here : Tells (validateWithin definitions passes first value path) holds)
    (others : ∀ part ∈ rest,
      Tells (validateWithin definitions passes (made part) value path) (each part)) :
    Tells (validateWithin definitions passes ((rest.map made).foldl .intersection first) value path)
      (holds ∧ ∀ part ∈ rest, each part) := by
  induction rest generalizing first holds with
  | nil => exact here.congr (by simp)
  | cons second rest hypothesis =>
    rw [List.forall_mem_cons] at others
    have both : Tells (validateWithin definitions passes (.intersection first (made second)) value
        path) (holds ∧ each second) := by
      rw [validateWithin_eq]
      unfold Judge.ofNode
      rw [if_neg (by simp [Schema.intersection, Schema.kind, Kind.acceptsAbsent])]
      have parts : ∀ part ∈ [(first, holds), (made second, each second)],
          Tells (validateWithin definitions passes part.1 value path) part.2 :=
        List.forall_mem_cons.2 ⟨here, List.forall_mem_singleton.2 others.1⟩
      have gathered := Tells.gather parts
      rw [← Judge.gather_map (fun judge : Judge => judge value path)
        fun part : Schema × Prop => validateWithin definitions passes part.1] at gathered
      exact gathered.congr (by simp)
    refine (hypothesis both others.2).congr ?_
    rw [List.forall_mem_cons, and_assoc]

end Absent

/-! ### What may be lacking -/

namespace Document

/-- Keywords that make a description without a type one of objects or arrays. -/
def shaping : List String := ["properties", "additionalProperties", "items", "prefixItems"]

/-- The description accepts a value that is absent. -/
inductive MayLack (definitions : Entries) : Value → Prop
  | anything : MayLack definitions (.bool true)
  | empty : MayLack definitions (.dictionary [])
  | defaulted {entries : Entries} (given : has entries "default" = true) :
      MayLack definitions (.dictionary entries)
  | untyped {entries : Entries} (undecided : IsUndecided entries)
      (noType : get entries "type" = .null)
      (shapeless : ∀ keyword ∈ shaping, has entries keyword = false) :
      MayLack definitions (.dictionary entries)
  | reference {entries : Entries} (decided : IsDecidedBy entries "$ref") {text name : String}
      (found : get entries "$ref" = .text text) (points : referenceName? text = some name)
      {description : Value} (defined : Value.field? definitions name = some description)
      (lacks : MayLack definitions description) : MayLack definitions (.dictionary entries)
  | option {entries : Entries} {keyword : String} (offers : keyword ∈ ["oneOf", "anyOf"])
      (decided : IsDecidedBy entries keyword) {parts : List Value}
      (found : (get entries keyword).items = .ok parts) {part : Value} (mem : part ∈ parts)
      (lacks : MayLack definitions part) : MayLack definitions (.dictionary entries)
  | conjunction {entries : Entries} (decided : IsDecidedBy entries "allOf") {parts : List Value}
      (found : (get entries "allOf").items = .ok parts)
      (lacks : ∀ part ∈ parts, MayLack definitions part) : MayLack definitions (.dictionary entries)

variable {entries definitions : Entries} {build : Builder}

/-! ### Descriptions by what decides about them -/

/-- Only one keyword decides about a description. -/
theorem IsDecidedBy.unique {first second : String} (decided : IsDecidedBy entries first)
    (also : IsDecidedBy entries second) : first = second :=
  Option.some.inj (decided.symm.trans also)

section Decided

variable (noDefault : has entries "default" = false)

include noDefault

/-- What may be lacking though a keyword decides about it may be lacking by that keyword. -/
theorem MayLack.by_decided {keyword : String} (decided : IsDecidedBy entries keyword)
    (lacks : MayLack definitions (.dictionary entries)) :
    (keyword = "$ref" ∧ ∃ text name description, get entries "$ref" = .text text ∧
        referenceName? text = some name ∧ Value.field? definitions name = some description ∧
          MayLack definitions description) ∨
      (keyword ∈ ["oneOf", "anyOf"] ∧ ∃ parts, (get entries keyword).items = .ok parts ∧
        ∃ part ∈ parts, MayLack definitions part) ∨
      (keyword = "allOf" ∧ ∃ parts, (get entries "allOf").items = .ok parts ∧
        ∀ part ∈ parts, MayLack definitions part) := by
  cases lacks with
  | empty => cases decided
  | defaulted given => rw [noDefault] at given; cases given
  | untyped undecided => cases decided.symm.trans undecided
  | reference other found points defined lacks =>
    exact .inl ⟨decided.unique other, _, _, _, found, points, defined, lacks⟩
  | option offers other found mem lacks =>
    cases decided.unique other
    exact .inr (.inl ⟨offers, _, found, _, mem, lacks⟩)
  | conjunction other found lacks =>
    exact .inr (.inr ⟨decided.unique other, _, found, lacks⟩)

/-- A reference may be lacking if what it refers to may. -/
theorem mayLack_reference (decided : IsDecidedBy entries "$ref") {text name : String}
    (found : get entries "$ref" = .text text) (points : referenceName? text = some name)
    {description : Value} (defined : Value.field? definitions name = some description) :
    MayLack definitions (.dictionary entries) ↔ MayLack definitions description := by
  refine ⟨fun lacks => ?_, .reference decided found points defined⟩
  rcases lacks.by_decided noDefault decided with
    ⟨_, _, _, _, isText, leads, isDefined, lacks⟩ | ⟨offers, _⟩ | ⟨isAll, _⟩
  · cases found.symm.trans isText
    cases points.symm.trans leads
    cases defined.symm.trans isDefined
    exact lacks
  · exact absurd offers (by decide)
  · exact absurd isAll (by decide)

/-- A choice may be lacking if one of its options may. -/
theorem mayLack_option {keyword : String} (offers : keyword ∈ ["oneOf", "anyOf"])
    (decided : IsDecidedBy entries keyword) {parts : List Value}
    (found : (get entries keyword).items = .ok parts) :
    MayLack definitions (.dictionary entries) ↔ ∃ part ∈ parts, MayLack definitions part := by
  refine ⟨fun lacks => ?_, fun ⟨part, mem, lacks⟩ => .option offers decided found mem lacks⟩
  rcases lacks.by_decided noDefault decided with ⟨rfl, _⟩ | ⟨_, others, isFound, some⟩ | ⟨rfl, _⟩
  · exact absurd offers (by decide)
  · cases found.symm.trans isFound
    exact some
  · exact absurd offers (by decide)

/-- A conjunction may be lacking if all of its parts may. -/
theorem mayLack_conjunction (decided : IsDecidedBy entries "allOf") {parts : List Value}
    (found : (get entries "allOf").items = .ok parts) :
    MayLack definitions (.dictionary entries) ↔ ∀ part ∈ parts, MayLack definitions part := by
  refine ⟨fun lacks => ?_, .conjunction decided found⟩
  rcases lacks.by_decided noDefault decided with ⟨isRef, _⟩ | ⟨offers, _⟩ | ⟨_, others, isFound, all⟩
  · exact absurd isRef (by decide)
  · exact absurd offers (by decide)
  · cases found.symm.trans isFound
    exact all

/-- A listed value is never absent. -/
theorem not_mayLack_listed {keyword : String} (lists : keyword ∈ ["const", "enum"])
    (decided : IsDecidedBy entries keyword) : ¬ MayLack definitions (.dictionary entries) := by
  intro lacks
  have apart : ∀ keyword ∈ ["const", "enum"], keyword ∉ ["oneOf", "anyOf"] := by decide
  rcases lacks.by_decided noDefault decided with ⟨rfl, _⟩ | ⟨offers, _⟩ | ⟨rfl, _⟩
  · exact absurd lists (by decide)
  · exact apart keyword lists offers
  · exact absurd lists (by decide)

/-- A description without a deciding keyword may be lacking if it has no type and no keyword that
shapes values. -/
theorem mayLack_undecided (undecided : IsUndecided entries) (nonempty : entries ≠ []) :
    MayLack definitions (.dictionary entries) ↔
      get entries "type" = .null ∧ ∀ keyword ∈ shaping, has entries keyword = false := by
  refine ⟨fun lacks => ?_, fun ⟨noType, shapeless⟩ => .untyped undecided noType shapeless⟩
  cases lacks with
  | empty => exact absurd rfl nonempty
  | defaulted given => rw [noDefault] at given; cases given
  | untyped _ noType shapeless => exact ⟨noType, shapeless⟩
  | reference decided | option _ decided | conjunction decided =>
    cases undecided.symm.trans decided

end Decided

/-! ### Absent values and descriptions -/

/-- What a description without a deciding keyword is made: a schema that refuses absent values, or
one of any value if nothing says what it describes. -/
theorem buildByType_absent (built : Schema) (made : buildByType build entries = .ok built) :
    (RefusesAbsent built ∧
        ¬ (get entries "type" = .null ∧ ∀ keyword ∈ shaping, has entries keyword = false)) ∨
      (built = .any ∧ get entries "type" = .null ∧
        ∀ keyword ∈ shaping, has entries keyword = false) := by
  unfold buildByType at made
  split at made
  · next noType =>
    unfold buildUntyped at made
    have shaped : ∀ {keyword : String}, keyword ∈ shaping → has entries keyword = true →
        ¬ (get entries "type" = .null ∧ ∀ keyword ∈ shaping, has entries keyword = false) := by
      rintro keyword mem there ⟨_, shapeless⟩
      rw [shapeless keyword mem] at there
      cases there
    split at made
    · next isObject =>
      refine .inl ⟨buildObject_refuses _ made, ?_⟩
      rcases Bool.or_eq_true_iff.1 isObject with there | there
      · exact shaped (by decide) there
      · exact shaped (by decide) there
    · next noObject =>
      split at made
      · next isArray =>
        refine .inl ⟨buildArray_refuses _ made, ?_⟩
        rcases Bool.or_eq_true_iff.1 isArray with there | there
        · exact shaped (by decide) there
        · exact shaped (by decide) there
      · next noArray =>
        cases made
        refine .inr ⟨rfl, noType, ?_⟩
        simp only [Bool.or_eq_true, not_or, Bool.not_eq_true] at noObject noArray
        simp only [shaping, List.forall_mem_cons, noObject, noArray, List.not_mem_nil, false_imp_iff,
          implies_true, and_self]
  · next types found =>
    refine .inl ⟨?_, fun ⟨noType, _⟩ => ?_⟩
    · unfold buildTypeList at made
      split at made
      · cases made
        rfl
      · obtain ⟨bare, isBare, isBuilt⟩ := of_bind_ok made
        cases isBuilt
        split
        · rfl
        · exact buildTyped_refuses _ _ isBare
    · rw [found] at noType
      cases noType
  · next noNull _ => exact .inl ⟨buildTyped_refuses _ _ made, fun ⟨noType, _⟩ => noNull noType⟩

/-- The results of a list are those of its members. -/
theorem exists_made {Member Result : Type} [Inhabited Result] {step : Member → Except Fault Result}
    {members : List Member} {results : List Result} (made : members.mapM step = .ok results) :
    ∃ result : Member → Result, (∀ member ∈ members, step member = .ok (result member)) ∧
      results = members.map result := by
  refine ⟨fun member => (step member).toOption.getD default, ?_⟩
  induction members generalizing results with
  | nil =>
    cases made
    exact ⟨List.forall_mem_nil _, rfl⟩
  | cons first rest hypothesis =>
    rw [List.mapM_cons] at made
    obtain ⟨here, isHere, made⟩ := of_bind_ok made
    obtain ⟨others, areOthers, made⟩ := of_bind_ok made
    cases made
    obtain ⟨each, same⟩ := hypothesis areOthers
    have isFirst : step first = .ok ((step first).toOption.getD default) := by
      rw [isHere]
      rfl
    refine ⟨List.forall_mem_cons.2 ⟨isFirst, each⟩, ?_⟩
    rw [List.map_cons, ← same, isHere]
    rfl

/-- A name stands for what its definition is built as. -/
theorem schemas_lookup (document : Document) (name : String) :
    document.schemas.lookup name = (Value.field? document.definitions name).map document.build := by
  unfold schemas
  generalize document.build = build
  induction document.definitions with
  | nil => rfl
  | cons first rest hypothesis =>
    obtain ⟨key, description⟩ := first
    rw [Value.field_cons]
    by_cases same : (Value.text name).same key = true
    · cases Value.text_same_iff.1 same
      simp only [if_pos same, List.filterMap_cons, List.lookup_cons_self, Option.map_some]
    · rw [if_neg same, ← hypothesis]
      cases key with
      | text other =>
        have apart : (name == other) = false :=
          beq_eq_false_iff_ne.2 fun isOther => same (Value.text_same_iff.2 (isOther ▸ rfl))
        simp only [List.filterMap_cons, List.lookup_cons, apart]
      | _ => simp only [List.filterMap_cons]

theorem buildEnumeration_refuses {values : Value} :
    Makes RefusesAbsent (buildEnumeration values) := by
  unfold buildEnumeration
  split
  · split
    · exact .error _
    · intro schema made
      obtain ⟨-, rfl⟩ := Schema.enumeration_eq_ok.1 made
      rfl
  · exact .error _

section Pass

variable (document : Document) {passes levels : Nat} {path : Path} {schema : Schema}

/-- Whether an absent value is accepted is told of a reference, if it is told of its target after
one pass less. -/
theorem reference_tells (decided : IsDecidedBy entries "$ref")
    (noDefault : has entries "default" = false)
    (built : buildReference document.definitions (get entries "$ref") = .ok schema)
    (target : ∀ fewer, passes = fewer + 1 → ∀ description schema,
      document.build description = .ok schema →
        Tells (validateWithin document.schemas fewer schema .absent path)
          (MayLack document.definitions description)) :
    Tells (validateWithin document.schemas passes schema .absent path)
      (MayLack document.definitions (.dictionary entries)) := by
  unfold buildReference at built
  split at built
  · next text found =>
    split at built
    · cases built
    · next name points =>
      split at built
      · next known =>
        cases built
        obtain ⟨description, defined⟩ := Option.isSome_iff_exists.1 known
        refine Tells.congr ?_ (mayLack_reference noDefault decided found points defined).symm
        rw [validateWithin_eq]
        show Tells (Judge.deferred (judgeLower document.schemas passes)
          ((Schema.lazy name).resolve document.schemas) .absent path) _
        unfold Schema.resolve
        simp only [Schema.lazy, Schema.leaf, Schema.traits, schemas_lookup, defined, Option.map_some]
        unfold Judge.deferred
        cases isBuilt : document.build description with
        | error fault => exact .error fault
        | ok schema =>
          cases passes with
          | zero => exact .error _
          | succ fewer => exact target fewer rfl description schema isBuilt
      · cases built
  · cases built

variable (parts : ∀ part schema, build part = .ok schema → ∀ path,
  Tells (validateWithin document.schemas passes schema .absent path)
    (MayLack document.definitions part))

include parts

/-- An absent value is told on by the options of a choice. -/
theorem option_tells {keyword : String} (offers : keyword ∈ ["oneOf", "anyOf"])
    (decided : IsDecidedBy entries keyword) (noDefault : has entries "default" = false)
    (built : (do Schema.union (← buildAll build (get entries keyword))) = Except.ok schema) :
    Tells (validateWithin document.schemas passes schema .absent path)
      (MayLack document.definitions (.dictionary entries)) := by
  obtain ⟨schemas, areSchemas, isUnion⟩ := of_bind_ok built
  obtain ⟨members, found, made⟩ := of_bind_ok areSchemas
  obtain ⟨result, each, rfl⟩ := exists_made made
  obtain ⟨-, rfl⟩ := Schema.union_eq_ok.1 isUnion
  refine Tells.congr ?_ (mayLack_option noDefault offers decided found).symm
  rw [validateWithin_eq]
  show Tells (Judge.union ((members.map result).map
    (validateWithin document.schemas passes)) .absent path) _
  rw [List.map_map]
  exact .union fun part mem => parts part _ (each part mem) path

/-- An absent value is told on by the parts of a conjunction. -/
theorem conjunction_tells (decided : IsDecidedBy entries "allOf")
    (noDefault : has entries "default" = false)
    (built : buildConjunction build (get entries "allOf") = .ok schema) :
    Tells (validateWithin document.schemas passes schema .absent path)
      (MayLack document.definitions (.dictionary entries)) := by
  obtain ⟨schemas, areSchemas, isFold⟩ := of_bind_ok built
  obtain ⟨members, found, made⟩ := of_bind_ok areSchemas
  obtain ⟨result, each, rfl⟩ := exists_made made
  refine Tells.congr ?_ (mayLack_conjunction noDefault decided found).symm
  cases members with
  | nil => cases isFold
  | cons first rest =>
    cases isFold
    rw [List.forall_mem_cons] at each ⊢
    exact foldl_tells (parts first _ each.1 path) fun part mem => parts part _ (each.2 part mem) path

/-- Whether an absent value is accepted is told of a description without a default, if it is told of
what the description is read with, and of definitions after one pass less. -/
theorem bare_tells (target : ∀ fewer, passes = fewer + 1 → ∀ description schema,
      document.build description = .ok schema → ∀ path,
        Tells (validateWithin document.schemas fewer schema .absent path)
          (MayLack document.definitions description))
    (nonempty : entries ≠ []) (noDefault : has entries "default" = false)
    (built : buildBare document.definitions build entries = .ok schema) :
    Tells (validateWithin document.schemas passes schema .absent path)
      (MayLack document.definitions (.dictionary entries)) := by
  cases decided : deciding.find? (has entries) with
  | none =>
    rw [buildBare_undecided decided] at built
    refine Tells.congr ?_ (mayLack_undecided noDefault decided nonempty).symm
    rcases buildByType_absent schema built with ⟨refuses, shaped⟩ | ⟨rfl, shapeless⟩
    · exact (refuses_tells refuses).congr (iff_of_false id shaped)
    · rw [validateWithin_eq]
      exact .accept shapeless
  | some keyword =>
    unfold buildBare at built
    rw [← deciding, decided] at built
    have mem := List.mem_of_find?_eq_some decided
    simp only [deciding, List.mem_cons, List.not_mem_nil, or_false] at mem
    rcases mem with rfl | rfl | rfl | rfl | rfl | rfl
    · exact reference_tells document decided noDefault built fun fewer isLess description schema made =>
        target fewer isLess description schema made path
    · cases built
      have refuses : RefusesAbsent (.literal (get entries "const")) := rfl
      exact (refuses_tells refuses).congr
        (iff_of_false id (not_mayLack_listed noDefault (by decide) decided))
    · refine (refuses_tells ?_).congr
        (iff_of_false id (not_mayLack_listed noDefault (by decide) decided))
      exact buildEnumeration_refuses schema built
    · exact option_tells document parts (by decide) decided noDefault built
    · exact option_tells document parts (by decide) decided noDefault built
    · exact conjunction_tells document parts decided noDefault built

end Pass

/-- Whether the schema of a description accepts an absent value, as far as validation comes to an
end. -/
theorem absent_tells (document : Document) (passes levels : Nat) (description : Value)
    (schema : Schema) (built : buildWithin document.definitions levels description = .ok schema)
    (path : Path) :
    Tells (validateWithin document.schemas passes schema .absent path)
      (MayLack document.definitions description) := by
  -- references take a pass each, and on one pass descriptions are taken apart level by level
  induction passes using Nat.strongRecOn generalizing levels description schema path with
  | ind passes fewer =>
    induction levels generalizing description schema path with
    | zero => cases built
    | succ levels lower =>
      unfold buildWithin at built
      have anything : Tells (validateWithin document.schemas passes .any .absent path) True := by
        rw [validateWithin_eq]
        exact .accept trivial
      split at built
      · cases built
        exact anything.congr (iff_of_true trivial .anything)
      · cases built
        exact anything.congr (iff_of_true trivial .empty)
      · next entries nonempty =>
        obtain ⟨bare, isBare, isSchema⟩ := of_bind_ok built
        cases isSchema
        rw [validateWithin_annotate]
        cases defaulted : has entries "default" with
        | true => exact .accept (.defaulted defaulted)
        | false =>
          rw [if_neg (by simp)]
          exact bare_tells document (lower)
            (fun less isLess description schema made path =>
              fewer less (isLess ▸ Nat.lt_succ_self _) _ description schema made path)
            nonempty defaulted isBare
      · cases built

/-! ### Objects -/

theorem IsReadAs.nonempty {type : String} (read : IsReadAs entries type) : entries ≠ [] := by
  rintro rfl
  cases read with
  | named _ found | listed _ found => cases found
  | object _ _ keywords | array _ _ _ keywords => cases keywords

/-- What is read as an object is built as one, which may also be null. -/
theorem object_of_read {bare : Schema} (read : IsReadAs entries "object")
    (built : buildBare definitions build entries = .ok bare) :
    ∃ object, buildObject build entries = .ok object ∧ (bare = object ∨ bare = object.nullable) := by
  have byType : IsUndecided entries → buildByType build entries = .ok bare := fun undecided =>
    (buildBare_undecided undecided definitions).symm.trans built
  generalize isType : "object" = type at read
  cases read with
  | array => exact absurd isType (by decide)
  | named undecided found =>
    subst isType
    have typed := byType undecided
    rw [buildByType, found] at typed
    exact ⟨bare, typed, .inl rfl⟩
  | listed undecided found first =>
    subst isType
    have typed := byType undecided
    rw [buildByType, found] at typed
    simp only [buildTypeList, first] at typed
    obtain ⟨object, isObject, isBare⟩ := of_bind_ok typed
    cases isBare
    refine ⟨object, isObject, ?_⟩
    split
    · exact .inr rfl
    · exact .inl rfl
  | object undecided untyped keywords =>
    have typed := byType undecided
    rw [buildByType, untyped] at typed
    simp only [buildUntyped, if_pos keywords] at typed
    exact ⟨bare, typed, .inl rfl⟩

variable {names : List String} {members : List (String × Value)}

/-- The schema of a member, which is optional unless the name of the member is required. -/
def memberSchema (names : List String) (child : String × Value → Schema) (member : String × Value) :
    Schema :=
  if member.1 ∈ names then child member else (child member).optional

/-- The fields of an object are those of its description, optional unless they are required. -/
theorem fields_made {fields : List (String × Schema)}
    (made : (members.map fun member => (Value.text member.1, member.2)).mapM
      (buildField build (names.map .text)) = .ok fields) :
    ∃ child : String × Value → Schema, (∀ member ∈ members, build member.2 = .ok (child member)) ∧
      fields = members.map fun member => (member.1, memberSchema names child member) := by
  rw [List.mapM_map] at made
  obtain ⟨field, each, rfl⟩ := exists_made made
  have built : ∀ member ∈ members, ∃ child, build member.2 = .ok child ∧
      (member.1, if member.1 ∈ names then child else child.optional) = field member := by
    intro member mem
    obtain ⟨child, isChild, isField⟩ := of_bind_ok (each member mem)
    refine ⟨child, isChild, ?_⟩
    simp only [isIn_texts] at isField
    exact Except.ok.inj isField
  choose! child isChild same using built
  exact ⟨child, isChild, List.map_congr_left fun member mem => (same member mem).symm⟩

section Values

variable {known : Schema.Definitions} {given : List (Value × Value)} {path : Path}

theorem validate_nullable_dictionary (schema : Schema) :
    validate known schema.nullable (.dictionary given) path =
      validate known schema (.dictionary given) path := by
  rw [validate_eq]
  rfl

/-- A default and null make no difference to a dictionary. -/
theorem validate_wrapped {bare object : Schema} (wraps : bare = object ∨ bare = object.nullable) :
    validate known (annotate entries bare) (.dictionary given) path =
      validate known object (.dictionary given) path := by
  rw [validate_annotate, if_neg (by simp [Value.isAbsent])]
  rcases wraps with rfl | rfl
  · rfl
  · exact validate_nullable_dictionary object

/-- A dictionary is validated field by field, below the names of the fields. -/
theorem validate_object {fields : List (String × Schema)} (distinct : (fields.map (·.1)).Nodup) :
    validate known (.object fields) (.dictionary given) path =
      Judge.gather (fun field => validate known field.2 ((Value.field? given field.1).getD .absent)
        (path ++ [.name field.1])) fields := by
  rw [validate_eq]
  show Judge.object ((Schema.object fields).parts (validate known)).fields (.dictionary given) path = _
  simp only [Schema.parts, Schema.object_fields distinct, Option.getD_some, Judge.object,
    Judge.gather_map]

theorem validate_optional_absent (schema : Schema) :
    validate known schema.optional .absent path = .ok [] := by
  rw [validate_eq]
  rfl

end Values

/-- The name is required, and what is described under it may not be lacking. -/
def Demands (definitions : Entries) (names : List String) (members : List (String × Value))
    (name : String) : Prop :=
  name ∈ names ∧ ∃ description, (name, description) ∈ members ∧ ¬ MayLack definitions description

section Members

variable {child : String × Value → Schema} {known : Schema.Definitions}
variable (tells : ∀ member ∈ members, ∀ path,
  Tells (validate known (child member) .absent path) (MayLack definitions member.2))

include tells

/-- What is demanded is there, if the members that the names do not make optional are accepted. -/
theorem members_present {given : List (Value × Value)} {path : Path}
    (accepted : Judge.gather (fun member => validate known (memberSchema names child member)
      ((Value.field? given member.1).getD .absent) (path ++ [.name member.1])) members = .ok [])
    {name : String} (demands : Demands definitions names members name) :
    ∃ value, Value.field? given name = some value ∧ value ≠ .absent := by
  obtain ⟨listed, description, mem, needed⟩ := demands
  have judged := Judge.gather_accepts_iff.1 accepted (name, description) mem
  simp only [memberSchema, if_pos listed] at judged
  by_contra lacking
  push Not at lacking
  have isAbsent : (Value.field? given name).getD .absent = .absent := by
    cases found : Value.field? given name with
    | none => rfl
    | some value => exact lacking value found
  rw [isAbsent] at judged
  exact needed ((tells _ mem _ [] judged).1 rfl)

/-- All members may be absent exactly if nothing is demanded. -/
theorem members_lacking (path : Path) :
    Tells (Judge.gather (fun member => validate known (memberSchema names child member) .absent
      (path ++ [.name member.1])) members) (∀ name, ¬ Demands definitions names members name) := by
  have each : ∀ member ∈ members, Tells (validate known (memberSchema names child member) .absent
      (path ++ [.name member.1])) (member.1 ∈ names → MayLack definitions member.2) := by
    intro member mem
    unfold memberSchema
    by_cases listed : member.1 ∈ names
    · rw [if_pos listed]
      exact (tells member mem _).congr (by simp [listed])
    · rw [if_neg listed, validate_optional_absent]
      exact .accept fun isListed => absurd isListed listed
  refine (Tells.gather each).congr ⟨fun lacks name demands => ?_, fun none member mem listed => ?_⟩
  · obtain ⟨listed, description, mem, needed⟩ := demands
    exact needed (lacks _ mem listed)
  · by_contra needed
    exact none member.1 ⟨listed, member.2, mem, needed⟩

end Members

section Required

variable (document : Document) (distinct : (members.map (·.1)).Nodup)
  (required : nameSet (get entries "required") = .ok (names.map .text))
  (properties : propertyEntries (get entries "properties") =
    .ok (members.map fun member => (.text member.1, member.2)))

include distinct required properties

/-- Objects that are built demand the fields that the description demands, and no others. -/
theorem object_presence {levels : Nat} {object : Schema}
    (built : buildObject (buildWithin document.definitions levels) entries = .ok object) :
    (∀ given path, validate document.schemas object (.dictionary given) path = .ok [] →
      ∀ name, Demands document.definitions names members name →
        ∃ value, Value.field? given name = some value ∧ value ≠ .absent) ∧
    ∀ path, Tells (validate document.schemas object (.dictionary []) path)
      (∀ name, ¬ Demands document.definitions names members name) := by
  unfold buildObject at built
  simp only at built
  split at built
  · next additional empty found =>
    -- a record has no properties, so nothing is demanded
    obtain ⟨inner, _, isRecord⟩ := of_bind_ok built
    cases isRecord
    have none : members = [] := by
      unfold propertyEntries at properties
      rw [empty] at properties
      exact List.map_eq_nil_iff.1 (Except.ok.inj properties).symm
    subst none
    refine ⟨fun given path _ name demands => ?_, fun path => ?_⟩
    · obtain ⟨_, description, mem, _⟩ := demands
      cases mem
    · rw [validate_eq]
      exact .accept fun name demands => by obtain ⟨_, _, mem, _⟩ := demands; cases mem
  · obtain ⟨others, areNames, built⟩ := of_bind_ok built
    cases required.symm.trans areNames
    obtain ⟨listed, areMembers, built⟩ := of_bind_ok built
    cases properties.symm.trans areMembers
    obtain ⟨fields, made, isObject⟩ := of_bind_ok built
    cases isObject
    obtain ⟨child, isChild, rfl⟩ := fields_made made
    have apart : ((members.map fun member =>
        (member.1, memberSchema names child member)).map (·.1)).Nodup := by
      rw [List.map_map]
      exact distinct
    have tells : ∀ member ∈ members, ∀ path,
        Tells (validate document.schemas (child member) .absent path)
          (MayLack document.definitions member.2) := fun member mem path =>
      absent_tells document _ levels member.2 (child member) (isChild member mem) path
    simp only [validate_object apart, Judge.gather_map]
    exact ⟨fun given path accepted name demands => members_present tells accepted demands,
      fun path => members_lacking tells path⟩

/-- **Required names are there where their descriptions do not do without them.** Every dictionary
that the schema of an object accepts has each name that is required and described by what may not be
lacking, with a value that is not absent. Nothing else has to be there: the empty dictionary, once
validation has a result for it, is accepted exactly if there is no such name. -/
theorem required_present (read : IsReadAs entries "object") {schema : Schema}
    (built : document.build (.dictionary entries) = .ok schema) :
    (∀ given path, validate document.schemas schema (.dictionary given) path = .ok [] →
      ∀ name, Demands document.definitions names members name →
        ∃ value, Value.field? given name = some value ∧ value ≠ .absent) ∧
    ∀ path issues, validate document.schemas schema (.dictionary []) path = .ok issues →
      (issues = [] ↔ ∀ name, ¬ Demands document.definitions names members name) := by
  cases entries with
  | nil => exact absurd rfl read.nonempty
  | cons first rest =>
    rw [document.build_eq (Nat.le_refl _)] at built
    obtain ⟨bare, isBare, isSchema⟩ := of_bind_ok built
    cases isSchema
    obtain ⟨object, isObject, wraps⟩ := object_of_read read isBare
    simp only [validate_wrapped wraps]
    exact object_presence document distinct required properties isObject

end Required

/-! ### Accounts -/

/-- What an account has by name. -/
def accountMembers : List (String × Value) :=
  [("name", usualItems), ("note", .dictionary []),
    ("level", .dictionary [(.text "type", .text "integer"), (.text "default", .int 1)])]

/-- A description of accounts, which are to have an owner too. -/
def account : Entries :=
  [(.text "type", .text "object"),
    (.text "properties", .dictionary (accountMembers.map fun member => (.text member.1, member.2))),
    (.text "required", .list (["name", "note", "level", "owner"].map .text))]

/-- An account has a name. -/
theorem account_present :
    Demands [] ["name", "note", "level", "owner"] accountMembers "name" ∧
      ∃ schema, Document.build ⟨.dictionary account, []⟩ (.dictionary account) = .ok schema ∧
        ∀ given path, validate [] schema (.dictionary given) path = .ok [] →
          ∃ value, Value.field? given "name" = some value ∧ value ≠ .absent := by
  have demands : Demands [] ["name", "note", "level", "owner"] accountMembers "name" := by
    refine ⟨by decide, usualItems, List.mem_cons_self, fun lacks => ?_⟩
    have undecided : IsUndecided [(.text "type", .text "string")] := rfl
    obtain ⟨noType, _⟩ := (mayLack_undecided rfl undecided (List.cons_ne_nil _ _)).1 lacks
    cases noType
  have distinct : (accountMembers.map (·.1)).Nodup := by decide
  have required : nameSet (get account "required") =
      .ok (["name", "note", "level", "owner"].map .text) := rfl
  have properties : propertyEntries (get account "properties") =
      .ok (accountMembers.map fun member => (.text member.1, member.2)) := rfl
  have read : IsReadAs account "object" := .named rfl rfl
  have present := required_present ⟨.dictionary account, []⟩ distinct required properties read rfl
  exact ⟨demands, _, rfl, fun given path accepted => present.1 given path accepted "name" demands⟩

/-- **A required name may be lacking.** A name alone makes an account, though a note, a level and an
owner are required: any value may be lacking, so may one with a default, and an owner is not
described. -/
theorem required_not_present :
    nameSet (get account "required") = .ok (["name", "note", "level", "owner"].map .text) ∧
      ∃ schema, Document.build ⟨.dictionary account, []⟩ (.dictionary account) = .ok schema ∧
        validate [] schema (.dictionary [(.text "name", .text "Ann")]) [] = .ok [] ∧
        ∀ name ∈ ["note", "level", "owner"],
          Value.field? [(.text "name", .text "Ann")] name = none :=
  ⟨rfl, _, rfl, rfl, by decide⟩

end Document

end Specimen
