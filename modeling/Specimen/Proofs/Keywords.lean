/-
**What the loader reads off keywords.**

A description and its entries have the same keywords. Where a keyword gives a bound, the loader adds
a check to the schema, and the checks of the schema ask of a number what the keywords ask of it.
-/

import Specimen.Document
import Specimen.Proofs.Conformance
import Specimen.Proofs.Verdicts

namespace Specimen

/-! ### Keywords -/

namespace Json

variable {description value : Json} {keyword : String} {keywords : List String}

/-- The entries of a description. -/
def entries (description : Json) : Entries := Value.ofJsonMembers description.members

theorem exists_object (found : description.member? keyword = some value) :
    ∃ first rest, description = .object (first :: rest) := by
  cases description with
  | object members =>
    cases members with
    | nil => cases found
    | cons first rest => exact ⟨first, rest, rfl⟩
  | _ => cases found

/-- What is said of the value of a keyword that is there. -/
theorem forall_member_iff {property : Json → Prop}
    (found : description.member? keyword = some value) :
    (∀ other, description.member? keyword = some other → property other) ↔ property value := by
  rw [found]
  exact ⟨fun each => each value rfl, fun holds other same => Option.some.inj same ▸ holds⟩

theorem HasOnly.member_eq_none (only : description.HasOnly keywords)
    (other : keyword ∉ keywords ++ annotations) : description.member? keyword = none := by
  cases found : description.member? keyword with
  | none => rfl
  | some value => exact absurd (only keyword value found) other

/-- Annotations ask nothing, so that only the keywords of the form matter. -/
theorem HasOnly.conforms_iff {root subject : Json} (only : description.HasOnly keywords) :
    Conforms root description subject ↔ ∀ keyword ∈ keywords, ∀ value,
      description.member? keyword = some value →
        MeetsKeyword root (Conforms root) description subject keyword value := by
  rw [Json.conforms_iff]
  constructor
  · exact fun meets keyword _ value found => meets keyword value found
  · intro meets keyword value found
    rcases List.mem_append.1 (only keyword value found) with asks | annotates
    · exact meets keyword asks value found
    · exact .of_annotates annotates

end Json

namespace Value

theorem field_ofJsonMembers (members : List (String × Json)) (name : String) :
    field? (ofJsonMembers members) name = (members.lookup name).map ofJson := by
  induction members with
  | nil => rfl
  | cons first rest hypothesis =>
    obtain ⟨other, json⟩ := first
    rw [ofJsonMembers, field_cons, List.lookup_cons, hypothesis]
    by_cases same : name = other
    · simp [Value.same, same]
    · simp [Value.same, beq_eq_false_iff_ne.2 same]

variable {json : Json} {number : Rat}

theorem toExtended_ofJson (isNumber : json.rational? = some number) :
    (ofJson json).toExtended? = some (.rational number) := by
  cases json with
  | int given =>
    cases isNumber
    rfl
  | float given =>
    cases given with
    | finite negative significand exponent =>
      cases isNumber
      rfl
    | _ => cases isNumber
  | _ => cases isNumber

theorem toInteger_ofJson {size : Int} (isSize : json.rational? = some (size : Rat)) :
    (ofJson json).toInteger = .ok size := by
  cases json with
  | int given =>
    have same : (given : Rat) = size := Option.some.inj isSize
    rw [Int.cast_inj] at same
    rw [ofJson, same]
    rfl
  | float given =>
    cases given with
    | finite negative significand exponent =>
      have same : (Binary64.finite negative significand exponent).toRat = size :=
        Option.some.inj isSize
      show Except.ok (truncateRat (Binary64.finite negative significand exponent).toRat) = _
      rw [same]
      simp [truncateRat]
    | _ => cases isSize
  | _ => cases isSize

end Value

namespace Document

variable {description value : Json} {keyword : String}

theorem field_entries (description : Json) (keyword : String) :
    Value.field? description.entries keyword = (description.member? keyword).map .ofJson :=
  Value.field_ofJsonMembers description.members keyword

theorem get_entries (found : description.member? keyword = some value) :
    get description.entries keyword = .ofJson value := by
  rw [get, field_entries, found]
  rfl

theorem get_missing (missing : description.member? keyword = none) :
    get description.entries keyword = .null := by
  rw [get, field_entries, missing]
  rfl

end Document

/-! ### Bounds -/

/-- The first number is as the bound asks, as far as both are there. -/
theorem Json.limits_iff {inclusive : Bool} {low high : Rat} :
    Json.Limits inclusive (some low) (some high) ↔ Within inclusive low high := by
  constructor
  · exact fun limits => limits low high rfl rfl
  · intro within first second isFirst isSecond
    cases isFirst
    cases isSecond
    exact within

/-- The schema is of a kind, and what its checks ask is known. -/
structure Schema.IsBounded (kind : Kind) (inner : Option Schema) (whole : Bool)
    (asked : Rat → Prop) (schema : Schema) : Prop where
  kind : schema.kind = kind
  inner : schema.inner = inner
  asks : Check.Ask whole schema.checks asked

namespace Schema.IsBounded

variable {kind : Kind} {inner : Option Schema} {whole : Bool} {asked other : Rat → Prop}
variable {schema : Schema}

theorem congr (bounded : schema.IsBounded kind inner whole asked)
    (same : ∀ number, asked number ↔ other number) : schema.IsBounded kind inner whole other :=
  (funext fun number => propext (same number) : asked = other) ▸ bounded

end Schema.IsBounded

/-- Putting a bound on a schema asks that a number be related to the number that the bound is.
Without such a number nothing is asked. -/
structure Schema.Adds (limited : Schema → Value → Schema) (related : Option Rat → Rat → Prop) :
    Prop where
  free : ∀ number, related none number
  bounded : ∀ {kind inner whole asked schema bound limit}, IsBounded kind inner whole asked schema →
    bound.toExtended? = some (.rational limit) →
      (limited schema bound).IsBounded kind inner whole fun number =>
        asked number ∧ related (some limit) number

theorem Schema.min_adds (inclusive : Bool) : Adds (fun schema bound => schema.min bound inclusive)
    fun bound number => Json.Limits inclusive bound (some number) where
  free number low high isLow := by cases isLow
  bounded := by
    intro kind inner whole asked schema bound limit ⟨isKind, isInner, asks⟩ isLimit
    have limited : (schema.min bound inclusive).IsBounded kind inner whole fun number =>
        asked number ∧ Within inclusive limit number := by
      cases schema
      exact ⟨isKind, isInner, asks.min isLimit inclusive⟩
    exact limited.congr fun number => by rw [Json.limits_iff]

theorem Schema.max_adds (inclusive : Bool) : Adds (fun schema bound => schema.max bound inclusive)
    fun bound number => Json.Limits inclusive (some number) bound where
  free number low high _ isHigh := by cases isHigh
  bounded := by
    intro kind inner whole asked schema bound limit ⟨isKind, isInner, asks⟩ isLimit
    have limited : (schema.max bound inclusive).IsBounded kind inner whole fun number =>
        asked number ∧ Within inclusive number limit := by
      cases schema
      exact ⟨isKind, isInner, asks.max isLimit inclusive⟩
    exact limited.congr fun number => by rw [Json.limits_iff]

namespace Document

section Bounds

variable {description : Json} {keyword : String} {kind : Kind} {inner : Option Schema}
variable {whole : Bool} {asked : Rat → Prop} {schema : Schema}
variable {limited : Schema → Value → Schema} {related : Option Rat → Rat → Prop}

/-- A keyword that is there adds what it asks; one that is not adds nothing. -/
theorem withKeyword_bounded (bounded : schema.IsBounded kind inner whole asked)
    {apply : Schema → Value → Except Fault Schema} {more : Json → Rat → Prop}
    (each : ∀ value, description.member? keyword = some value →
      ∃ next, apply schema (.ofJson value) = .ok next ∧
        next.IsBounded kind inner whole fun number => asked number ∧ more value number) :
    ∃ next, withKeyword description.entries keyword schema apply = .ok next ∧
      next.IsBounded kind inner whole fun number =>
        asked number ∧ ∀ value, description.member? keyword = some value → more value number := by
  rw [withKeyword, field_entries]
  cases found : description.member? keyword with
  | none => exact ⟨schema, rfl, bounded.congr fun number => by simp⟩
  | some value =>
    obtain ⟨next, made, adds⟩ := each value found
    exact ⟨next, made, adds.congr fun number => by simp⟩

/-- A size, which the loader makes an integer of. -/
theorem withSize_bounded (adds : Schema.Adds limited related)
    (bounded : schema.IsBounded kind inner whole asked) (isSize : description.HasSize keyword) :
    ∃ next, withKeyword description.entries keyword schema
        (fun schema bound => do pure (limited schema (.int (← bound.toInteger)))) = .ok next ∧
      next.IsBounded kind inner whole fun number => asked number ∧
        ∀ value, description.member? keyword = some value → related value.rational? number := by
  refine withKeyword_bounded bounded fun value found => ?_
  obtain ⟨size, isNumber⟩ := isSize value found
  have isLimit : (Value.int size).toExtended? = some (.rational (size : Rat)) := rfl
  refine ⟨limited schema (.int size), ?_, ?_⟩
  · rw [Value.toInteger_ofJson isNumber]
    rfl
  · rw [isNumber]
    exact adds.bounded bounded isLimit

/-- A least and a greatest size. -/
theorem withSizes_bounded (bounded : schema.IsBounded kind inner whole asked)
    {first second : String} (least : description.HasSize first)
    (most : description.HasSize second) :
    ∃ lower upper, withKeyword description.entries first schema atLeast = .ok lower ∧
      withKeyword description.entries second lower atMost = .ok upper ∧
        upper.IsBounded kind inner whole fun number => (asked number ∧
          ∀ value, description.member? first = some value →
            Json.Limits true value.rational? (some number)) ∧
          ∀ value, description.member? second = some value →
            Json.Limits true (some number) value.rational? := by
  obtain ⟨lower, isLower, lowerBounded⟩ := withSize_bounded (Schema.min_adds true) bounded least
  obtain ⟨upper, isUpper, upperBounded⟩ := withSize_bounded (Schema.max_adds true) lowerBounded most
  exact ⟨lower, upper, isLower, isUpper, upperBounded⟩

/-- A number as a bound. -/
theorem withBound_bounded (adds : Schema.Adds limited related)
    (bounded : schema.IsBounded kind inner whole asked) (isBound : description.HasBound keyword) :
    ∃ next, withKeyword description.entries keyword schema
        (fun schema bound => pure (limited schema bound)) = .ok next ∧
      next.IsBounded kind inner whole fun number => asked number ∧
        ∀ value, description.member? keyword = some value → related value.rational? number := by
  refine withKeyword_bounded bounded fun value found => ?_
  obtain ⟨limit, isLimit⟩ := isBound value found
  rw [isLimit]
  exact ⟨_, rfl, adds.bounded bounded (Value.toExtended_ofJson isLimit)⟩

/-- What the loader takes for an exclusive bound is the bound that is meant. -/
theorem exclusiveBound_eq {plain exclusive : String} (isBound : description.HasBound plain)
    (isExclusive : description.HasExclusiveBound exclusive) :
    (exclusiveBound? description.entries plain exclusive = none ∧
        ∀ value, description.member? exclusive = some value →
          description.exclusive? plain value = none) ∨
      ∃ bound limit, exclusiveBound? description.entries plain exclusive = some bound ∧
        bound.toExtended? = some (.rational limit) ∧ ∃ value,
          description.member? exclusive = some value ∧
            description.exclusive? plain value = some limit := by
  cases found : description.member? exclusive with
  | none =>
    rw [exclusiveBound?, get_missing found]
    exact .inl ⟨rfl, nofun⟩
  | some value =>
    rw [exclusiveBound?, get_entries found, field_entries]
    rcases isExclusive value found with ⟨limit, isLimit⟩ | ⟨truth, rfl⟩
    · refine .inr ⟨.ofJson value, limit, ?_, Value.toExtended_ofJson isLimit, value, rfl, ?_⟩
      · cases value with
        | int _ | float _ => rfl
        | _ => cases isLimit
      · cases value with
        | int _ | float _ => exact isLimit
        | _ => cases isLimit
    · cases truth with
      | false =>
        refine .inl ⟨rfl, fun value same => ?_⟩
        cases same
        rfl
      | true =>
        cases given : description.member? plain with
        | none =>
          refine .inl ⟨rfl, fun value same => ?_⟩
          cases same
          simp [Json.exclusive?, given]
        | some bound =>
          obtain ⟨limit, isLimit⟩ := isBound bound given
          refine .inr ⟨.ofJson bound, limit, rfl, Value.toExtended_ofJson isLimit, _, rfl, ?_⟩
          simp [Json.exclusive?, given, isLimit]

/-- An exclusive bound, which may be the plain one. -/
theorem withExclusive_bounded (adds : Schema.Adds limited related)
    (bounded : schema.IsBounded kind inner whole asked) {plain exclusive : String}
    (isBound : description.HasBound plain) (isExclusive : description.HasExclusiveBound exclusive) :
    (((exclusiveBound? description.entries plain exclusive).map (limited schema)).getD
        schema).IsBounded kind inner whole fun number => asked number ∧
      ∀ value, description.member? exclusive = some value →
        related (description.exclusive? plain value) number := by
  rcases exclusiveBound_eq isBound isExclusive with
    ⟨none, unbounded⟩ | ⟨bound, limit, found, isLimit, value, given, isExclusive⟩
  · rw [none]
    refine bounded.congr fun number => (and_iff_left fun value found => ?_).symm
    rw [unbounded value found]
    exact adds.free number
  · rw [found]
    refine (adds.bounded bounded isLimit).congr fun number => ?_
    simp [given, isExclusive]

end Bounds

end Document

end Specimen
