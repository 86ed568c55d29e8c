/-
**Samples of numeric documents.**

The loader adds a check for each of the four keywords that bound a number, first the plain ones and
then the exclusive ones. Validation looks at every check, but generation only at the last one of
each side, so an exclusive bound takes the place of a plain one even where the plain one is
stricter. Samples are drawn from the integers between the bounds that are left
(`Document.generate_lastBounds`). They conform to the document if no plain bound is stricter than
the exclusive one beside it (`Document.generate_numeric`), and need not if one is
(`Document.generate_not_numeric`).
-/

import Specimen.Proofs.Faithfulness
import Specimen.Proofs.Intervals
import Specimen.Proofs.Making

namespace Specimen

open Run (Gives)

/-! ### Numeric documents -/

namespace Json

/-- The keyword has an integer or a boolean for its value, if it is there. -/
def HasExclusiveSize (description : Json) (keyword : String) : Prop :=
  ∀ value, description.member? keyword = some value →
    (∃ size : Int, value.rational? = some (size : Rat)) ∨ ∃ truth, value = .bool truth

/-- The description is of integers or of numbers, between integers, and has no default. -/
structure IsNumeric (description : Json) : Prop where
  type : ∃ type ∈ ["integer", "number"], description.member? "type" = some (.text type)
  only : description.HasOnly
    ["type", "minimum", "maximum", "exclusiveMinimum", "exclusiveMaximum"]
  noDefault : description.member? "default" = none
  minimum : description.HasSize "minimum"
  maximum : description.HasSize "maximum"
  above : description.HasExclusiveSize "exclusiveMinimum"
  below : description.HasExclusiveSize "exclusiveMaximum"

/-- The number that a keyword gives as a bound. -/
def bound? (description : Json) (keyword : String) : Option Rat :=
  (description.member? keyword).bind rational?

/-- The number that a keyword gives as an exclusive bound: its own, or that of the plain keyword. -/
def exclusiveBound? (description : Json) (plain exclusive : String) : Option Rat :=
  (description.member? exclusive).bind (description.exclusive? plain)

/-- The bound of two keywords that is left: the exclusive one, if there is one. -/
def lastBound? (description : Json) (plain exclusive : String) : Option Rat :=
  (description.exclusiveBound? plain exclusive).or (description.bound? plain)

/-- Is the bound that is left included? -/
def includesLast (description : Json) (plain exclusive : String) : Bool :=
  (description.exclusiveBound? plain exclusive).isNone

/-- The number is between the bounds that are left. -/
structure IsInLastBounds (description : Json) (number : Int) : Prop where
  above : Limits (description.includesLast "minimum" "exclusiveMinimum")
    (description.lastBound? "minimum" "exclusiveMinimum") (some number)
  below : Limits (description.includesLast "maximum" "exclusiveMaximum") (some number)
    (description.lastBound? "maximum" "exclusiveMaximum")

/-- No plain bound is stricter than the exclusive one beside it. -/
structure HasStrictLast (description : Json) : Prop where
  lower : ∀ low other, description.bound? "minimum" = some low →
    description.exclusiveBound? "minimum" "exclusiveMinimum" = some other → low ≤ other + 1
  upper : ∀ high other, description.bound? "maximum" = some high →
    description.exclusiveBound? "maximum" "exclusiveMaximum" = some other → other - 1 ≤ high

variable {description root : Json} {keyword plain exclusive : String}

theorem HasSize.hasBound (isSize : description.HasSize keyword) : description.HasBound keyword :=
  fun value found => (isSize value found).imp' _ fun _ same => same

theorem HasExclusiveSize.hasBound (isSize : description.HasExclusiveSize keyword) :
    description.HasExclusiveBound keyword :=
  fun value found => (isSize value found).imp_left fun same => same.imp' _ fun _ same => same

/-- A size is an integer. -/
theorem HasSize.bound_eq {limit : Rat} (isSize : description.HasSize keyword)
    (found : description.bound? keyword = some limit) : ∃ size : Int, limit = size := by
  obtain ⟨value, given, isLimit⟩ := Option.bind_eq_some_iff.1 found
  obtain ⟨size, same⟩ := isSize value given
  exact ⟨size, Option.some.inj (isLimit.symm.trans same)⟩

/-- The bound of an exclusive keyword is an integer, or the plain one. -/
theorem HasExclusiveSize.bound_eq {limit : Rat} (isSize : description.HasSize plain)
    (isExclusive : description.HasExclusiveSize exclusive)
    (found : description.exclusiveBound? plain exclusive = some limit) :
    ∃ size : Int, limit = size := by
  obtain ⟨value, given, isLimit⟩ := Option.bind_eq_some_iff.1 found
  rcases isExclusive value given with ⟨size, same⟩ | ⟨truth, rfl⟩
  · have own : description.exclusive? plain value = value.rational? := by
      cases value with
      | bool truth => cases same
      | _ => rfl
    exact ⟨size, Option.some.inj (isLimit.symm.trans (own.trans same))⟩
  · cases truth with
    | false => cases isLimit
    | true => exact isSize.bound_eq isLimit

/-- What is asked by a keyword that may not be there. -/
theorem forall_bind_iff {found : Option Json} {limit : Json → Option Rat}
    (asks : Option Rat → Prop) (free : asks none) :
    (∀ value, found = some value → asks (limit value)) ↔ asks (found.bind limit) := by
  cases found with
  | none => exact ⟨fun _ => free, fun _ => nofun⟩
  | some value =>
    exact ⟨fun each => each value rfl, fun holds other same => Option.some.inj same ▸ holds⟩

/-- An integer conforms to a numeric description if it is within all of its bounds. -/
theorem IsNumeric.conforms_iff (numeric : description.IsNumeric) (number : Int) :
    root.Conforms description (.int number) ↔
      Limits true (description.bound? "minimum") (some (number : Rat)) ∧
      Limits true (some (number : Rat)) (description.bound? "maximum") ∧
      Limits false (description.exclusiveBound? "minimum" "exclusiveMinimum")
        (some (number : Rat)) ∧
      Limits false (some (number : Rat))
        (description.exclusiveBound? "maximum" "exclusiveMaximum") := by
  obtain ⟨type, isNumeric, isType⟩ := numeric.type
  have typed : MeetsKeyword root root.Conforms description (.int number) "type" (.text type) := by
    refine ⟨type, .inl rfl, ?_⟩
    simp only [List.mem_cons, List.not_mem_nil, or_false] at isNumeric
    rcases isNumeric with rfl | rfl
    · exact ⟨number, rfl⟩
    · exact ⟨number, rfl⟩
  have lower : ∀ inclusive, Limits inclusive none (some (number : Rat)) :=
    fun _ => limits_none_left
  have upper : ∀ inclusive, Limits inclusive (some (number : Rat)) none :=
    fun _ => limits_none_right
  rw [numeric.only.conforms_iff, List.forall_mem_cons, forall_member_iff isType,
    and_iff_right typed, List.forall_mem_cons, List.forall_mem_cons, List.forall_mem_cons,
    List.forall_mem_singleton]
  exact .and (forall_bind_iff (Limits true · _) (lower _))
    (.and (forall_bind_iff (Limits true _) (upper _))
      (.and (forall_bind_iff (Limits false · _) (lower _))
        (forall_bind_iff (Limits false _) (upper _))))

/-- Of two bounds only the one that is left asks anything, if it implies the other one. -/
theorem asks_last_iff (asks : Bool → Option Rat → Prop) (free : ∀ inclusive, asks inclusive none)
    {bound other : Option Rat} (nested : ∀ limit last, bound = some limit → other = some last →
      asks false (some last) → asks true (some limit)) :
    asks other.isNone (other.or bound) ↔ asks true bound ∧ asks false other := by
  cases other with
  | none => exact ⟨fun holds => ⟨holds, free false⟩, fun holds => holds.1⟩
  | some last =>
    refine ⟨fun holds => ⟨?_, holds⟩, fun holds => holds.2⟩
    cases bound with
    | none => exact free true
    | some limit => exact nested limit last rfl rfl holds

section Strict

variable (numeric : description.IsNumeric) (strict : description.HasStrictLast) (number : Int)
include numeric strict

/-- The last lower bound says what both of them say, if the exclusive one is not the weaker one. -/
theorem IsNumeric.lower_iff :
    Limits (description.includesLast "minimum" "exclusiveMinimum")
        (description.lastBound? "minimum" "exclusiveMinimum") (some (number : Rat)) ↔
      Limits true (description.bound? "minimum") (some (number : Rat)) ∧
        Limits false (description.exclusiveBound? "minimum" "exclusiveMinimum")
          (some (number : Rat)) := by
  refine asks_last_iff (Limits · · (some (number : Rat))) (fun _ => limits_none_left) ?_
  intro limit last isLimit isLast holds
  have step := strict.lower limit last isLimit isLast
  obtain ⟨low, rfl⟩ := numeric.minimum.bound_eq isLimit
  obtain ⟨above, rfl⟩ := HasExclusiveSize.bound_eq numeric.minimum numeric.above isLast
  have greater : (above : Rat) < number := limits_iff.1 holds
  have next : above + 1 ≤ number := by exact_mod_cast greater
  exact limits_iff.2 (step.trans (by exact_mod_cast next))

/-- The last upper bound says what both of them say, if the exclusive one is not the weaker one. -/
theorem IsNumeric.upper_iff :
    Limits (description.includesLast "maximum" "exclusiveMaximum") (some (number : Rat))
        (description.lastBound? "maximum" "exclusiveMaximum") ↔
      Limits true (some (number : Rat)) (description.bound? "maximum") ∧
        Limits false (some (number : Rat))
          (description.exclusiveBound? "maximum" "exclusiveMaximum") := by
  refine asks_last_iff (Limits · (some (number : Rat))) (fun _ => limits_none_right) ?_
  intro limit last isLimit isLast holds
  have step := strict.upper limit last isLimit isLast
  obtain ⟨high, rfl⟩ := numeric.maximum.bound_eq isLimit
  obtain ⟨below, rfl⟩ := HasExclusiveSize.bound_eq numeric.maximum numeric.below isLast
  have less : (number : Rat) < below := limits_iff.1 holds
  have next : number ≤ below - 1 := Int.le_sub_one_of_lt (by exact_mod_cast less)
  exact limits_iff.2 (le_trans (by exact_mod_cast next) step)

/-- Where no plain bound is stricter than the exclusive one beside it, the bounds that are left ask
for all of them. -/
theorem IsNumeric.isInLastBounds_iff :
    description.IsInLastBounds number ↔ root.Conforms description (.int number) := by
  have lower := numeric.lower_iff strict number
  have upper := numeric.upper_iff strict number
  rw [numeric.conforms_iff]
  constructor
  · rintro ⟨above, below⟩
    exact ⟨(lower.1 above).1, (upper.1 below).1, (lower.1 above).2, (upper.1 below).2⟩
  · rintro ⟨minimum, maximum, above, below⟩
    exact ⟨lower.2 ⟨minimum, above⟩, upper.2 ⟨maximum, below⟩⟩

end Strict

end Json

/-! ### Loading -/

namespace Document

variable {root description : Json}

/-- The bounds of a numeric schema: those of its last checks, the exclusive ones where there are
any. -/
theorem buildNumber_bounds (integral : Bool) (entries : Entries) :
    ∃ schema, buildNumber integral entries = .ok schema ∧ schema.kind = .number ∧
      NumberBounds.ofChecks schema.checks =
        { min := ((exclusiveBound? entries "minimum" "exclusiveMinimum").or
            (Value.field? entries "minimum")).bind Value.nonNull?
          max := ((exclusiveBound? entries "maximum" "exclusiveMaximum").or
            (Value.field? entries "maximum")).bind Value.nonNull?
          minInclusive := (exclusiveBound? entries "minimum" "exclusiveMinimum").isNone
          maxInclusive := (exclusiveBound? entries "maximum" "exclusiveMaximum").isNone
          integer := integral } := by
  unfold buildNumber withKeyword
  cases Value.field? entries "minimum" <;> cases Value.field? entries "maximum" <;>
    cases exclusiveBound? entries "minimum" "exclusiveMinimum" <;>
    cases exclusiveBound? entries "maximum" "exclusiveMaximum" <;> cases integral <;>
    exact ⟨_, rfl, rfl, rfl⟩

section Bounds

variable {keyword plain exclusive : String} (isBound : description.HasBound plain)
include isBound

/-- A bound as it is read denotes the number that the description states. -/
theorem field_denotes :
    Option.Rel Value.Denotes (Value.field? description.entries plain)
      (description.bound? plain) := by
  rw [field_entries, Json.bound?]
  cases found : description.member? plain with
  | none => exact .none
  | some value =>
    obtain ⟨limit, isLimit⟩ := isBound value found
    simp only [Option.map_some, Option.bind_some, isLimit]
    exact .some (Value.toExtended_ofJson isLimit)

variable (isExclusive : description.HasExclusiveBound exclusive)
include isExclusive

/-- An exclusive bound as it is read denotes the number that the description states. -/
theorem exclusiveBound_denotes :
    Option.Rel Value.Denotes (exclusiveBound? description.entries plain exclusive)
      (description.exclusiveBound? plain exclusive) := by
  rcases exclusiveBound_eq isBound isExclusive with
    ⟨missing, unbounded⟩ | ⟨bound, limit, found, isLimit, value, given, isOther⟩
  · have absent : description.exclusiveBound? plain exclusive = none :=
      Option.bind_eq_none_iff.2 unbounded
    rw [missing, absent]
    exact .none
  · have present : description.exclusiveBound? plain exclusive = some limit :=
      Option.bind_eq_some_iff.2 ⟨value, given, isOther⟩
    rw [found, present]
    exact .some isLimit

/-- The bound that generation looks at is the one that is left. -/
theorem lastBound_denotes :
    Option.Rel Value.Denotes
        (((exclusiveBound? description.entries plain exclusive).or
          (Value.field? description.entries plain)).bind Value.nonNull?)
        (description.lastBound? plain exclusive) ∧
      (exclusiveBound? description.entries plain exclusive).isNone =
        description.includesLast plain exclusive := by
  have given : ∀ {bound : Option Value} {limit : Option Rat}, Option.Rel Value.Denotes bound limit →
      Option.Rel Value.Denotes (bound.bind Value.nonNull?) limit := by
    intro bound limit related
    cases related with
    | none => exact .none
    | some isLimit =>
      rw [Option.bind_some, Value.nonNull_of_rational isLimit]
      exact .some isLimit
  have plainly := field_denotes isBound
  have exclusively := exclusiveBound_denotes isBound isExclusive
  unfold Json.lastBound? Json.includesLast
  revert exclusively
  cases exclusiveBound? description.entries plain exclusive <;>
    cases description.exclusiveBound? plain exclusive <;> intro exclusively
  · exact ⟨given plainly, rfl⟩
  · cases exclusively
  · cases exclusively
  · exact ⟨given exclusively, rfl⟩

end Bounds

/-- A numeric schema has the bounds that are left of the four keywords. -/
theorem buildNumber_admits (numeric : description.IsNumeric) (integral : Bool) :
    ∃ schema, buildNumber integral description.entries = .ok schema ∧ schema.kind = .number ∧
      ∃ lower upper, (NumberBounds.ofChecks schema.checks).Denote lower upper ∧
        ∀ number, (NumberBounds.ofChecks schema.checks).Admit lower upper number ↔
          description.IsInLastBounds number := by
  obtain ⟨schema, made, kind, bounds⟩ := buildNumber_bounds integral description.entries
  obtain ⟨lower, above⟩ := lastBound_denotes numeric.minimum.hasBound numeric.above.hasBound
  obtain ⟨upper, below⟩ := lastBound_denotes numeric.maximum.hasBound numeric.below.hasBound
  refine ⟨schema, made, kind, description.lastBound? "minimum" "exclusiveMinimum",
    description.lastBound? "maximum" "exclusiveMaximum", ?_⟩
  rw [bounds, above, below]
  refine ⟨⟨lower, upper⟩, fun number => ?_⟩
  exact ⟨fun within => ⟨within.above, within.below⟩, fun within => ⟨within.above, within.below⟩⟩

/-- A numeric document is loaded. -/
theorem load_numeric (sound : root.IsDocument) (numeric : root.IsNumeric) :
    ∃ schema, loadSchema (.ofJson root) .null = .ok schema ∧ schema.kind = .number ∧
      ∃ lower upper, (NumberBounds.ofChecks schema.checks).Denote lower upper ∧
        ∀ number, (NumberBounds.ofChecks schema.checks).Admit lower upper number ↔
          root.IsInLastBounds number := by
  obtain ⟨type, isNumeric, isType⟩ := numeric.type
  have other : ∀ keyword ∈ deciding, keyword ∉ ["type", "minimum", "maximum", "exclusiveMinimum",
      "exclusiveMaximum"] ++ Json.annotations := by decide
  have typed : ∃ integral, ∀ build, buildByType build root.entries =
      buildNumber integral root.entries := by
    simp only [List.mem_cons, List.not_mem_nil, or_false] at isNumeric
    rcases isNumeric with rfl | rfl
    · exact ⟨true, fun build => by rw [buildByType, get_entries isType]; rfl⟩
    · exact ⟨false, fun build => by rw [buildByType, get_entries isType]; rfl⟩
  obtain ⟨integral, isNumber⟩ := typed
  obtain ⟨schema, made, kind, lower, upper, denote, admits⟩ := buildNumber_admits numeric integral
  refine ⟨annotate root.entries schema, ?_, ?_, lower, upper, ?_⟩
  · rw [loadSchema, ofValue_eq sound]
    refine buildWithin_succ isType ?_
    rw [buildBare_byType numeric.only other, isNumber, made]
  · rw [(annotate_keeps numeric.noDefault).1, kind]
  · rw [(annotate_keeps numeric.noDefault).2]
    exact ⟨denote, admits⟩

end Document

/-! ### Generation -/

/-- A numeric schema that no function of the caller fills gives a number within its bounds, or is
absent exactly if there is none. -/
theorem generate_number {environment : Environment} {schema : Schema} (kind : schema.kind = .number)
    {lower upper : Option Rat} (denote : (NumberBounds.ofChecks schema.checks).Denote lower upper)
    {context : Context} (plain : context.overrides = []) :
    Gives (generate environment schema context)
      (Value.IsWanted ((NumberBounds.ofChecks schema.checks).Admit lower upper)) := by
  have decided := Make.number_decides denote context
  refine generate_gives_of_builtin plain (fun lower parts => ?_) decided
  rw [Make.builtin?, kind]

namespace Document

variable {root : Json}

/-- Samples of a numeric document are drawn from the bounds that are left of its keywords. -/
theorem generate_lastBounds (sound : root.IsDocument) (numeric : root.IsNumeric) :
    ∃ schema, loadSchema (.ofJson root) .null = .ok schema ∧
      ∀ environment context, context.overrides = [] →
        Gives (generate environment schema context) (Value.IsWanted root.IsInLastBounds) := by
  obtain ⟨schema, loaded, kind, lower, upper, denote, admits⟩ := load_numeric sound numeric
  refine ⟨schema, loaded, fun environment context plain => ?_⟩
  exact (generate_number kind denote plain).mono fun value found => found.congr admits

/-- **Samples of a numeric document are integers within the bounds that are left of its keywords,
and absent exactly if there are none.** They conform to the document, and are absent exactly if no
integer does, where no plain bound is stricter than the exclusive one beside it. -/
theorem generate_numeric (sound : root.IsDocument) (numeric : root.IsNumeric) :
    ∃ schema, loadSchema (.ofJson root) .null = .ok schema ∧
      ∀ environment context, context.overrides = [] →
        Gives (generate environment schema context) fun value =>
          value.IsWanted root.IsInLastBounds ∧
          (root.HasStrictLast → value.IsWanted fun number => root.Conforms root (.int number)) := by
  obtain ⟨schema, loaded, gives⟩ := generate_lastBounds sound numeric
  refine ⟨schema, loaded, fun environment context plain => ?_⟩
  refine (gives environment context plain).mono fun value found => ⟨found, fun strict => ?_⟩
  exact found.congr (numeric.isInLastBounds_iff strict)

/-- A document without definitions. -/
theorem isDocument_of_members {members : List (String × Json)}
    (free : ∀ member ∈ members, member.1 ∉ ["components", "definitions", "$defs"]) :
    (Json.object members).IsDocument := by
  have missing : ∀ place ∈ ["components", "definitions", "$defs"], members.lookup place = none :=
    fun place mem => by
      rw [List.lookup_eq_none_iff]
      intro member listed
      rw [bne_iff_ne]
      exact fun same => free member listed (same ▸ mem)
  simp only [List.forall_mem_cons] at missing
  obtain ⟨components, legacy, current, _⟩ := missing
  have noDefinitions : (Json.object members).definitions = [] := by
    simp [Json.definitions, Json.places, Json.atPlace, Json.member?, Json.members, components,
      legacy, current]
  refine ⟨⟨members, rfl⟩, ?_, ?_, ?_, ?_, ?_⟩
  · simp [Json.atPlace, Json.member?, Json.members, components, legacy, current]
  all_goals simp [noDefinitions]

/-! ### Two documents -/

/-- Some numbers from four to eight, with a lower bound that is left out. -/
def fromFour : Json :=
  .object [("type", .text "number"), ("exclusiveMaximum", .bool true), ("minimum", .int 1),
    ("maximum", .int 9), ("exclusiveMinimum", .int 3)]

theorem fromFour_isNumeric : fromFour.IsNumeric where
  type := ⟨"number", by decide, rfl⟩
  only := .of_members (by decide)
  noDefault := rfl
  minimum _ found := by cases found; exact ⟨1, rfl⟩
  maximum _ found := by cases found; exact ⟨9, rfl⟩
  above _ found := by cases found; exact .inl ⟨3, rfl⟩
  below _ found := by cases found; exact .inr ⟨true, rfl⟩

theorem fromFour_hasStrictLast : fromFour.HasStrictLast where
  lower low other isLow isOther := by
    cases isLow
    cases isOther
    norm_num
  upper high other isHigh isOther := by
    cases isHigh
    cases isOther
    norm_num

/-- The document of four keywords describes the numbers from four to eight. -/
theorem conforms_fromFour (number : Int) :
    fromFour.Conforms fromFour (.int number) ↔ 3 < number ∧ number < 9 := by
  have minimum : fromFour.bound? "minimum" = some ((1 : Int) : Rat) := rfl
  have maximum : fromFour.bound? "maximum" = some ((9 : Int) : Rat) := rfl
  have above : fromFour.exclusiveBound? "minimum" "exclusiveMinimum" = some ((3 : Int) : Rat) := rfl
  have below : fromFour.exclusiveBound? "maximum" "exclusiveMaximum" = some ((9 : Int) : Rat) := rfl
  rw [fromFour_isNumeric.conforms_iff, minimum, maximum, above, below]
  simp only [Json.limits_iff, Within, if_true, Bool.false_eq_true, if_false, Int.cast_le,
    Int.cast_lt]
  omega

/-- All samples of the document conform to it. -/
theorem fromFour_generates : fromFour.IsDocument ∧ fromFour.IsNumeric ∧ fromFour.HasStrictLast ∧
    ∃ schema, loadSchema (.ofJson fromFour) .null = .ok schema ∧
      ∀ environment context, context.overrides = [] →
        Gives (generate environment schema context) fun value =>
          ∃ number : Int, value = .int number ∧ 3 < number ∧ number < 9 := by
  have sound : fromFour.IsDocument := isDocument_of_members (by decide)
  obtain ⟨schema, loaded, gives⟩ := generate_numeric sound fromFour_isNumeric
  refine ⟨sound, fromFour_isNumeric, fromFour_hasStrictLast, schema, loaded,
    fun environment context plain => ?_⟩
  refine (gives environment context plain).mono fun value found => ?_
  rcases found.2 fromFour_hasStrictLast with ⟨number, isNumber, conforms⟩ | ⟨_, none⟩
  · exact ⟨number, isNumber, (conforms_fromFour number).1 conforms⟩
  · exact absurd ((conforms_fromFour 4).2 (by decide)) (none 4)

/-- No number is at least five and at most one; the exclusive bound only seems to leave room. -/
def crossed : Json :=
  .object [("type", .text "integer"), ("minimum", .int 5), ("maximum", .int 1),
    ("exclusiveMinimum", .int 0)]

theorem crossed_isNumeric : crossed.IsNumeric where
  type := ⟨"integer", by decide, rfl⟩
  only := .of_members (by decide)
  noDefault := rfl
  minimum _ found := by cases found; exact ⟨5, rfl⟩
  maximum _ found := by cases found; exact ⟨1, rfl⟩
  above _ found := by cases found; exact .inl ⟨0, rfl⟩
  below _ found := by cases found

theorem crossed_isInLastBounds (number : Int) : crossed.IsInLastBounds number ↔ number = 1 := by
  have above : Json.Limits false (some ((0 : Int) : Rat)) (some (number : Rat)) ↔ 0 < number := by
    simp [Json.limits_iff, Within]
  have below : Json.Limits true (some (number : Rat)) (some ((1 : Int) : Rat)) ↔ number ≤ 1 := by
    simp only [Json.limits_iff, Within, if_true, Int.cast_le]
  constructor
  · rintro ⟨lower, upper⟩
    have least := above.1 lower
    have greatest := below.1 upper
    omega
  · rintro rfl
    exact ⟨above.2 (by decide), below.2 (by decide)⟩

/-- **An exclusive bound hides a plain one.** Nothing conforms to the document, yet every sample of
it is one. -/
theorem generate_not_numeric :
    (∀ number : Int, ¬ crossed.Conforms crossed (.int number)) ∧
      ∃ schema, loadSchema (.ofJson crossed) .null = .ok schema ∧
        ∀ environment context, context.overrides = [] →
          Gives (generate environment schema context) (· = .int 1) := by
  have sound : crossed.IsDocument := isDocument_of_members (by decide)
  obtain ⟨schema, loaded, gives⟩ := generate_lastBounds sound crossed_isNumeric
  refine ⟨fun number conforms => ?_, schema, loaded, fun environment context plain => ?_⟩
  · have minimum : crossed.bound? "minimum" = some ((5 : Int) : Rat) := rfl
    have maximum : crossed.bound? "maximum" = some ((1 : Int) : Rat) := rfl
    rw [crossed_isNumeric.conforms_iff, minimum, maximum] at conforms
    simp only [Json.limits_iff, Within, if_true, Int.cast_le] at conforms
    omega
  · refine (gives environment context plain).mono fun value found => ?_
    rcases found with ⟨number, isNumber, within⟩ | ⟨_, none⟩
    · rw [isNumber, (crossed_isInLastBounds number).1 within]
    · exact absurd ((crossed_isInLastBounds 1).2 rfl) (none 1)

end Document

end Specimen
