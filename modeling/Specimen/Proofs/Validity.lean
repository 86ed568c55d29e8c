/-
**Samples of sound schemas are valid.**

Generation and validation are two readings of a schema that know nothing of each other. For a sound
schema with levels enough they agree (`generate_valid`): whatever the session, a sample is made, and
validation has no issue with it. The proof is an induction on the height of schemas, with a lemma
for every kind of node; what is known of samples is `Schema.Fits`.
-/

import Specimen.Proofs.Completeness
import Specimen.Proofs.Fragment
import Specimen.Proofs.Matching
import Specimen.Proofs.Numbered

namespace Specimen

open Run (Yields Gives)

namespace Schema

/-! ### Samples that fit -/

/-- What is known of the samples of a sound schema. -/
structure Fits (environment : Environment) (schema : Schema) (value : Value) : Prop where
  accepted : Judge.Accepts (validate environment.definitions schema) value
  present : schema.IsPresent environment → value ≠ .absent
  entries : schema.kind = .object → ∃ entries, value = .dictionary entries ∧
    Value.EntriesOf
      (fun field value => Judge.Accepts (validate environment.definitions field.2) value)
      (schema.fields.getD []) entries

/-- What fits is accepted. -/
theorem Fits.accepts (environment : Environment) (schema : Schema) (value : Value)
    (fits : schema.Fits environment value) :
    Judge.Accepts (validate environment.definitions schema) value := fits.accepted

variable {environment : Environment} {schema : Schema}

/-- Schemas of some kinds may have absent samples. -/
theorem IsPresent.kind_ne (present : schema.IsPresent environment) :
    schema.kind ∉ [.any, .unknown, .effects, .void, .undefined] := by
  cases present with
  | own refuses =>
    intro mem
    simp only [List.mem_cons, List.not_mem_nil, or_false] at mem
    rcases mem with kind | kind | kind | kind | kind <;> rw [kind] at refuses <;> cases refuses
  | wrapped kind => rcases kind with kind | kind <;> simp [kind]
  | default kind | union kind | intersection kind => simp [kind]
  | lazy stands => simp [stands.kind]

variable {context : Context} {left : Nat} (has : context.HasLevels left)
variable (lenient : context.IsLenient)

include has lenient

/-- A sample fits if the rule of the node makes values that fit. -/
theorem fits_of_rule {property : Value → Prop} {rule : Make} (made : Gives (rule context) property)
    (builtin : Make.builtin? environment (generate environment) schema
      (schema.parts (generate environment)) = some rule)
    (fits : ∀ value, property value → schema.Fits environment value) :
    Gives (generate environment schema context) (schema.Fits environment) := by
  rw [generate_eq has]
  exact (Make.ofNode_gives lenient.overrides builtin made).mono fits

/-- A sample fits if the rule of the node makes values that its judge accepts. -/
theorem fits_of_made {judge : Judge} {rule : Make}
    (made : Gives (rule context) fun value => judge.Accepts value ∧ value ≠ .absent)
    (builtin : Make.builtin? environment (generate environment) schema
      (schema.parts (generate environment)) = some rule)
    (asks : Judge.ofKind environment.definitions (validate environment.definitions) schema
      (schema.parts (validate environment.definitions)) = judge)
    (other : schema.kind ≠ .object) :
    Gives (generate environment schema context) (schema.Fits environment) :=
  fits_of_rule has lenient made builtin fun _ ⟨accepted, present⟩ =>
    ⟨validate_accepts (.inl present) (asks ▸ accepted), fun _ => present,
      fun kind => absurd kind other⟩

/-! ### Leaves -/

/-- A text fits if something is picked for the field and its length can be as asked. -/
theorem string_fits {low : Nat} {high : Option Nat} (kind : schema.kind = .string)
    (sizes : Check.Sizes schema.checks low high) (picks : context.Picks environment)
    (words : environment.HasWords) (unmapped : context.stringMap = []) :
    Gives (generate environment schema context) (schema.Fits environment) := by
  have text := TextSynthesis.make_gives sizes unmapped picks.named
    (TextSynthesis.rawText_gives words picks)
  have made : Gives (TextSynthesis.make environment schema.checks context) fun value =>
      (Judge.string schema.checks).Accepts value ∧ value ≠ .absent :=
    text.mono fun value ⟨text, isText, between⟩ => isText ▸ ⟨Judge.string_accepts sizes between, nofun⟩
  exact fits_of_made has lenient made (by rw [Make.builtin?, kind]) (by rw [Judge.ofKind, kind])
    (by rw [kind]; nofun)

/-- A number fits if there is an integer within its bounds, and it is moderate where it has to be
whole. -/
theorem number_fits (kind : schema.kind = .number) (numbers : Check.Numbers schema.checks)
    (moderate : .integer ∈ schema.checks → Check.Numbers.AreBelow moderateBound schema.checks) :
    Gives (generate environment schema context) (schema.Fits environment) := by
  have made : Gives (Make.number schema.checks context) fun value =>
      (Judge.number schema.checks).Accepts value ∧ value ≠ .absent := by
    refine (Make.number_gives numbers context).mono fun value ⟨drawn, isInt, admits, bounded⟩ => ?_
    rw [isInt]
    refine ⟨fun path => Judge.number_accepts admits path fun asked => ?_, nofun⟩
    exact isWhole_of_moderate (moderateBound_lt (bounded moderateBound (moderate asked)))
  exact fits_of_made has lenient made (by rw [Make.builtin?, kind]) (by rw [Judge.ofKind, kind])
    (by rw [kind]; nofun)

theorem bigint_fits (kind : schema.kind = .bigint) (numbers : Check.Numbers schema.checks) :
    Gives (generate environment schema context) (schema.Fits environment) := by
  have made : Gives (Make.number schema.checks context) fun value =>
      (Judge.bigint schema.checks).Accepts value ∧ value ≠ .absent :=
    (Make.number_gives numbers context).mono fun value ⟨drawn, isInt, admits, _⟩ =>
      isInt ▸ ⟨Judge.bigint_accepts admits, nofun⟩
  exact fits_of_made has lenient made (by rw [Make.builtin?, kind]) (by rw [Judge.ofKind, kind])
    (by rw [kind]; nofun)

theorem boolean_fits (kind : schema.kind = .boolean) :
    Gives (generate environment schema context) (schema.Fits environment) := by
  have made : Gives (Make.boolean context) fun value =>
      Judge.boolean.Accepts value ∧ value ≠ .absent :=
    Draw.boolean_gives.bind fun drawn _ => Gives.pure ⟨fun path => rfl, nofun⟩
  exact fits_of_made has lenient made (by rw [Make.builtin?, kind]) (by rw [Judge.ofKind, kind])
    (by rw [kind]; nofun)

theorem null_fits (kind : schema.kind = .null) :
    Gives (generate environment schema context) (schema.Fits environment) := by
  have made : Gives (Make.constant .null context) fun value =>
      Judge.null.Accepts value ∧ value ≠ .absent := Gives.pure ⟨fun path => rfl, nofun⟩
  exact fits_of_made has lenient made (by rw [Make.builtin?, kind]) (by rw [Judge.ofKind, kind])
    (by rw [kind]; nofun)

theorem nan_fits (kind : schema.kind = .nan) :
    Gives (generate environment schema context) (schema.Fits environment) := by
  have made : Gives (Make.nan context) fun value => Judge.nan.Accepts value ∧ value ≠ .absent :=
    Gives.fresh.bind fun identity _ => Gives.pure ⟨fun path => rfl, nofun⟩
  exact fits_of_made has lenient made (by rw [Make.builtin?, kind]) (by rw [Judge.ofKind, kind])
    (by rw [kind]; nofun)

theorem function_fits (kind : schema.kind = .function) :
    Gives (generate environment schema context) (schema.Fits environment) := by
  have made : Gives (Make.function schema.inner context) fun value =>
      Judge.function.Accepts value ∧ value ≠ .absent :=
    (Gives.newFunction _ _).mono fun value ⟨identity, isFunction⟩ =>
      isFunction ▸ ⟨fun path => rfl, nofun⟩
  exact fits_of_made has lenient made (by rw [Make.builtin?, kind]) (by rw [Judge.ofKind, kind])
    (by rw [kind]; nofun)

/-- A date fits if the days before the reference date are in the calendar. -/
theorem date_fits {reference : Moment} (kind : schema.kind = .date)
    (unbounded : schema.checks = [])
    (isReference : environment.referenceDate context = .moment reference)
    (late : 30 * microsPerDay ≤ reference.wall) (valid : reference.wall < Moment.limit) :
    Gives (generate environment schema context) (schema.Fits environment) := by
  have made : Gives (Make.date environment schema.checks context) fun value =>
      (Judge.date schema.checks).Accepts value ∧ value ≠ .absent := by
    have none : DateBounds.ofChecks [] = pure {} := rfl
    unfold Make.date
    rw [unbounded, none, pure_bind, isReference]
    exact (Draw.recent_gives (by decide) late valid).mono fun value ⟨moment, isMoment⟩ =>
      isMoment ▸ ⟨fun path => rfl, nofun⟩
  exact fits_of_made has lenient made (by rw [Make.builtin?, kind]) (by rw [Judge.ofKind, kind])
    (by rw [kind]; nofun)

/-- A listed value fits if all of them stand for themselves. -/
theorem enumeration_fits (kind : schema.kind = .enumeration ∨ schema.kind = .nativeEnumeration)
    (nonempty : schema.traits.values ≠ [])
    (each : ∀ value ∈ schema.traits.values, value ≠ .absent ∧ Judge.memberValue value = value) :
    Gives (generate environment schema context) (schema.Fits environment) := by
  have made : Gives (Make.oneOf schema.traits.values context) fun value =>
      (Judge.oneOf schema.traits.values).Accepts value ∧ value ≠ .absent :=
    (Draw.member_gives nonempty).mono fun value mem =>
      ⟨Judge.oneOf_accepts mem (each value mem).2, (each value mem).1⟩
  rcases kind with kind | kind <;>
  exact fits_of_made has lenient made (by rw [Make.builtin?, kind]) (by rw [Judge.ofKind, kind])
    (by rw [kind]; nofun)

/-- A literal fits itself. -/
theorem literal_fits (kind : schema.kind = .literal) (present : schema.traits.literal ≠ .absent)
    (isNumber : schema.traits.literal.isNan = false) :
    Gives (generate environment schema context) (schema.Fits environment) := by
  have made : Gives (Make.constant schema.traits.literal context) fun value =>
      (Judge.literal schema.traits.literal).Accepts value ∧ value ≠ .absent :=
    Gives.pure ⟨Judge.literal_accepts isNumber, present⟩
  exact fits_of_made has lenient made (by rw [Make.builtin?, kind]) (by rw [Judge.ofKind, kind])
    (by rw [kind]; nofun)

theorem promise_fits (ordinary : environment.IsOrdinary) (kind : schema.kind = .promise)
    (inner : schema.inner.isSome) :
    Gives (generate environment schema context) (schema.Fits environment) := by
  obtain ⟨child, found⟩ := Option.isSome_iff_exists.1 inner
  have made : Gives (Make.promise (schema.parts (generate environment)).inner context) fun value =>
      Judge.promise.Accepts value ∧ value ≠ .absent := by
    simp only [parts, found, Option.map_some]
    refine (generate_gives ordinary child lenient).bind fun settled _ => ?_
    exact Gives.fresh.bind fun identity _ => Gives.pure ⟨fun path => rfl, by simp⟩
  exact fits_of_made has lenient made (by rw [Make.builtin?, kind]) (by rw [Judge.ofKind, kind])
    (by simp [kind])

/-! ### Kinds with absent samples -/

theorem nothing_fits (kind : schema.kind = .void ∨ schema.kind = .undefined) :
    Gives (generate environment schema context) (schema.Fits environment) := by
  have made : Gives (Make.constant .absent context) (· = .absent) := Gives.pure rfl
  refine fits_of_rule has lenient made (by rcases kind with kind | kind <;>
    rw [Make.builtin?, kind]) fun value isAbsent => ?_
  rw [isAbsent]
  refine ⟨validate_accepts (.inr ?_) ?_, fun present => absurd ?_ present.kind_ne, fun isObject => ?_⟩
  · rcases kind with kind | kind <;> rw [kind] <;> rfl
  · rcases kind with kind | kind <;> rw [Judge.ofKind, kind] <;> exact fun path => rfl
  · rcases kind with kind | kind <;> rw [kind] <;> decide
  · rcases kind with kind | kind <;> rw [kind] at isObject <;> cases isObject

omit has in
/-- Where everything is accepted, everything fits. -/
theorem anything_fits (ordinary : environment.IsOrdinary)
    (kind : schema.kind ∈ [.any, .unknown, .effects]) :
    Gives (generate environment schema context) (schema.Fits environment) := by
  refine (generate_gives ordinary schema lenient).mono fun value _ => ?_
  simp only [List.mem_cons, List.not_mem_nil, or_false] at kind
  refine ⟨validate_accepts (.inr ?_) ?_, fun present => absurd ?_ present.kind_ne, fun isObject => ?_⟩
  · rcases kind with kind | kind | kind <;> rw [kind] <;> rfl
  · rcases kind with kind | kind | kind <;> rw [Judge.ofKind, kind] <;> exact fun path => rfl
  · rcases kind with kind | kind | kind <;> rw [kind] <;> decide
  · rcases kind with kind | kind | kind <;> rw [kind] at isObject <;> cases isObject

/-! ### Wrappers -/

section Wrappers

variable {child : Schema} (found : schema.inner = some child)
variable (inside : Gives (generate environment child context) (child.Fits environment))

include found inside

/-- What fits the wrapped node fits the wrapper. -/
theorem wrapped_fits (kind : schema.kind = .optional ∨ schema.kind = .branded) :
    Gives (generate environment schema context) (schema.Fits environment) := by
  have made : Gives (Make.inner schema.tag (schema.parts (generate environment)).inner context)
      (child.Fits environment) := by
    simp only [parts, found, Option.map_some]
    exact inside
  refine fits_of_rule has lenient made (by rcases kind with kind | kind <;>
    rw [Make.builtin?, kind]) fun value fits => ?_
  refine ⟨validate_accepts (.inr ?_) ?_, fun present => fits.present ?_, fun isObject => ?_⟩
  · rcases kind with kind | kind <;> rw [kind] <;> rfl
  · have accepted : Judge.Accepts
        (Judge.ofChild (schema.parts (validate environment.definitions)).inner) value := by
      simp only [parts, found, Option.map_some]
      exact fits.accepted
    rcases kind with kind | kind <;> rw [Judge.ofKind, kind]
    · exact Judge.optional_accepts fun _ => accepted
    · exact accepted
  · cases present with
    | own refuses => rcases kind with kind | kind <;> rw [kind] at refuses <;> cases refuses
    | wrapped _ other inner =>
      rw [found] at other
      exact Option.some.inj other ▸ inner
    | default isDefault => rcases kind with kind | kind <;> simp [isDefault] at kind
    | lazy stands => rcases kind with kind | kind <;> simp [stands.kind] at kind
    | union isUnion => rcases kind with kind | kind <;> simp [isUnion] at kind
    | intersection isIntersection => rcases kind with kind | kind <;> simp [isIntersection] at kind
  · rcases kind with kind | kind <;> rw [kind] at isObject <;> cases isObject

theorem nullable_fits (kind : schema.kind = .nullable) (present : child.IsPresent environment) :
    Gives (generate environment schema context) (schema.Fits environment) := by
  have made : Gives (Make.inner schema.tag (schema.parts (generate environment)).inner context)
      fun value => (Judge.nullable
        (Judge.ofChild (schema.parts (validate environment.definitions)).inner)).Accepts value ∧
          value ≠ .absent := by
    simp only [parts, found, Option.map_some]
    exact inside.mono fun value fits =>
      ⟨Judge.nullable_accepts fun _ => fits.accepted, fits.present present⟩
  exact fits_of_made has lenient made (by rw [Make.builtin?, kind]) (by rw [Judge.ofKind, kind])
    (by simp [kind])

omit has lenient inside in
theorem default_rule (kind : schema.kind = .default) :
    Make.builtin? environment (generate environment) schema (schema.parts (generate environment)) =
      some (Make.default environment schema.traits.fallback (some (generate environment child))) := by
  rw [Make.builtin?, kind]
  simp only [parts, found, Option.map_some]

/-- A node with a default is filled if its default and what it wraps are. -/
theorem default_present (kind : schema.kind = .default) (present : schema.IsPresent environment) :
    Gives (generate environment schema context) (· ≠ .absent) := by
  rw [generate_eq has]
  refine Make.ofNode_gives lenient.overrides (default_rule found kind)
    (Draw.boolean_gives.bind fun falls _ => ?_)
  cases present with
  | own refuses => rw [kind] at refuses; cases refuses
  | wrapped other => simp [kind] at other
  | lazy stands => simp [stands.kind] at kind
  | union other | intersection other => simp [kind] at other
  | default _ supplied fallback isChild inner =>
    rw [found] at isChild
    cases isChild
    cases falls with
    | true =>
      rw [if_pos rfl, supplied]
      exact fallback
    | false => exact inside.mono fun value fits => fits.present inner

/-- The default of a node, or what it wraps, fits; where the default cannot be made there is
nothing. -/
theorem default_fits (ordinary : environment.IsOrdinary) (kind : schema.kind = .default)
    (valid : ∀ fallback, schema.traits.fallback = some fallback →
      Yields (environment.fallbackValue fallback) fun value =>
        value = .absent ∨ Judge.Accepts (validate environment.definitions child) value) :
    Gives (generate environment schema context) (schema.Fits environment) := by
  have made : Yields (generate environment schema context) fun value =>
      value = .absent ∨ Judge.Accepts (validate environment.definitions child) value := by
    rw [generate_eq has]
    refine Make.ofNode_yields (.inl rfl) lenient.overrides fun other same => ?_
    rw [default_rule found kind] at same
    cases same
    refine Yields.last fun falls => ?_
    split
    · split
      · next fallback supplied => exact valid fallback supplied
      · exact Yields.throw _
    · exact inside.yields.mono fun value fits => .inr fits.accepted
  have fits : ∀ value, value = .absent ∨
      Judge.Accepts (validate environment.definitions child) value →
        (schema.IsPresent environment → value ≠ .absent) → schema.Fits environment value := by
    refine fun value accepted present => ⟨validate_accepts (.inr (by rw [kind]; rfl)) ?_, present,
      by simp [kind]⟩
    rw [Judge.ofKind, kind]
    simp only [parts, found, Option.map_some]
    exact Judge.optional_accepts fun there => accepted.resolve_left there
  by_cases present : schema.IsPresent environment
  · refine ((default_present has lenient found inside kind present).and made).mono ?_
    rintro value ⟨there, accepted⟩
    exact fits value accepted fun _ => there
  · refine ((generate_gives ordinary schema lenient).and made).mono ?_
    rintro value ⟨_, accepted⟩
    exact fits value accepted fun other => absurd other present

end Wrappers

/-! ### Containers -/

section Nodes

variable (children : ∀ child below, schema.Fills context child below → child ∈ schema.judged →
  Gives (generate environment child below) (child.Fits environment))

section Containers

variable {below : Context} (deeper : context.deeper = .ok (some below))

include children deeper

/-- An object fits if its fields do. -/
theorem object_fits (kind : schema.kind = .object)
    (distinct : ((schema.fields.getD []).map (·.1)).Nodup) :
    Gives (generate environment schema context) (schema.Fits environment) := by
  have judged : ∀ field ∈ schema.fields.getD [], field.2 ∈ schema.judged := by
    unfold judged
    rw [kind]
    exact fun field mem => List.mem_map_of_mem mem
  have made : Gives (Make.object (schema.parts (generate environment)).fields context) fun value =>
      ∃ entries, value = .dictionary entries ∧ Value.EntriesOf
        (fun field value => field.2.Fits environment value) (schema.fields.getD []) entries :=
    Make.object_gives deeper fun field mem =>
      children field.2 _ (.field kind deeper mem) (judged field mem)
  refine fits_of_rule has lenient made (by rw [Make.builtin?, kind]) fun value filled => ?_
  obtain ⟨entries, isObject, named⟩ := filled
  have each : Value.EntriesOf
      (fun field value => Judge.Accepts (validate environment.definitions field.2) value)
      (schema.fields.getD []) entries :=
    named.imp fun field entry ⟨isName, fits⟩ => ⟨isName, fits.accepted⟩
  rw [isObject]
  refine ⟨validate_accepts (.inl nofun) ?_, fun _ => nofun, fun _ => ⟨entries, rfl, each⟩⟩
  rw [Judge.ofKind, kind]
  exact Judge.object_accepts_entries each distinct

/-- An array fits if its items do and its length can be as asked. -/
theorem array_fits {low : Nat} {high : Option Nat} (kind : schema.kind = .array)
    (sizes : Check.Sizes schema.checks low high) {child : Schema}
    (found : schema.inner = some child) :
    Gives (generate environment schema context) (schema.Fits environment) := by
  have judged : child ∈ schema.judged := by
    rw [Schema.judged, kind, found]
    exact List.mem_singleton_self _
  have element := children child below (.element (.inl kind) deeper found) judged
  exact fits_of_made has lenient (Make.array_gives (Fits.accepts environment) deeper sizes found element)
    (by rw [Make.builtin?, kind]) (by rw [Judge.ofKind, kind]) (by rw [kind]; nofun)

/-- A set fits if its members do and its element gives values that are apart. -/
theorem set_fits {high : Option Nat} (kind : schema.kind = .set)
    (sizes : Check.Sizes schema.checks 0 high) {child : Schema} (found : schema.inner = some child)
    (apart : ∀ element below, schema.Fills context element below →
      Value.Apart (generate environment element below).MayGive) :
    Gives (generate environment schema context) (schema.Fits environment) := by
  have judged : child ∈ schema.judged := by
    rw [Schema.judged, kind, found]
    exact List.mem_singleton_self _
  have fills : schema.Fills context child below := .element (.inr kind) deeper found
  have made := Make.set_gives (Fits.accepts environment) deeper sizes found
    (children child below fills judged) (apart child below fills)
  exact fits_of_made has lenient made
    (by rw [Make.builtin?, kind]) (by rw [Judge.ofKind, kind]) (by rw [kind]; nofun)

/-- A map or a record fits if its keys and values do and the keys are hashable. -/
theorem entries_fits (kind : schema.kind = .map ∨ schema.kind = .record)
    {size : Context → Value} {target : Make.EntryTarget} (unmapped : context.stringMap = [])
    (isTarget : Make.entryTarget (size below) = .ok target) (entries : schema.HasEntries environment)
    (builtin : Make.builtin? environment (generate environment) schema
      (schema.parts (generate environment)) = some (Make.entries size
        (Make.ofChild (schema.parts (generate environment)).key)
        (Make.ofChild (schema.parts (generate environment)).value))) :
    Gives (generate environment schema context) (schema.Fits environment) := by
  obtain ⟨ofKey, foundKey, hashable⟩ := entries.key
  obtain ⟨ofValue, foundValue⟩ := Option.isSome_iff_exists.1 entries.value
  have judged : schema.judged = [ofKey, ofValue] := by
    unfold judged
    rcases kind with kind | kind <;> rw [kind, foundKey, foundValue] <;> rfl
  have fillsKey : schema.Fills context ofKey below := .key kind deeper foundKey
  have key := children ofKey below fillsKey (by simp [judged])
  have value := children ofValue below (.value kind deeper foundValue) (by simp [judged])
  obtain ⟨fewer, _, hasFewer⟩ := has.of_deeper deeper
  have choices : context.Supplies environment (·.isHashable = true) :=
    ⟨lenient.overrides, by rw [unmapped]; exact List.forall_mem_nil _⟩
  have drawn := key.and (generate_sort Value.isHashable_isGraded hashable hasFewer
    (choices.fills fillsKey))
  refine fits_of_made has lenient (Make.entries_gives (Fits.accepts environment) deeper isTarget
    schema.tag foundKey foundValue drawn value) builtin ?_ ?_
  · rcases kind with kind | kind <;> rw [Judge.ofKind, kind]
  · rcases kind with kind | kind <;> rw [kind] <;> nofun

end Containers

include children

/-- A tuple needs a level for what follows its items, if anything does. -/
theorem tuple_fits (kind : schema.kind = .tuple) (room : schema.isControlled = true → 0 < left) :
    Gives (generate environment schema context) (schema.Fits environment) := by
  have judged : schema.judged = schema.items ++ schema.rest.toList := by rw [judged, kind]
  have each : ∀ item ∈ schema.items, Gives (generate environment item context)
      (item.Fits environment) := fun item mem => children item context
    (.item (by rw [kind]; rfl) mem) (judged ▸ List.mem_append_left _ mem)
  have following : ∀ child, schema.rest = some child → ∃ below,
      context.deeper = .ok (some below) ∧
        Gives (generate environment child below) (child.Fits environment) := by
    intro child found
    obtain ⟨below, deeper⟩ := has.exists_deeper (room (by rw [isControlled, kind, found]; rfl))
    exact ⟨below, deeper, children child below (.rest kind deeper found)
      (judged ▸ List.mem_append_right _ (Option.mem_toList.2 found))⟩
  exact fits_of_made has lenient (Make.tuple_gives (Fits.accepts environment) each following)
    (by rw [Make.builtin?, kind]) (by rw [Judge.ofKind, kind]) (by simp [kind])

/-! ### Combinations -/

section Options

variable {options : List Schema} (unmapped : context.stringMap = [])
variable (answers : ∀ option ∈ schema.items, ∀ value : Value,
  option.Throughout environment.definitions Judges IsUnchecked ∨ value.IsModerate →
    Judge.Answers (validate environment.definitions option) value)

include unmapped answers

/-- A sample of an option is accepted, since the options before it answer. -/
theorem options_accept (hasItems : schema.kind.hasItems = true) (nonempty : schema.items ≠ [])
    (judged : schema.judged = schema.items) (answer : OptionsAnswer environment schema.items) :
    Gives (Make.union (schema.parts (generate environment)).items context) fun value =>
      (Judge.union (schema.parts (validate environment.definitions)).items).Accepts value ∧
        ∃ option ∈ schema.items, option.Fits environment value := by
  have choices : context.Supplies environment Value.IsModerate :=
    ⟨lenient.overrides, by rw [unmapped]; exact List.forall_mem_nil _⟩
  have each : ∀ option ∈ schema.items, Gives (generate environment option context) fun value =>
      option.Fits environment value ∧
        (option.MakesThroughout environment Value.IsModerate → value.IsModerate) := by
    intro option mem
    have fits := children option context (.item hasItems mem) (judged ▸ mem)
    refine fits.and fun session value after ended makes => ?_
    exact generate_sort Value.isModerate_isGraded makes has choices session value after ended
  refine (Make.union_gives nonempty each).mono fun value ⟨option, mem, fits, moderate⟩ => ?_
  refine ⟨Judge.union_accepts answer mem fits.accepted fun earlier listed related => ?_,
    option, mem, fits⟩
  exact answers earlier listed value (related.imp_right moderate)

/-- A union fits if its options do and the earlier ones answer about samples of the later ones. -/
theorem union_fits (kind : schema.kind = .union) (nonempty : schema.items ≠ [])
    (answer : OptionsAnswer environment schema.items) :
    Gives (generate environment schema context) (schema.Fits environment) := by
  have made := options_accept has lenient children unmapped answers (by rw [kind]; rfl) nonempty
    (by rw [judged, kind]) answer
  refine fits_of_rule has lenient made (by rw [Make.builtin?, kind]) fun value fits => ?_
  obtain ⟨accepted, option, mem, fits⟩ := fits
  refine ⟨validate_accepts (.inr (by rw [kind]; rfl)) (by rwa [Judge.ofKind, kind]),
    fun present => fits.present ?_, fun isObject => by rw [kind] at isObject; cases isObject⟩
  cases present with
  | own refuses => rw [kind] at refuses; cases refuses
  | wrapped other => simp [kind] at other
  | default other | intersection other => simp [kind] at other
  | lazy stands => simp [stands.kind] at kind
  | union _ options => exact options option mem

theorem discriminatedUnion_fits (kind : schema.kind = .discriminatedUnion)
    (nonempty : schema.items ≠ []) (answer : OptionsAnswer environment schema.items)
    (present : ∀ option ∈ schema.items, option.IsPresent environment) :
    Gives (generate environment schema context) (schema.Fits environment) := by
  have made := options_accept has lenient children unmapped answers (by rw [kind]; rfl) nonempty
    (by rw [judged, kind]) answer
  refine fits_of_made has lenient (made.mono fun value ⟨accepted, option, mem, fits⟩ =>
    ⟨accepted, fits.present (present option mem)⟩) (by rw [Make.builtin?, kind])
    (by rw [Judge.ofKind, kind]) (by rw [kind]; nofun)

end Options

/-- Both parts of an intersection accept the merged entries. -/
theorem intersection_fits {left right : Schema} (kind : schema.kind = .intersection)
    (parts : schema.items = [left, right]) (isLeft : left.kind = .object)
    (isRight : right.kind = .object)
    (distinctLeft : ((left.fields.getD []).map (·.1)).Nodup)
    (distinctRight : ((right.fields.getD []).map (·.1)).Nodup)
    (shared : ∀ field ∈ left.fields.getD [], ∀ other ∈ right.fields.getD [],
      field.1 = other.1 → field.2 = other.2) :
    Gives (generate environment schema context) (schema.Fits environment) := by
  have part : ∀ part ∈ schema.items, Gives (generate environment part context)
      (part.Fits environment) := fun part mem => children part context
    (.item (by rw [kind]; rfl) mem) (by rw [judged, kind]; exact mem)
  rw [parts] at part
  rw [List.forall_mem_cons, List.forall_mem_singleton] at part
  have merged := Make.intersection_gives parts
    (part.1.mono fun value fits => fits.entries isLeft)
    (part.2.mono fun value fits => fits.entries isRight) distinctLeft distinctRight shared
  refine fits_of_made has lenient (merged.mono fun value made => ?_) (by rw [Make.builtin?, kind])
    (by rw [Judge.ofKind, kind]) (by rw [kind]; nofun)
  obtain ⟨entries, isDictionary, found⟩ := made
  have accepts : ∀ part : Schema, part.kind = .object →
      (∀ field ∈ part.fields.getD [], field ∈ left.fields.getD [] ∨ field ∈ right.fields.getD []) →
      Judge.Accepts (validate environment.definitions part) (.dictionary entries) := by
    intro part isObject ofBoth
    refine validate_accepts (.inl nofun) ?_
    rw [Judge.ofKind, isObject]
    refine Judge.object_accepts fun field mem => ?_
    obtain ⟨described, listed, rfl⟩ := List.mem_map.1 mem
    obtain ⟨value, isFound, accepted⟩ := found described (ofBoth described listed)
    rw [isFound]
    exact accepted
  have both : ∀ part ∈ schema.items,
      Judge.Accepts (validate environment.definitions part) (.dictionary entries) := by
    rw [parts, List.forall_mem_cons, List.forall_mem_singleton]
    exact ⟨accepts left isLeft fun _ => .inl, accepts right isRight fun _ => .inr⟩
  rw [isDictionary]
  refine ⟨Judge.intersection_accepts fun judge mem => ?_, nofun⟩
  obtain ⟨part, listed, rfl⟩ := List.mem_map.1 mem
  exact both part listed

end Nodes

/-- A lazy node is filled with a sample of what it stands for. -/
theorem lazy_fits {target : Schema} (stands : schema.StandsFor environment.definitions target)
    {below : Context} (deeper : context.deeper = .ok (some below))
    (definition : Gives (generate environment target below) (target.Fits environment)) :
    Gives (generate environment schema context) (schema.Fits environment) := by
  have kind := stands.kind
  have made : Gives (Make.deferred (generate environment)
      (schema.resolve environment.definitions) context) (target.Fits environment) := by
    refine Make.guarded_gives deeper ?_
    rw [stands.found, Run.lift_ok, pure_bind]
    exact definition
  refine fits_of_rule has lenient made (by rw [Make.builtin?, kind]) fun value fits => ?_
  refine ⟨validate_accepts (.inr (by rw [kind]; rfl)) fun path => ?_, fun present => fits.present ?_,
    fun isObject => by rw [kind] at isObject; cases isObject⟩
  · rw [Judge.ofKind, kind]
    simp only [Judge.deferred, stands.found]
    exact fits.accepted path
  · cases present with
    | own refuses => rw [kind] at refuses; cases refuses
    | wrapped other => simp [kind] at other
    | default other | union other | intersection other => simp [kind] at other
    | lazy other inner =>
      have same := other.found
      rw [stands.found] at same
      exact Except.ok.inj same ▸ inner

/-! ### Sound nodes -/

omit has lenient in
/-- The fields of a sound object have different names. -/
theorem IsSoundAt.distinct (sound : schema.IsSoundAt environment context)
    (kind : schema.kind = .object) : ((schema.fields.getD []).map (·.1)).Nodup := by
  cases sound with
  | object _ distinct => exact distinct
  | lazy stands => simp [stands.kind] at kind
  | anything other | constant other | wrapped other | enumeration other => simp [kind] at other
  | _ other => simp [other] at kind

end Schema

/-- The context leaves everything to the rules of nodes: functions of the caller fill neither nodes
nor fields, and the caller does not want to be told of unknown kinds. -/
structure Context.IsPlain (context : Context) : Prop where
  lenient : context.IsLenient
  unmapped : context.stringMap = []

namespace Schema

variable {environment : Environment} {schema : Schema} {context : Context} {left : Nat}

/-- A sound node that is not cut off has a sample that fits, if what it fills and what it stands for
have. -/
theorem IsSoundAt.fits (ordinary : environment.IsOrdinary) (words : environment.HasWords)
    (sound : schema.IsSoundAt environment context) (plain : context.IsPlain)
    (has : context.HasLevels left) (room : schema.isControlled = true → 0 < left)
    (children : ∀ child below, schema.Fills context child below → child ∈ schema.judged →
      child.IsSoundAt environment below ∧
        Gives (generate environment child below) (child.Fits environment))
    (definition : ∀ target below, schema.Follows environment.definitions context target below →
      Gives (generate environment target below) (target.Fits environment))
    (answers : ∀ option ∈ schema.alongside, ∀ value : Value,
      option.Throughout environment.definitions Judges IsUnchecked ∨ value.IsModerate →
        Judge.Answers (validate environment.definitions option) value) :
    Gives (generate environment schema context) (schema.Fits environment) := by
  obtain ⟨lenient, unmapped⟩ := plain
  have filled := fun child below fills judged => (children child below fills judged).2
  have deeper : schema.isControlled = true → ∃ below, context.deeper = .ok (some below) :=
    fun controlled => has.exists_deeper (room controlled)
  have wrapped : schema.kind.isWrapper = true → ∀ child, schema.inner = some child →
      schema.judged = [child] → Gives (generate environment child context) (child.Fits environment) :=
    fun wrapper child found judged =>
      filled child context (.wrapped wrapper found) (judged ▸ List.mem_singleton_self child)
  unfold isControlled at deeper
  cases sound with
  | string kind sizes picks => exact string_fits has lenient kind sizes picks words unmapped
  | number kind numbers moderate => exact number_fits has lenient kind numbers moderate
  | bigint kind numbers => exact bigint_fits has lenient kind numbers
  | anything kind => exact anything_fits lenient ordinary kind
  | constant kind =>
    simp only [List.mem_cons, List.not_mem_nil, or_false] at kind
    rcases kind with kind | kind | kind | kind | kind | kind
    · exact boolean_fits has lenient kind
    · exact null_fits has lenient kind
    · exact nan_fits has lenient kind
    · exact nothing_fits has lenient (.inl kind)
    · exact nothing_fits has lenient (.inr kind)
    · exact function_fits has lenient kind
  | date kind unbounded isReference late valid =>
    exact date_fits has lenient kind unbounded isReference late valid
  | promise kind inner => exact promise_fits has lenient ordinary kind inner
  | object kind distinct =>
    obtain ⟨below, isDeeper⟩ := deeper (by rw [kind])
    exact object_fits has lenient filled isDeeper kind distinct
  | array kind sizes inner =>
    obtain ⟨below, isDeeper⟩ := deeper (by rw [kind])
    obtain ⟨child, found⟩ := Option.isSome_iff_exists.1 inner
    exact array_fits has lenient filled isDeeper kind sizes found
  | set kind sizes inner apart =>
    obtain ⟨below, isDeeper⟩ := deeper (by rw [kind])
    obtain ⟨child, found⟩ := Option.isSome_iff_exists.1 inner
    exact set_fits has lenient filled isDeeper kind sizes found apart
  | map kind size entries =>
    obtain ⟨below, isDeeper⟩ := deeper (by rw [kind])
    have isTarget := size
    rw [show context.mapEntriesLength = below.mapEntriesLength by
      rw [Context.eq_of_deeper isDeeper]] at isTarget
    exact entries_fits has lenient filled isDeeper (.inl kind) unmapped isTarget entries
      (by rw [Make.builtin?, kind])
  | record kind size entries =>
    obtain ⟨below, isDeeper⟩ := deeper (by rw [kind])
    have isTarget := size
    rw [show context.recordKeysLength = below.recordKeysLength by
      rw [Context.eq_of_deeper isDeeper]] at isTarget
    exact entries_fits has lenient filled isDeeper (.inr kind) unmapped isTarget entries
      (by rw [Make.builtin?, kind])
  | tuple kind => exact tuple_fits has lenient filled kind room
  | union kind nonempty answer =>
    rw [alongside, kind] at answers
    exact union_fits has lenient filled unmapped answers kind nonempty answer
  | discriminatedUnion kind nonempty answer present =>
    rw [alongside, kind] at answers
    exact discriminatedUnion_fits has lenient filled unmapped answers kind nonempty answer present
  | intersection kind parts isLeft isRight shared =>
    have sound : ∀ part ∈ schema.items, part.IsSoundAt environment context := fun part mem =>
      (children part context (.item (by rw [kind]; rfl) mem) (by rw [judged, kind]; exact mem)).1
    rw [parts, List.forall_mem_cons, List.forall_mem_singleton] at sound
    exact intersection_fits has lenient filled kind parts isLeft isRight (sound.1.distinct isLeft)
      (sound.2.distinct isRight) shared
  | enumeration kind nonempty each => exact enumeration_fits has lenient kind nonempty each
  | literal kind present isNumber => exact literal_fits has lenient kind present isNumber
  | wrapped kind inner =>
    obtain ⟨child, found⟩ := Option.isSome_iff_exists.1 inner
    refine wrapped_fits has lenient found (wrapped ?_ child found ?_) kind
    · rcases kind with kind | kind <;> rw [kind] <;> rfl
    · rcases kind with kind | kind <;> rw [judged, kind, found] <;> rfl
  | nullable kind found present =>
    exact nullable_fits has lenient found
      (wrapped (by rw [kind]; rfl) _ found (by rw [judged, kind, found]; rfl)) kind present
  | default kind found valid =>
    exact default_fits has lenient found
      (wrapped (by rw [kind]; rfl) _ found (by rw [judged, kind, found]; rfl)) ordinary kind valid
  | lazy stands =>
    obtain ⟨below, isDeeper⟩ := deeper (by rw [stands.kind])
    exact lazy_fits has lenient stands isDeeper (definition _ below ⟨stands.kind, isDeeper, stands.found⟩)

/-! ### Generation -/

/-- Samples of sound schemas fit, where there are levels enough. -/
theorem IsSound.fits {levels : Nat} (ordinary : environment.IsOrdinary) (words : environment.HasWords)
    (sound : schema.IsSound environment context) (plain : context.IsPlain)
    (height : schema.HeightWithin environment.definitions levels) (has : context.HasLevels left)
    (enough : levels ≤ left) :
    Gives (generate environment schema context) (schema.Fits environment) := by
  revert sound plain
  refine @byHeight environment.definitions schema context levels
    (fun schema context => schema.IsSound environment context → context.IsPlain →
      Gives (generate environment schema context) (schema.Fits environment))
    (fun schema context levels left height has enough children definition sound plain => ?_)
    height left has enough
  obtain ⟨here, soundChildren, soundDefinition⟩ := sound
  obtain ⟨controlled, along, _, _⟩ := height
  refine here.fits ordinary words plain has
    (fun isControlled => Nat.lt_of_lt_of_le (controlled isControlled) enough)
    (fun child below fills judged => ?_) (fun target below follows => ?_) fun option mem value whole => ?_
  · have inside := soundChildren child below fills judged
    refine ⟨?_, children child below fills judged inside ⟨plain.lenient.fills fills, ?_⟩⟩
    · obtain ⟨soundChild, _, _⟩ := inside
      exact soundChild
    · obtain ⟨depth, name, rfl⟩ := fills.context_eq
      exact plain.unmapped
  · refine definition target below follows (soundDefinition target below follows)
      ⟨plain.lenient.follows follows, ?_⟩
    obtain ⟨depth, rfl⟩ := follows.context_eq
    exact plain.unmapped
  · have judged := mem_judged.2 (.inl mem)
    exact IsSound.answers (soundChildren option context (fills_of_alongside context mem) judged)
      (along option mem) has enough whole

end Schema

/-- **Samples of sound schemas are valid.** Where there are as many levels left as the schema is
high, generation makes a sample, whatever the session, and validation has no issue with it. -/
theorem generate_valid (environment : Environment) (ordinary : environment.IsOrdinary)
    (words : environment.HasWords) (schema : Schema) (context : Context)
    (sound : schema.IsSound environment context) (plain : context.IsPlain) (levels left : Nat)
    (height : schema.HeightWithin environment.definitions levels) (has : context.HasLevels left)
    (enough : levels ≤ left) (session : Session) :
    ∃ value after, generate environment schema context session = (.ok value, after) ∧
      ∀ path, validate environment.definitions schema value path = .ok [] := by
  obtain ⟨value, after, made, fits⟩ :=
    sound.fits ordinary words plain height has enough session
  exact ⟨value, after, made, fits.accepted⟩

/-- Members of a club: a short name, an age, answers to some questions, and which answers to others
they consider. -/
def clubMember : Schema :=
  .object [("name", (Schema.string.min (.int 3) true).max (.int 8) true),
    ("age", Schema.number.int.min (.int 0) true), ("answers", .array .boolean),
    ("considered", (Schema.setOf .boolean).max (.int 2) true)]

/-- Samples of club members are valid. -/
theorem clubMember_valid :
    ∃ value after, generate (.numbered []) clubMember {} .ofHighBits = (.ok value, after) ∧
      ∀ path, validate [] clubMember value path = .ok [] := by
  have age : Check.Numbers [.integer, .min (.int 0) true] := by
    refine ⟨fun bound inclusive other otherInclusive mem listed => ?_, fun _ _ _ _ mem => ?_, 0, ?_⟩
    · simp at mem listed
      simp [mem, listed]
    · simp at mem
    · refine List.forall_mem_cons.2 ⟨.integer, List.forall_mem_singleton.2 (.min rfl ?_)⟩
      exact le_of_eq Rat.intCast_zero
  have small : Check.Numbers.AreBelow moderateBound [.integer, .min (.int 0) true] := by
    refine List.forall_mem_cons.2 ⟨nofun, List.forall_mem_singleton.2 fun limit same => ?_⟩
    cases same
    exact (abs_of_nonneg (le_of_eq Rat.intCast_zero)).trans_lt
      (Nat.cast_pos.2 (Nat.two_pow_pos moderatePlaces))
  have named : ∀ {below : Context} {name : String}, Context.deeper {} = .ok (some below) →
      (below.forKey (.text name)).Picks (.numbered []) := by
    intro below name deeper
    rw [Context.eq_of_deeper deeper]
    exact (Environment.numbered_answersFields []).picks rfl (by decide) (by decide) rfl rfl
      fun _ => ⟨name, rfl⟩
  have has : Context.HasLevels {} 10 := ⟨0, 10, rfl, rfl, rfl⟩
  have choices : Context.Supplies (.numbered []) (·.isThawed = true) {} := ⟨rfl, nofun⟩
  have unfrozen : Schema.boolean.MakesThroughout (.numbered []) (·.isThawed = true) := by
    refine .leaf (Schema.makes_isThawed nofun (fun kind => ?_) nofun nofun) rfl nofun
    rcases kind with kind | kind <;> cases kind
  have sound : clubMember.IsSound (.numbered []) {} := by
    refine .intro (.object rfl (by decide)) (fun child below fills judged => ?_) nofun
    cases fills with
    | field kind deeper mem =>
      have supplied := choices.fills (.field kind deeper mem)
      have fields : clubMember.fields.getD [] =
          [("name", (Schema.string.min (.int 3) true).max (.int 8) true),
            ("age", Schema.number.int.min (.int 0) true), ("answers", .array .boolean),
            ("considered", (Schema.setOf .boolean).max (.int 2) true)] := rfl
      rw [fields] at mem
      simp only [List.mem_cons, List.not_mem_nil, or_false, Prod.mk.injEq] at mem
      rcases mem with ⟨rfl, rfl⟩ | ⟨rfl, rfl⟩ | ⟨rfl, rfl⟩ | ⟨rfl, rfl⟩
      · exact Schema.IsSoundAt.leaf (.string rfl (.between (by decide)) (named deeper)) rfl nofun
      · exact Schema.IsSoundAt.leaf (.number rfl age fun _ => small) rfl nofun
      · refine .intro (.array rfl .free rfl) (fun child below fills judged => ?_) nofun
        cases List.mem_singleton.1 judged
        exact Schema.IsSoundAt.leaf (.constant (by decide)) rfl nofun
      · obtain ⟨fewer, _, hasFewer⟩ := has.of_deeper deeper
        refine .intro (.set rfl (.greatest 2) rfl fun child inner fills => ?_)
          (fun child inner fills judged => ?_) nofun
        · cases List.mem_singleton.1 fills.mem_children
          obtain ⟨least, _, hasLeast⟩ := (hasFewer.forKey _).fills fills
          exact unfrozen.apart hasLeast (supplied.fills fills)
        · cases List.mem_singleton.1 judged
          exact Schema.IsSoundAt.leaf (.constant (by decide)) rfl nofun
    | element kind | key kind | value kind => rcases kind with kind | kind <;> cases kind
    | rest kind | item kind | wrapped kind => cases kind
  have answers : (Schema.array .boolean).HeightWithin [] 1 := by
    refine .intro (fun _ => by decide) (List.forall_mem_nil _) ?_ nofun
    exact List.forall_mem_singleton.2 (.leaf rfl rfl 0)
  have considered : ((Schema.setOf .boolean).max (.int 2) true).HeightWithin [] 1 := by
    refine .intro (fun _ => by decide) (List.forall_mem_nil _) ?_ nofun
    exact List.forall_mem_singleton.2 (.leaf rfl rfl 0)
  have height : clubMember.HeightWithin [] 2 := by
    refine .intro (fun _ => by decide) (List.forall_mem_nil _) ?_ nofun
    exact List.forall_mem_cons.2 ⟨.leaf rfl rfl 1, List.forall_mem_cons.2 ⟨.leaf rfl rfl 1,
      List.forall_mem_cons.2 ⟨answers, List.forall_mem_singleton.2 considered⟩⟩⟩
  exact generate_valid (.numbered []) (Environment.numbered_isOrdinary nofun)
    (Environment.numbered_hasWords []) clubMember {} sound ⟨⟨rfl, rfl⟩, rfl⟩ 2 10 height has
    (by decide) .ofHighBits

/-- There is no valid sample in a session in which there is none without an issue. -/
theorem not_valid_of_issues {environment : Environment} {schema : Schema} {context : Context}
    {session : Session}
    (issues : ((generate environment schema context session).1.toOption.any fun value =>
      (validate environment.definitions schema value []).toOption.any List.isEmpty) = false) :
    ¬ ∃ value after, generate environment schema context session = (.ok value, after) ∧
      ∀ path, validate environment.definitions schema value path = .ok [] := by
  rintro ⟨value, after, made, accepted⟩
  rw [made] at issues
  change ((validate environment.definitions schema value []).toOption.any List.isEmpty) = false
    at issues
  rw [accepted []] at issues
  cases issues

/-- A function of the caller that fails with an unknown kind gets through to the caller, though no
strictness is asked for; there are no dates before the first one of the calendar; and a set can have
two equal members if one of them is frozen. -/
theorem generate_not_valid :
    (¬ ∃ value after, generate (.ofStock [] [.fail (.unknownType "mystery")])
        (Schema.null.transform ⟨0⟩) {} .ofHighBits = (.ok value, after) ∧
          ∀ path, validate [] (Schema.null.transform ⟨0⟩) value path = .ok []) ∧
      (¬ ∃ value after, generate (.numbered []) .date { referenceDate := .moment ⟨0, none⟩ }
        .ofHighBits = (.ok value, after) ∧ ∀ path, validate [] .date value path = .ok []) ∧
      ∃ element, Schema.union [.literal (.set [.int 1]), .literal (.set [.int 1] true)] =
          .ok element ∧
        ¬ ∃ value after, generate (.numbered []) ((Schema.setOf element).max (.int 2) true) {}
            (.ofWords [0x40000000, 0, 0x40000000]) = (.ok value, after) ∧
          ∀ path, validate [] ((Schema.setOf element).max (.int 2) true) value path = .ok [] := by
  exact ⟨not_valid_of_issues (by decide +kernel), not_valid_of_issues (by decide +kernel), _, rfl,
    not_valid_of_issues (by decide +kernel)⟩

end Specimen
