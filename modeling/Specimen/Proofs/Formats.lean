/-
**Texts in a format.**

Fields and formats share one list of categories, and the first category of the list that either of
them names is taken. So a text that has to have a format has it, unless the name of its field is
that of an earlier category with another source (`generate_format`); then the text comes from the
category of the field, whatever the format (`generate_category`).

What has to be known of the provider is that its addresses, identifiers and locations have their
formats (`Environment.AnswersFormats`). A date and time is written by the generator itself, and what
it writes of a moment is read as a moment.
-/

import Mathlib.Data.List.Find
import Specimen.Proofs.DateRange
import Specimen.Proofs.IsoText
import Specimen.Proofs.Making

namespace Specimen

open Run (Gives)

/-! ### Categories -/

namespace Check

/-- Does the check ask for a format? -/
def isFormat : Check → Bool
  | .email | .url | .uuid | .datetime => true
  | _ => false

theorem eq_of_isFormat {check : Check} (isFormat : check.isFormat = true) :
    check = .email ∨ check = .url ∨ check = .uuid ∨ check = .datetime := by
  cases check with
  | email => exact .inl rfl
  | url => exact .inr (.inl rfl)
  | uuid => exact .inr (.inr (.inl rfl))
  | datetime => exact .inr (.inr (.inr rfl))
  | _ => cases isFormat

/-- Where texts in the format come from. -/
def source : Check → TextSynthesis.TextSource
  | .email => .provided "email"
  | .url => .provided "url"
  | .uuid => .provided "uuid4"
  | _ => .recentMoment

/-- The names of fields that are looked at before the format and have another source. -/
def rivals : Check → List String
  | .uuid => ["email"]
  | .url => ["email", "uuid", "uid"]
  | .datetime => ["email", "uuid", "uid", "url", "name"]
  | _ => []

end Check

namespace TextSynthesis

/-- The categories that come before a format. -/
def categoriesBefore (format : String) : List (String × TextSource) :=
  categories.takeWhile fun entry => entry.1 != format

/-- The source is that of the field if its category comes first, and that of the format if not. -/
theorem category?_eq {format : String} {source : TextSource}
    (listed : categories.find? (fun entry => entry.1 == format) = some (format, source))
    (field : Option String) : category? field [format] =
      some (((categoriesBefore format).find? fun entry => field == some entry.1).elim source (·.2)) := by
  obtain ⟨_, before, after, split, others⟩ := List.find?_eq_some_iff_append.1 listed
  have isBefore : categoriesBefore format = before := by
    have differ : ∀ entry ∈ before, (entry.1 != format) = true := others
    rw [categoriesBefore, split, List.takeWhile_append_of_pos differ,
      List.takeWhile_cons_of_neg (by simp), List.append_nil]
  have same : before.find? (fun entry => field == some entry.1 || [format].contains entry.1) =
      before.find? fun entry => field == some entry.1 := by
    refine List.find?_congr fun entry mem => ?_
    have other : entry.1 ≠ format := by simpa using others entry mem
    simp [other]
  rw [category?, split, List.find?_append, same, isBefore]
  cases before.find? fun entry => field == some entry.1 with
  | none => simp
  | some entry => rfl

/-- A format has its own source, whatever field it is for, unless the field is a rival. -/
theorem category?_of_format {format : Check} (isFormat : format.isFormat = true)
    {field : Option String} (unrivalled : ∀ name ∈ format.rivals, field ≠ some name) :
    category? field [format.name] = some format.source := by
  have listed : categories.find? (fun entry => entry.1 == format.name) =
      some (format.name, format.source) := by
    rcases Check.eq_of_isFormat isFormat with rfl | rfl | rfl | rfl <;> rfl
  have others : ∀ entry ∈ categoriesBefore format.name,
      entry.1 ∈ format.rivals ∨ entry.2 = format.source := by
    rcases Check.eq_of_isFormat isFormat with rfl | rfl | rfl | rfl <;> decide
  rw [category?_eq listed]
  cases found : (categoriesBefore format.name).find? fun entry => field == some entry.1 with
  | none => rfl
  | some entry =>
    have named : (field == some entry.1) = true :=
      (List.find?_eq_some_iff_append.1 found).1
    rcases others entry (List.mem_of_find?_eq_some found) with rival | same
    · exact absurd (eq_of_beq named) (unrivalled entry.1 rival)
    · exact congrArg some same

/-- The name of the field is a text, if there is one. -/
theorem fieldName_eq {context : Context}
    (named : context.keyName.isTruthy = true → ∃ name, context.keyName = .text name) :
    ∃ field, fieldName context = .ok field ∧
      ∀ key, field = some key → ∃ name, context.keyName = .text name ∧ key = normalizedKey name := by
  unfold fieldName
  by_cases truthy : context.keyName.isTruthy = true
  · obtain ⟨name, isName⟩ := named truthy
    rw [if_pos truthy, isName]
    refine ⟨_, rfl, fun key isKey => ⟨name, rfl, ?_⟩⟩
    exact (Option.some.inj isKey).symm
  · rw [if_neg truthy]
    exact ⟨none, rfl, nofun⟩

section Making

variable {environment : Environment} {context : Context} {format : Check}
variable {field : Option String} {source : TextSource} {property : String → Prop}
variable (unmapped : context.stringMap = [])
variable (named : context.keyName.isTruthy = true → ∃ name, context.keyName = .text name)

include unmapped named

/-- A text in a format is what the source that is picked for field and format makes. -/
theorem make_ofSource (isFormat : format.isFormat = true)
    (isField : fieldName context = .ok field)
    (picked : category? field [format.name] = some source)
    (made : Gives (source.make environment context) fun value => property value.plainText) :
    Gives (make environment [format] context) fun value =>
      ∃ text, value = .text text ∧ property text := by
  have bounds : TextBounds.ofChecks [format] = { formats := [format.name] } := by
    rcases Check.eq_of_isFormat isFormat with rfl | rfl | rfl | rfl <;> rfl
  have aimed : Gives (targetLength { formats := [format.name] }) fun _ => True := by
    have interval : lengthInterval { formats := [format.name] } =
        .ok (.int 0, .int usualLength) := rfl
    unfold targetLength
    rw [interval, Run.lift_ok, pure_bind]
    exact (Draw.integer_gives (by decide)).mono fun _ _ => True.intro
  rw [make_eq_unpatterned (by rw [bounds]), bounds, unpatterned, callersFunction_eq unmapped named,
    Run.lift_ok, pure_bind]
  refine aimed.bind fun target _ => ?_
  have raw : Gives (rawText environment { formats := [format.name] } context target) property := by
    unfold rawText
    rw [isField, Run.lift_ok, pure_bind]
    simp only [picked]
    exact made.bind fun value holds => Gives.pure holds
  refine raw.bind fun text holds => ?_
  -- without bounds there is nothing to fit
  have fitted : fit { formats := [format.name] } text = pure text := rfl
  rw [fitted, pure_bind]
  exact Gives.pure ⟨text, rfl, holds⟩

end Making

end TextSynthesis

/-- The provider gives addresses, identifiers and locations that have their formats. -/
structure Environment.AnswersFormats (environment : Environment) : Prop where
  email : Gives (environment.ask "email") fun value => Format.isEmail value.plainText = true
  uuid : Gives (environment.ask "uuid4") fun value => Format.isUuid value.plainText = true
  url : Gives (environment.ask "url") fun value => Format.isUrl value.plainText = .ok true

/-! ### Dates and times -/

/-- What is written of a moment is a date and time. -/
theorem Moment.isDateTime_toIso {moment : Moment} (valid : moment.IsValid) :
    Format.isDateTime (moment.toIso "T") = true := by
  have one : "T".toList = ['T'] := rfl
  have unmarked : ∀ mark ∈ (moment.toIso "T").toList,
      (if mark == 'Z' then "+00:00".toList else [mark]) = [mark] := by
    intro mark mem
    have other := ne_of_mem_toIso one (by decide) valid mark mem
    rw [if_neg (by simpa using other)]
  have same : Format.spellOffset (moment.toIso "T") = moment.toIso "T" := by
    unfold Format.spellOffset
    rw [List.flatMap_congr unmarked, List.flatMap_singleton', String.ofList_toList]
  unfold Format.isDateTime
  rw [same, ofIso?_toIso one valid]
  rfl

/-- A moment of the day before a reference is a moment of the calendar. -/
theorem Draw.recent_valid {reference : Moment} (valid : reference.IsValid)
    (late : microsPerDay ≤ reference.wall) :
    Gives (Draw.recent (.moment reference) (.int 1)) fun value =>
      ∃ moment, value = .moment moment ∧ moment.IsValid := by
  have day : 1 * microsPerDay ≤ reference.wall := (Nat.one_mul _).le.trans late
  refine ((Draw.recent_gives (by decide) day valid.inCalendar).and
    (Draw.recent_within reference)).mono fun value both => ?_
  obtain ⟨_, moment, isMoment, sameOffset, notAfter⟩ := both
  refine ⟨moment, isMoment, ?_, fun size isSize => valid.offset size (sameOffset ▸ isSize)⟩
  have inCalendar := valid.inCalendar
  unfold Moment.instant at notAfter
  rw [sameOffset] at notAfter
  omega

/-! ### Formats -/

namespace Check

variable {environment : Environment} {context : Context} {reference : Moment} {format : Check}

/-- The source of a format makes texts in the format. -/
theorem source_gives (isFormat : format.isFormat = true) (answers : environment.AnswersFormats)
    (isReference : environment.referenceDate context = .moment reference)
    (valid : reference.IsValid) (late : microsPerDay ≤ reference.wall) :
    Gives (format.source.make environment context) fun value =>
      Judge.formatMessage value.plainText format = .ok none := by
  cases format with
  | email =>
    refine answers.email.mono fun value isEmail => ?_
    rw [Judge.formatMessage, isEmail]
    rfl
  | uuid =>
    refine answers.uuid.mono fun value isUuid => ?_
    rw [Judge.formatMessage, isUuid]
    rfl
  | url =>
    refine answers.url.mono fun value isUrl => ?_
    rw [Judge.formatMessage, isUrl]
    rfl
  | datetime =>
    unfold source TextSynthesis.TextSource.make
    simp only
    rw [isReference]
    refine (Draw.recent_valid valid late).bind fun value found => ?_
    obtain ⟨moment, isMoment, inCalendar⟩ := found
    refine Gives.pure ?_
    have written : (Value.text value.plainText).plainText = moment.toIso "T" := by
      rw [isMoment]
      rfl
    rw [written, Judge.formatMessage, Moment.isDateTime_toIso inCalendar]
    rfl
  | _ => cases isFormat

end Check

/-- A text that has the one format that it is checked for is accepted. -/
theorem Judge.string_accepts_format {format : Check} (isFormat : format.isFormat = true)
    {text : String} (silent : formatMessage text format = .ok none) :
    (string [format]).Accepts (.text text) := by
  intro path
  have unbounded : boundIssues [format] "length" (.int text.length) path = [] := by
    rcases Check.eq_of_isFormat isFormat with rfl | rfl | rfl | rfl <;> rfl
  rw [string_eq_bounds (List.forall_mem_singleton.2 silent), unbounded]

section Generation

variable {environment : Environment} {schema : Schema} {context : Context} {format : Check}
variable (isText : schema.kind = .string) (only : schema.checks = [format])
variable (isFormat : format.isFormat = true) (plain : context.overrides = [])
variable (unmapped : context.stringMap = [])
variable (named : context.keyName.isTruthy = true → ∃ name, context.keyName = .text name)

include isText only isFormat plain unmapped named

/-- A text for a format comes from the source that is picked for the field and the format. -/
theorem generate_category {field : Option String} {source : TextSynthesis.TextSource}
    {property : String → Prop} (isField : TextSynthesis.fieldName context = .ok field)
    (picked : TextSynthesis.category? field [format.name] = some source)
    (made : Gives (source.make environment context) fun value => property value.plainText) :
    Gives (generate environment schema context) fun value =>
      ∃ text, value = .text text ∧ property text := by
  have builtin : ∀ lower parts, Make.builtin? environment lower schema parts =
      some (TextSynthesis.make environment [format]) := by
    intro lower parts
    rw [Make.builtin?, isText, only]
  exact generate_gives_of_builtin plain builtin
    (TextSynthesis.make_ofSource unmapped named isFormat isField picked made)

/-- **A text has the format that it is checked for**, unless its field is named for an earlier
category. -/
theorem generate_format
    (unrivalled : ∀ name, context.keyName = .text name → normalizedKey name ∉ format.rivals)
    (answers : environment.AnswersFormats) {reference : Moment}
    (isReference : environment.referenceDate context = .moment reference)
    (valid : reference.IsValid) (late : microsPerDay ≤ reference.wall) :
    Gives (generate environment schema context) fun value =>
      ∀ definitions, Judge.Accepts (validate definitions schema) value := by
  obtain ⟨field, isField, ofName⟩ := TextSynthesis.fieldName_eq named
  have free : ∀ rival ∈ format.rivals, field ≠ some rival := by
    intro rival mem same
    obtain ⟨name, isName, rfl⟩ := ofName rival same
    exact unrivalled name isName mem
  have picked := TextSynthesis.category?_of_format isFormat free
  have made := format.source_gives isFormat answers isReference valid late
  have generated : Gives (generate environment schema context) fun value =>
      ∃ text, value = .text text ∧ Judge.formatMessage text format = .ok none :=
    generate_category isText only isFormat plain unmapped named isField picked made
  refine generated.mono fun value found definitions => ?_
  obtain ⟨text, isValue, silent⟩ := found
  rw [isValue]
  refine validate_accepts (.inl nofun) ?_
  rw [Judge.ofKind, isText, only]
  exact Judge.string_accepts_format isFormat silent

end Generation

/-- A provider of one address, one identifier and one location. -/
def steadyProvider (call : ProviderCall) : Run Value :=
  match call.name with
  | "email" => pure (.text "ann@example.com")
  | "uuid4" => pure (.text "0f8fad5b-d9cb-469f-a165-70867728950e")
  | "url" => pure (.text "https://example.com/")
  | _ => throw .missingPart

/-- An environment with the steady provider. -/
def Environment.steady : Environment := { numbered [] with provider := steadyProvider }

theorem Environment.steady_answersFormats : steady.AnswersFormats where
  email := Gives.pure (by decide +kernel)
  uuid := Gives.pure (by decide +kernel)
  url := Gives.pure (by decide +kernel)

/-- A field with the name of a date is a date and time. -/
theorem dateField_accepted :
    Gives (generate .steady (Schema.string.withCheck .datetime) { keyName := .text "date" })
      fun value => ∀ definitions,
        Judge.Accepts (validate definitions (Schema.string.withCheck .datetime)) value := by
  have unrivalled : ∀ name, Value.text "date" = .text name →
      normalizedKey name ∉ Check.datetime.rivals := by
    rintro name isName
    cases isName
    decide +kernel
  have isReference : Environment.steady.referenceDate { keyName := .text "date" } =
      .moment Environment.someDay := rfl
  exact generate_format rfl rfl rfl rfl rfl (fun _ => ⟨_, rfl⟩) unrivalled
    Environment.steady_answersFormats isReference ⟨by decide, nofun⟩ (by decide)

/-- A field with the name of an address is one, though it is checked for an identifier. -/
theorem emailField_refused :
    Gives (generate .steady (Schema.string.withCheck .uuid) { keyName := .text "email" })
      fun value => ∀ definitions,
        Judge.Decides (validate definitions (Schema.string.withCheck .uuid)) value False := by
  have isField : TextSynthesis.fieldName { keyName := .text "email" } = .ok (some "email") := by
    decide +kernel
  have picked : TextSynthesis.category? (some "email") [Check.uuid.name] =
      some (.provided "email") := by decide +kernel
  have made : Gives (TextSynthesis.TextSource.make .steady { keyName := .text "email" }
      (.provided "email")) fun value => value.plainText = "ann@example.com" := Gives.pure rfl
  have generated : Gives
      (generate .steady (Schema.string.withCheck .uuid) { keyName := .text "email" }) fun value =>
        ∃ text, value = .text text ∧ text = "ann@example.com" :=
    generate_category rfl rfl rfl rfl rfl (fun _ => ⟨_, rfl⟩) isField picked made
  have wrong : Format.isUuid "ann@example.com" = false := by decide +kernel
  have message : Judge.formatMessage "ann@example.com" .uuid = .ok (some "Invalid uuid") := by
    rw [Judge.formatMessage, wrong]
    rfl
  refine generated.mono fun value found definitions => ?_
  obtain ⟨text, isText, rfl⟩ := found
  rw [isText]
  refine validate_decides (.inl Value.noConfusion) fun path => ?_
  refine ⟨[⟨path, "Invalid uuid"⟩], ?_, iff_of_false (List.cons_ne_nil _ _) id⟩
  show Judge.string [.uuid] (.text "ann@example.com") path = _
  unfold Judge.string
  simp only [List.mapM_cons, message]
  rfl

end Specimen
