/-
**Enumerations.**

The schema of an enumeration holds the values that were declared. A sample is one of them, as it
stands; a judge unwraps a member of an enumeration, and asks whether the value in it was declared.

* `Schema.Enumerates.sample_mem`: a sample is a declared value, whatever the random source holds.
* `Schema.Enumerates.validate_decides`: a value is accepted exactly if what it unwraps to was
  declared.

So all declared values are accepted, and hence all samples, but for members that were declared
themselves and not by their values (`Schema.Enumerates.samples_and_values`,
`Schema.reds_refuse_red`).
-/

import Specimen.Proofs.Making
import Specimen.Proofs.Numbered
import Specimen.Proofs.Verdicts

namespace Specimen

open Run (Gives)

/-- If the value is a member of an enumeration, the value in it is one of the given ones. -/
def Value.HasItsValueIn (values : List Value) (value : Value) : Prop :=
  ∀ family name inner, value = .member family name inner → inner.isIn values = true

namespace Schema

/-- The schema of the values of an enumeration, by either of the builders. -/
def Enumerates (schema : Schema) (values : List Value) : Prop :=
  enumeration values = .ok schema ∨ ∃ family, schema = nativeEnumeration family values

namespace Enumerates

variable {schema : Schema} {values : List Value} (enumerates : schema.Enumerates values)

include enumerates

theorem kind_and_values : (schema.kind = .enumeration ∨ schema.kind = .nativeEnumeration) ∧
    schema.traits.values = values := by
  rcases enumerates with built | ⟨family, rfl⟩
  · obtain ⟨-, rfl⟩ := enumeration_eq_ok.1 built
    exact ⟨.inl rfl, rfl⟩
  · exact ⟨.inr rfl, rfl⟩

/-! ### Samples -/

theorem builtin_eq (environment : Environment) (lower : Schema → Make) (parts : Parts Make) :
    Make.builtin? environment lower schema parts = some (Make.oneOf values) := by
  obtain ⟨kind, rfl⟩ := enumerates.kind_and_values
  rcases kind with kind | kind <;> rw [Make.builtin?, kind]

theorem sample_mem {environment : Environment} {context : Context}
    (own : context.overrides.lookup schema.tag = none) (nonempty : values ≠ []) :
    Gives (generate environment schema context) (· ∈ values) :=
  generate_gives_of_lookup own (enumerates.builtin_eq environment) (Draw.member_gives nonempty)

/-! ### Verdicts -/

variable {definitions : Definitions} {value : Value}

theorem validate_decides (present : value ≠ .absent) :
    Judge.Decides (validate definitions schema) value
      ((Judge.memberValue value).isIn values = true) := by
  obtain ⟨kind, rfl⟩ := enumerates.kind_and_values
  refine Specimen.validate_decides (.inl present) ?_
  rcases kind with kind | kind <;> rw [Judge.ofKind, kind] <;> exact Judge.oneOf_decides

omit enumerates in
/-- A declared value unwraps to a declared value, unless it is a member and its value is none. -/
theorem memberValue_isIn_iff (declared : value ∈ values) :
    (Judge.memberValue value).isIn values = true ↔ value.HasItsValueIn values := by
  cases value with
  | member family name inner =>
    constructor
    · rintro found _ _ _ ⟨⟩
      exact found
    · exact fun has => has family name inner rfl
  | _ => exact iff_of_true (Value.isIn_of_mem declared) nofun

/-- A declared value is accepted exactly if it is no member, or its own value is declared as well.
-/
theorem validate_declared (defined : .absent ∉ values) (declared : value ∈ values) :
    Judge.Decides (validate definitions schema) value (value.HasItsValueIn values) :=
  (enumerates.validate_decides (ne_of_mem_of_not_mem declared defined)).congr
    (memberValue_isIn_iff declared)

/-- **Samples of an enumeration are declared values**, and a sample, like every declared value, is
accepted exactly if it is no member of an enumeration, or its own value is declared as well. -/
theorem samples_and_values (definitions : Definitions) (environment : Environment)
    {context : Context} (own : context.overrides.lookup schema.tag = none)
    (nonempty : values ≠ []) (defined : .absent ∉ values) :
    (Gives (generate environment schema context) fun value => value ∈ values ∧
        Judge.Decides (validate definitions schema) value (value.HasItsValueIn values)) ∧
      ∀ value ∈ values,
        Judge.Decides (validate definitions schema) value (value.HasItsValueIn values) := by
  have verdicts : ∀ value ∈ values,
      Judge.Decides (validate definitions schema) value (value.HasItsValueIn values) :=
    fun value declared => enumerates.validate_declared defined declared
  exact ⟨(enumerates.sample_mem own nonempty).mono fun value declared =>
    ⟨declared, verdicts value declared⟩, verdicts⟩

end Enumerates

/-- Levels by various names; a member among them has a value that is declared as well. -/
def levelNames : List Value :=
  [.text "low", .member ⟨"Level", 0⟩ "LOW" (.text "low"), .int 3, .float (Binary64.ofRat (7 / 2)), .null]

/-- All names of levels are accepted, whichever was drawn. -/
theorem levelNames_accepted :
    (Gives (generate (.numbered []) (nativeEnumeration none levelNames) {}) fun value =>
        value ∈ levelNames ∧
          Judge.Accepts (validate [] (nativeEnumeration none levelNames)) value) ∧
      ∀ value ∈ levelNames,
        Judge.Accepts (validate [] (nativeEnumeration none levelNames)) value := by
  have known : ∀ value ∈ levelNames, value.HasItsValueIn levelNames := by
    rintro value mem family name inner rfl
    simp [levelNames] at mem
    obtain ⟨rfl, rfl, rfl⟩ := mem
    exact Value.isIn_of_mem (by simp [levelNames])
  have enumerates : (nativeEnumeration none levelNames).Enumerates levelNames := .inr ⟨none, rfl⟩
  have own : ({} : Context).overrides.lookup (nativeEnumeration none levelNames).tag = none := rfl
  have nonempty : levelNames ≠ [] := by simp [levelNames]
  have defined : .absent ∉ levelNames := by simp [levelNames]
  obtain ⟨samples, values⟩ :=
    enumerates.samples_and_values [] (.numbered []) own nonempty defined
  exact ⟨samples.mono fun value ⟨mem, decides⟩ => ⟨mem, decides.accepts (known value mem)⟩,
    fun value mem => (values value mem).accepts (known value mem)⟩

/-- If a member is declared itself, it is drawn and refused. -/
theorem reds_refuse_red : ∃ schema, enumeration [.member ⟨"Color", 0⟩ "RED" (.int 1)] = .ok schema ∧
    Gives (generate (.numbered []) schema {}) fun value => validate [] schema value [] =
      .ok [⟨[], "Expected one of [<Color.RED: 1>], received 1"⟩] := by
  have enumerates : Enumerates _ [.member ⟨"Color", 0⟩ "RED" (.int 1)] := .inl rfl
  refine ⟨_, rfl, (enumerates.sample_mem rfl (List.cons_ne_nil _ _)).mono fun value mem => ?_⟩
  rw [List.mem_singleton.1 mem]
  decide +kernel

end Schema

end Specimen
