/-
**What builders make.**

A schema that is made by the functions and methods for building schemas has the parts that its nodes
need, and patterns that can be read (`Schema.IsBuilt.formed`). Only the nodes are looked at: whether
names have definitions is another matter.
-/

import Specimen.Proofs.NestingBound

namespace Specimen

/-- The pattern that a check asks for, if it asks for one, can be read. -/
def Check.IsReadable : Check → Prop
  | .regex pattern => ∃ source tree, pattern = .text source ∧ readPattern source = .ok tree
  | _ => True

namespace Schema

/-! ### Nodes with their parts -/

/-- The node has the parts that a node of its kind needs. -/
structure IsFormed (schema : Schema) : Prop where
  inner : schema.kind ∈ [.array, .set, .optional, .nullable, .default, .branded] →
    schema.inner.isSome
  entries : schema.kind = .map ∨ schema.kind = .record → schema.key.isSome ∧ schema.value.isSome
  reference : schema.kind = .lazy → schema.traits.reference.isSome
  checks : ∀ check ∈ schema.checks, check.IsReadable

/-- A node of most kinds needs no parts. -/
theorem IsFormed.of_kind {schema : Schema} {kind : Kind} (isKind : schema.kind = kind)
    (loose : kind ∉ [.array, .set, .optional, .nullable, .default, .branded, .map, .record, .lazy])
    (checks : ∀ check ∈ schema.checks, check.IsReadable) : schema.IsFormed := by
  subst isKind
  simp only [List.mem_cons, List.not_mem_nil, or_false, not_or] at loose
  obtain ⟨noArray, noSet, noOptional, noNullable, noDefault, noBrand, noMap, noRecord, noLazy⟩ := loose
  refine ⟨fun kind => ?_, fun kind => ?_, fun kind => absurd kind noLazy, checks⟩
  · simp only [List.mem_cons, List.not_mem_nil, or_false] at kind
    rcases kind with kind | kind | kind | kind | kind | kind <;> contradiction
  · rcases kind with kind | kind <;> contradiction

/-- A node that wraps a schema has what it needs. -/
theorem IsFormed.wrap {kind : Kind} {traits : Traits} (child : Schema) (unchecked : traits.checks = [])
    (loose : kind ∉ [.map, .record, .lazy]) : (wrap kind traits child).IsFormed := by
  simp only [List.mem_cons, List.not_mem_nil, or_false, not_or] at loose
  obtain ⟨noMap, noRecord, noLazy⟩ := loose
  refine ⟨fun _ => rfl, fun isKind => ?_, fun isKind => absurd isKind noLazy, ?_⟩
  · rcases isKind with isKind | isKind <;> contradiction
  · show ∀ check ∈ traits.checks, check.IsReadable
    rw [unchecked]
    exact List.forall_mem_nil _

/-! ### Builders -/

/-- The schema is made by functions and methods for building schemas. -/
inductive IsBuilt : Schema → Prop
  | leaf {kind : Kind} (plain : kind ∈ [.string, .number, .bigint, .boolean, .date, .void, .null,
      .undefined, .nan, .any, .unknown]) : IsBuilt (leaf kind {})
  | literal (value : Value) : IsBuilt (literal value)
  | enumeration {values : List Value} {schema : Schema} (made : enumeration values = .ok schema) :
      IsBuilt schema
  | nativeEnumeration (family : Option EnumClass) (values : List Value) :
      IsBuilt (nativeEnumeration family values)
  | custom {schema : Schema} (tag : String) (kind : schema.kind = .other tag)
      (checks : schema.checks = []) (children : ∀ child ∈ schema.children, IsBuilt child) :
      IsBuilt schema
  | lazy (name : String) : IsBuilt (lazy name)
  | object {fields : List (String × Schema)} (each : ∀ field ∈ fields, IsBuilt field.2) :
      IsBuilt (object fields)
  | array {element : Schema} (child : IsBuilt element) : IsBuilt (array element)
  | set {element : Schema} (child : IsBuilt element) : IsBuilt (setOf element)
  | map {key value : Schema} (ofKey : IsBuilt key) (ofValue : IsBuilt value) :
      IsBuilt (mapOf key value)
  | record {key value : Schema} (ofKey : IsBuilt key) (ofValue : IsBuilt value) :
      IsBuilt (recordOf key value)
  | tuple {items : List Schema} {rest : Option Schema} (each : ∀ item ∈ items, IsBuilt item)
      (following : ∀ child ∈ rest, IsBuilt child) : IsBuilt (tuple items rest)
  | union {options : List Schema} {schema : Schema} (each : ∀ option ∈ options, IsBuilt option)
      (made : union options = .ok schema) : IsBuilt schema
  | discriminatedUnion {discriminator : String} {options : List Schema} {schema : Schema}
      (each : ∀ option ∈ options, IsBuilt option)
      (made : discriminatedUnion discriminator options = .ok schema) : IsBuilt schema
  | intersection {left right : Schema} (ofLeft : IsBuilt left) (ofRight : IsBuilt right) :
      IsBuilt (intersection left right)
  | function {arguments returns : Option Schema} (ofResult : ∀ child ∈ returns, IsBuilt child) :
      IsBuilt (function arguments returns)
  | promise {inner : Schema} (child : IsBuilt inner) : IsBuilt (promise inner)
  | check {schema : Schema} {check : Check} (before : IsBuilt schema)
      (other : ∀ pattern, check ≠ .regex pattern) : IsBuilt (schema.withCheck check)
  | regex {schema result : Schema} {source : String} (before : IsBuilt schema)
      (made : schema.regex (.text source) = .ok result) : IsBuilt result
  | optional {inner : Schema} (child : IsBuilt inner) : IsBuilt inner.optional
  | nullable {inner : Schema} (child : IsBuilt inner) : IsBuilt inner.nullable
  | default {inner : Schema} (child : IsBuilt inner) (fallback : Fallback) :
      IsBuilt (inner.default fallback)
  | brand {inner : Schema} (child : IsBuilt inner) (name : Value) : IsBuilt (inner.brand name)
  | transform {inner : Schema} (child : IsBuilt inner) (effect : Hook) :
      IsBuilt (inner.transform effect)
  | describe {schema : Schema} (before : IsBuilt schema) (description : Value) :
      IsBuilt (schema.describe description)
  | withRest {schema rest result : Schema} (before : IsBuilt schema) (following : IsBuilt rest)
      (made : schema.withRest rest = .ok result) : IsBuilt result
  | unwrap {schema inner : Schema} (before : IsBuilt schema) (made : schema.unwrap = .ok inner) :
      IsBuilt inner

/-! ### Fields -/

theorem forall_putField {property : Schema → Prop} {fields : List (String × Schema)}
    (each : ∀ field ∈ fields, property field.2) {name : String} {schema : Schema}
    (holds : property schema) : ∀ field ∈ putField fields name schema, property field.2 := by
  induction fields with
  | nil => exact List.forall_mem_singleton.2 holds
  | cons first rest hypothesis =>
    obtain ⟨before, old⟩ := first
    rw [List.forall_mem_cons] at each
    unfold putField
    split
    · exact List.forall_mem_cons.2 ⟨holds, each.2⟩
    · exact List.forall_mem_cons.2 ⟨each.1, hypothesis each.2⟩

/-- The children of an object are among those that it was made with. -/
theorem children_object {property : Schema → Prop} {given : List (String × Schema)}
    (each : ∀ field ∈ given, property field.2) : ∀ child ∈ (object given).children, property child := by
  have gathered : ∀ found : List (String × Schema), (∀ field ∈ found, property field.2) →
      ∀ field ∈ given.foldl (fun found field => putField found field.1 field.2) found,
        property field.2 := by
    induction given with
    | nil => exact fun found hold => hold
    | cons first rest hypothesis =>
      rw [List.forall_mem_cons] at each
      exact fun found hold => hypothesis each.2 _ (forall_putField hold each.1)
  intro child mem
  simp only [object, children, fields, inner, key, value, rest, items, Option.toList_none,
    Option.getD_some, List.append_nil] at mem
  obtain ⟨field, listed, rfl⟩ := List.mem_map.1 mem
  exact gathered [] (List.forall_mem_nil _) field listed

/-! ### Schemas with their parts -/

/-- Other traits leave a node with its parts, if its checks are readable. -/
theorem everywhere_setTraits {schema : Schema} (formed : schema.Everywhere IsFormed)
    {traits : Traits} (reference : traits.reference = schema.traits.reference)
    (checks : ∀ check ∈ traits.checks, check.IsReadable) :
    (schema.setTraits traits).Everywhere IsFormed := by
  obtain ⟨here, inside⟩ := formed
  cases schema with
  | node kind old fields inner key value rest arguments items =>
    exact .intro ⟨here.inner, here.entries, fun isLazy => reference ▸ here.reference isLazy, checks⟩
      inside

theorem everywhere_withCheck {schema : Schema} (formed : schema.Everywhere IsFormed) {check : Check}
    (readable : check.IsReadable) : (schema.withCheck check).Everywhere IsFormed := by
  refine everywhere_setTraits formed rfl ?_
  exact List.forall_mem_append.2 ⟨formed.here.checks, List.forall_mem_singleton.2 readable⟩

theorem everywhere_setRest {schema rest : Schema} (formed : schema.Everywhere IsFormed)
    (following : rest.Everywhere IsFormed) : (schema.setRest rest).Everywhere IsFormed := by
  obtain ⟨here, inside⟩ := formed
  cases schema with
  | node kind traits fields inner key value old arguments items =>
    refine .intro ⟨here.inner, here.entries, here.reference, here.checks⟩ fun child mem => ?_
    simp only [setRest, children, Schema.fields, Schema.inner, Schema.key, Schema.value, Schema.rest,
      Schema.items, List.mem_append, Option.toList_some, List.mem_singleton] at mem inside
    rcases mem with (mem | rfl) | mem
    · exact inside child (.inl (.inl mem))
    · exact following
    · exact inside child (.inr mem)

/-- A node without checks whose kind needs no parts. -/
theorem everywhere_of_kind {schema : Schema} (kind : Kind) (isKind : schema.kind = kind)
    (loose : kind ∉ [.array, .set, .optional, .nullable, .default, .branded, .map, .record, .lazy])
    (unchecked : schema.checks = [])
    (children : ∀ child ∈ schema.children, child.Everywhere IsFormed) :
    schema.Everywhere IsFormed :=
  .intro (.of_kind isKind loose (by rw [unchecked]; exact List.forall_mem_nil _)) children

/-- Every node of a schema that builders make has the parts that it needs. -/
theorem IsBuilt.formed {schema : Schema} (built : schema.IsBuilt) : schema.Everywhere IsFormed := by
  induction built with
  | leaf plain =>
    refine everywhere_of_kind _ rfl ?_ rfl (List.forall_mem_nil _)
    simp only [List.mem_cons, List.not_mem_nil, or_false] at plain
    rcases plain with rfl | rfl | rfl | rfl | rfl | rfl | rfl | rfl | rfl | rfl | rfl <;> decide
  | literal value => exact everywhere_of_kind .literal rfl (by decide) rfl (List.forall_mem_nil _)
  | enumeration made =>
    obtain ⟨-, rfl⟩ := enumeration_eq_ok.1 made
    exact everywhere_of_kind .enumeration rfl (by decide) rfl (List.forall_mem_nil _)
  | nativeEnumeration family values =>
    exact everywhere_of_kind .nativeEnumeration rfl (by decide) rfl (List.forall_mem_nil _)
  | custom tag kind checks _ children =>
    exact everywhere_of_kind _ kind (by simp) checks children
  | lazy name =>
    refine .intro ⟨fun kind => ?_, ?_, fun _ => rfl, List.forall_mem_nil _⟩ (List.forall_mem_nil _)
    · simp [Schema.lazy, Schema.leaf, Schema.kind] at kind
    · rintro (kind | kind) <;> cases kind
  | object each hypothesis =>
    exact everywhere_of_kind .object rfl (by decide) rfl (children_object hypothesis)
  | array child hypothesis | set child hypothesis | optional child hypothesis
  | nullable child hypothesis | default child fallback hypothesis | brand child name hypothesis
  | transform child effect hypothesis | promise child hypothesis =>
    exact .intro (.wrap _ rfl (by decide)) (List.forall_mem_singleton.2 hypothesis)
  | map ofKey ofValue keys values | record ofKey ofValue keys values =>
    refine .intro ⟨fun kind => ?_, fun _ => ⟨rfl, rfl⟩, fun kind => ?_, List.forall_mem_nil _⟩
      (List.forall_mem_cons.2 ⟨keys, List.forall_mem_singleton.2 values⟩) <;>
      simp [mapOf, recordOf, Schema.kind] at kind
  | tuple each following items rest =>
    refine everywhere_of_kind .tuple rfl (by decide) rfl ?_
    exact List.forall_mem_append.2 ⟨fun child mem => rest child (Option.mem_toList.1 mem), items⟩
  | union each made items =>
    obtain ⟨-, rfl⟩ := union_eq_ok.1 made
    exact everywhere_of_kind .union rfl (by decide) rfl items
  | discriminatedUnion each made items =>
    obtain ⟨-, rfl⟩ := discriminatedUnion_eq_ok.1 made
    exact everywhere_of_kind .discriminatedUnion rfl (by decide) rfl items
  | intersection ofLeft ofRight left right =>
    exact everywhere_of_kind .intersection rfl (by decide) rfl
      (List.forall_mem_cons.2 ⟨left, List.forall_mem_singleton.2 right⟩)
  | @function arguments returns ofResult result =>
    refine everywhere_of_kind .function rfl (by decide) rfl (List.forall_mem_singleton.2 ?_)
    cases returns with
    | none => exact everywhere_of_kind .unknown rfl (by decide) rfl (List.forall_mem_nil _)
    | some child => exact result child rfl
  | @check schema check _ other formed =>
    refine everywhere_withCheck formed ?_
    cases check with
    | regex pattern => exact absurd rfl (other pattern)
    | _ => exact True.intro
  | @regex schema result source _ made formed =>
    obtain ⟨⟨tree, reads⟩, rfl⟩ := regex_text_eq_ok.1 made
    exact everywhere_withCheck formed ⟨source, tree, rfl, reads⟩
  | describe _ description formed => exact everywhere_setTraits formed rfl formed.here.checks
  | @withRest schema rest result _ _ made formed following =>
    obtain ⟨-, rfl⟩ := withRest_eq_ok.1 made
    exact everywhere_setRest formed following
  | @unwrap schema inner _ made formed =>
    refine formed.inside inner ?_
    simp [children, unwrap_eq_ok.1 made]

end Schema

end Specimen
