/-
**Walking schemas.**

Every reading of a schema, be it to validate a value or to generate one, says what a node means in
terms of what its children mean. `Parts` are the children's meanings and `Schema.fold` applies
such a rule from the leaves up; a rule also gets the node itself.

`Schema.fold_eq` is the equation of a fold, and `Schema.byParts` the induction that goes with it.
-/

import Specimen.Schema

namespace Specimen

/-- What the children of a node mean. -/
structure Parts (Meaning : Type) where
  fields : List (String × Meaning)
  inner : Option Meaning
  key : Option Meaning
  value : Option Meaning
  rest : Option Meaning
  items : List Meaning

namespace Schema

variable {Meaning : Type}

/-- The children of a node under a meaning. -/
def parts (meaning : Schema → Meaning) (schema : Schema) : Parts Meaning where
  fields := (schema.fields.getD []).map fun field => (field.1, meaning field.2)
  inner := schema.inner.map meaning
  key := schema.key.map meaning
  value := schema.value.map meaning
  rest := schema.rest.map meaning
  items := schema.items.map meaning

mutual

/-- The meaning of a schema by a rule that gives the meaning of a node from those of its children.
-/
def fold (rule : Schema → Parts Meaning → Meaning) : Schema → Meaning
  | .node kind traits fields inner key value rest arguments items =>
    rule (.node kind traits fields inner key value rest arguments items)
      { fields := foldFields rule fields
        inner := foldChild rule inner
        key := foldChild rule key
        value := foldChild rule value
        rest := foldChild rule rest
        items := foldItems rule items }
  termination_by structural schema => schema

/-- The meaning of a child that may be missing. -/
def foldChild (rule : Schema → Parts Meaning → Meaning) : Option Schema → Option Meaning
  | none => none
  | some schema => some (fold rule schema)
  termination_by structural schema => schema

/-- The meanings of a list of children. -/
def foldItems (rule : Schema → Parts Meaning → Meaning) : List Schema → List Meaning
  | [] => []
  | schema :: others => fold rule schema :: foldItems rule others
  termination_by structural schemas => schemas

/-- The meanings of the fields of an object. -/
def foldFields (rule : Schema → Parts Meaning → Meaning) :
    Option (List (String × Schema)) → List (String × Meaning)
  | none => []
  | some fields => foldEntries rule fields
  termination_by structural fields => fields

/-- The meanings of a list of fields. -/
def foldEntries (rule : Schema → Parts Meaning → Meaning) :
    List (String × Schema) → List (String × Meaning)
  | [] => []
  | (name, schema) :: others => (name, fold rule schema) :: foldEntries rule others
  termination_by structural fields => fields

end

/-! ### The equation of a fold -/

theorem foldChild_eq (rule : Schema → Parts Meaning → Meaning) (child : Option Schema) :
    foldChild rule child = child.map (fold rule) := by
  cases child <;> rfl

theorem foldItems_eq (rule : Schema → Parts Meaning → Meaning) (items : List Schema) :
    foldItems rule items = items.map (fold rule) := by
  induction items with
  | nil => rfl
  | cons first others hypothesis => simp [foldItems, hypothesis]

theorem foldEntries_eq (rule : Schema → Parts Meaning → Meaning) (fields : List (String × Schema)) :
    foldEntries rule fields = fields.map fun field => (field.1, fold rule field.2) := by
  induction fields with
  | nil => rfl
  | cons first others hypothesis => simp [foldEntries, hypothesis]

theorem foldFields_eq (rule : Schema → Parts Meaning → Meaning)
    (fields : Option (List (String × Schema))) :
    foldFields rule fields = (fields.getD []).map fun field => (field.1, fold rule field.2) := by
  cases fields with
  | none => rfl
  | some fields => simp [foldFields, foldEntries_eq]

/-- A fold applies its rule to the node and to the folds of its children. -/
theorem fold_eq (rule : Schema → Parts Meaning → Meaning) (schema : Schema) :
    fold rule schema = rule schema (schema.parts (fold rule)) := by
  cases schema
  simp only [fold, parts, foldChild_eq, foldItems_eq, foldFields_eq, fields, inner, key, value,
    rest, items]

/-! ### Induction -/

/-- The children that a fold looks at. -/
def children (schema : Schema) : List Schema :=
  (schema.fields.getD []).map (·.2) ++ schema.inner.toList ++ schema.key.toList ++
    schema.value.toList ++ schema.rest.toList ++ schema.items

mutual

/-- A property holds of every schema if it holds of a node whenever it holds of its children. -/
theorem byParts {Property : Schema → Prop}
    (step : ∀ schema, (∀ child ∈ schema.children, Property child) → Property schema) :
    ∀ schema, Property schema
  | .node kind traits fields inner key value rest arguments items => by
    refine step _ fun child mem => ?_
    simp only [children, Schema.fields, Schema.inner, Schema.key, Schema.value, Schema.rest,
      Schema.items, List.mem_append] at mem
    rcases mem with ((((mem | mem) | mem) | mem) | mem) | mem
    · exact byPartsFields step fields child mem
    · exact byPartsChild step inner child mem
    · exact byPartsChild step key child mem
    · exact byPartsChild step value child mem
    · exact byPartsChild step rest child mem
    · exact byPartsItems step items child mem
  termination_by structural schema => schema

theorem byPartsChild {Property : Schema → Prop}
    (step : ∀ schema, (∀ child ∈ schema.children, Property child) → Property schema) :
    ∀ (schema : Option Schema) (child : Schema), child ∈ schema.toList → Property child
  | none, _, mem => by simp at mem
  | some schema, child, mem => by
    simp only [Option.toList_some, List.mem_singleton] at mem
    exact mem ▸ byParts step schema
  termination_by structural schema => schema

theorem byPartsItems {Property : Schema → Prop}
    (step : ∀ schema, (∀ child ∈ schema.children, Property child) → Property schema) :
    ∀ (items : List Schema) (child : Schema), child ∈ items → Property child
  | [], _, mem => by simp at mem
  | first :: others, child, mem => by
    rcases List.mem_cons.1 mem with same | later
    · exact same ▸ byParts step first
    · exact byPartsItems step others child later
  termination_by structural items => items

theorem byPartsFields {Property : Schema → Prop}
    (step : ∀ schema, (∀ child ∈ schema.children, Property child) → Property schema) :
    ∀ (fields : Option (List (String × Schema))) (child : Schema),
      child ∈ (fields.getD []).map (·.2) → Property child
  | none, _, mem => by simp at mem
  | some fields, child, mem => byPartsEntries step fields child mem
  termination_by structural fields => fields

theorem byPartsEntries {Property : Schema → Prop}
    (step : ∀ schema, (∀ child ∈ schema.children, Property child) → Property schema) :
    ∀ (fields : List (String × Schema)) (child : Schema),
      child ∈ fields.map (·.2) → Property child
  | [], _, mem => by simp at mem
  | (_, first) :: others, child, mem => by
    rcases List.mem_cons.1 mem with same | later
    · exact same ▸ byParts step first
    · exact byPartsEntries step others child later
  termination_by structural fields => fields

end

end Schema

end Specimen
