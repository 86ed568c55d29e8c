/-
**Samples that differ only in texts for patterns.**

`Schema.SameButPatterns` says of two schemas that they are the same but for the patterns and bounds
of text nodes that have to match a pattern. A `Sketch` is what samples of two such schemas have in
common: the keys, the lengths, the chosen options and every leaf, but of a text for a pattern only
the seed that it is drawn from. `Sketch.fill` is the sample that a sketch stands for under a schema.
-/

import Mathlib.Data.List.Forall2
import Specimen.Generation

namespace Specimen

/-! ### Texts for patterns -/

/-- The text that a pattern has under a seed. -/
def Draw.patternDraw (environment : Environment) (pattern limit : Value) (seed : Nat) : Except Fault String :=
  match pattern with
  | .text source => do
    let nodes ← readPattern source
    environment.sampleText nodes (if limit.isNull then copyLimit else limit) seed
  | _ => .error .wrongType

namespace Schema

/-- A text node that carries a check for a pattern; no such check is made without a pattern. -/
structure IsPatterned (schema : Schema) : Prop where
  kind : schema.kind = .string
  carries : ∃ pattern, Check.regex pattern ∈ schema.checks
  proper : ∀ pattern, Check.regex pattern ∈ schema.checks → pattern.isNull = false

/-- The text of a node that has to match a pattern, under a seed; absent if there is none. -/
def patternText (environment : Environment) (schema : Schema) (seed : Nat) : Value :=
  let bounds := TextBounds.ofChecks schema.checks
  match Draw.patternDraw environment (bounds.pattern.getD .null) (bounds.max.getD .null) seed with
  | .ok text => .text text
  | .error _ => .absent

end Schema

/-! ### Schemas -/

/-- The kinds of nodes below which schemas with different patterns are compared. -/
def Kind.isTransparent : Kind → Bool
  | .object | .array | .tuple | .union | .discriminatedUnion | .optional | .nullable | .branded =>
    true
  | _ => false

namespace Schema

/-- Two schemas that are the same but for text nodes that have to match a pattern. -/
inductive SameButPatterns : Schema → Schema → Prop
  | same (schema : Schema) : SameButPatterns schema schema
  | pattern {left right : Schema} (first : left.IsPatterned) (second : right.IsPatterned) :
      SameButPatterns left right
  | node {left right : Schema} (transparent : left.kind.isTransparent = true)
      (kind : right.kind = left.kind) (checks : right.checks = left.checks)
      (names : (right.fields.getD []).map (·.1) = (left.fields.getD []).map (·.1))
      (fields : List.Forall₂ SameButPatterns ((left.fields.getD []).map (·.2))
        ((right.fields.getD []).map (·.2)))
      (inner : Option.Rel SameButPatterns left.inner right.inner)
      (rest : Option.Rel SameButPatterns left.rest right.rest)
      (items : List.Forall₂ SameButPatterns left.items right.items) : SameButPatterns left right

end Schema

/-! ### Sketches -/

/-- What two samples have in common. -/
inductive Sketch where
  /-- The same value in both. -/
  | settled (value : Value)
  /-- A text for a pattern, drawn under the same seed in both. -/
  | pattern (seed : Nat)
  | object (fields : List Sketch)
  | array (items : List Sketch)
  | tuple (items rest : List Sketch)
  /-- A sample of the option at a place. -/
  | choice (place : Nat) (chosen : Sketch)
  | wrapped (inner : Sketch)

namespace Sketch

variable (environment : Environment)

mutual

/-- The sample of a schema that a sketch stands for. -/
def fill : Sketch → Schema → Value
  | .settled value, _ => value
  | .pattern seed, schema => Schema.patternText environment schema seed
  | .object fields, schema => .dictionary (fillFields fields (schema.fields.getD []))
  | .array items, schema => .list (fillAll items schema.inner)
  | .tuple items rest, schema => .tuple (fillEach items schema.items ++ fillAll rest schema.rest)
  | .choice place chosen, schema =>
    match schema.items[place]? with
    | some option => fill chosen option
    | none => .absent
  | .wrapped inner, schema =>
    match schema.inner with
    | some child => fill inner child
    | none => .absent
  termination_by structural sketch => sketch

/-- The fields of an object. -/
def fillFields : List Sketch → List (String × Schema) → List (Value × Value)
  | sketch :: sketches, (name, schema) :: fields =>
    (.text name, fill sketch schema) :: fillFields sketches fields
  | _, _ => []
  termination_by structural sketches => sketches

/-- Samples of one schema each. -/
def fillEach : List Sketch → List Schema → List Value
  | sketch :: sketches, schema :: schemas => fill sketch schema :: fillEach sketches schemas
  | _, _ => []
  termination_by structural sketches => sketches

/-- Samples of the same schema. -/
def fillAll : List Sketch → Option Schema → List Value
  | sketch :: sketches, some schema => fill sketch schema :: fillAll sketches (some schema)
  | _, _ => []
  termination_by structural sketches => sketches

end

end Sketch

/-- Two samples that one sketch stands for. -/
def Schema.Sketched (environment : Environment) (left right : Schema) (value other : Value) : Prop :=
  ∃ sketch : Sketch, value = sketch.fill environment left ∧ other = sketch.fill environment right

end Specimen
