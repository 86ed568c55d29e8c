/-
**Building schemas.**

Every kind of schema has a function that makes it, and every check and wrapper a function on schemas
that gives a new one. A function that can be misused says so with a `Fault`.
-/

import Specimen.Fault
import Specimen.Pattern.Reader
import Specimen.Schema
import Specimen.Text.Quoted

namespace Specimen

namespace Schema

/-! ### Leaves -/

/-- Texts. -/
def string : Schema := leaf .string {}

/-- Integers and binary64 numbers. -/
def number : Schema := leaf .number {}

/-- Integers of any size. -/
def bigint : Schema := leaf .bigint {}

/-- Booleans. -/
def boolean : Schema := leaf .boolean {}

/-- Moments. -/
def date : Schema := leaf .date {}

/-- No value. -/
def void : Schema := leaf .void {}

/-- The null value. -/
def null : Schema := leaf .null {}

/-- No value. -/
def undefined : Schema := leaf .undefined {}

/-- The float that is not a number. -/
def nan : Schema := leaf .nan {}

/-- Any value. -/
def any : Schema := leaf .any {}

/-- A value that nothing is known of. -/
def unknown : Schema := leaf .unknown {}

/-- One value. -/
def literal (value : Value) : Schema := leaf .literal { literal := value }

/-- A definition that is looked up when it is needed. -/
def lazy (reference : String) : Schema := leaf .lazy { reference := some reference }

/-- One of several values, of which there must be one at least. -/
def enumeration (values : List Value) : Except Fault Schema :=
  if values.isEmpty then .error (.misuse .emptyEnumeration)
  else .ok (leaf .enumeration { values := values })

theorem enumeration_eq_ok {values : List Value} {schema : Schema} :
    enumeration values = .ok schema ↔ values ≠ [] ∧ schema = leaf .enumeration { values := values } := by
  cases values <;> simp [enumeration, eq_comm]

/-- One of the values of an enumeration, which may have a name. -/
def nativeEnumeration (family : Option EnumClass) (values : List Value) : Schema :=
  leaf .nativeEnumeration { values := values, family := family }

/-! ### Collections and combinations -/

/-- Puts a field: a name that is there keeps its place and gets the new schema. -/
def putField (fields : List (String × Schema)) (name : String) (schema : Schema) :
    List (String × Schema) :=
  match fields with
  | [] => [(name, schema)]
  | (first, old) :: rest =>
    if first = name then (first, schema) :: rest else (first, old) :: putField rest name schema

/-- Dictionaries with the given fields; a field that is given again keeps its place. -/
def object (fields : List (String × Schema)) : Schema :=
  let distinct := fields.foldl (fun found field => putField found field.1 field.2) []
  .node .object {} (some distinct) none none none none none []

/-- Lists of elements. -/
def array (element : Schema) : Schema := wrap .array {} element

/-- Sets of elements. -/
def setOf (element : Schema) : Schema := wrap .set {} element

/-- Dictionaries by the schemas of their keys and values. -/
def mapOf (key value : Schema) : Schema :=
  .node .map {} none none (some key) (some value) none none []

/-- Dictionaries by the schemas of their keys and values. -/
def recordOf (key value : Schema) : Schema :=
  .node .record {} none none (some key) (some value) none none []

/-- Tuples of the given items, and after them any number of further ones if `rest` is given. -/
def tuple (items : List Schema) (rest : Option Schema) : Schema :=
  .node .tuple {} none none none none rest none items

/-- Values of one of several schemas, of which there must be one at least. -/
def union (options : List Schema) : Except Fault Schema :=
  if options.isEmpty then .error (.misuse .emptyUnion)
  else .ok (.node .union {} none none none none none none options)

theorem union_eq_ok {options : List Schema} {schema : Schema} :
    union options = .ok schema ↔
      options ≠ [] ∧ schema = .node .union {} none none none none none none options := by
  cases options <;> simp [union, eq_comm]

/-- Is this an object that declares a field? -/
def declares (name : String) (schema : Schema) : Bool :=
  schema.kind == .object && (schema.fields.getD []).any fun field => field.1 == name

/-- Objects of one of several schemas, which all declare the discriminating field. -/
def discriminatedUnion (discriminator : String) (options : List Schema) : Except Fault Schema :=
  if options.all (declares discriminator) then
    .ok (.node .discriminatedUnion { discriminator := .text discriminator } none none none none none
      none options)
  else .error (.misuse (.undeclaredDiscriminator discriminator))

theorem discriminatedUnion_eq_ok {discriminator : String} {options : List Schema} {schema : Schema} :
    discriminatedUnion discriminator options = .ok schema ↔
      (∀ option ∈ options, option.declares discriminator) ∧
        schema = .node .discriminatedUnion { discriminator := .text discriminator } none none none none
          none none options := by
  unfold discriminatedUnion
  split
  · next declared =>
    rw [Except.ok.injEq, eq_comm]
    exact ⟨fun made => ⟨List.all_eq_true.1 declared, made⟩, And.right⟩
  · next undeclared =>
    exact ⟨nofun, fun ⟨declared, _⟩ => absurd (List.all_eq_true.2 declared) undeclared⟩

/-- Values of both schemas. -/
def intersection (left right : Schema) : Schema :=
  .node .intersection {} none none none none none none [left, right]

/-- Functions by the schemas of their arguments and results. -/
def function (arguments returns : Option Schema) : Schema :=
  .node .function {} none (some (returns.getD unknown)) none none none
    (some (arguments.getD (tuple [] none))) []

/-- Promises of values. -/
def promise (inner : Schema) : Schema := wrap .promise {} inner

/-! ### Checks -/

/-- The schema with one more check. -/
def withCheck (schema : Schema) (check : Check) : Schema :=
  schema.setTraits { schema.traits with checks := schema.traits.checks ++ [check] }

/-- Bounded from below. -/
def min (schema : Schema) (bound : Value) (inclusive : Bool) : Schema :=
  schema.withCheck (.min bound inclusive)

/-- Bounded from above. -/
def max (schema : Schema) (bound : Value) (inclusive : Bool) : Schema :=
  schema.withCheck (.max bound inclusive)

/-- Of the given length or size. -/
def length (schema : Schema) (bound : Value) : Schema := schema.withCheck (.length bound)

/-- Of length or size 1 at least. -/
def nonempty (schema : Schema) : Schema := schema.min (.int 1) true

/-- Without a fraction. -/
def int (schema : Schema) : Schema := schema.withCheck .integer

/-- Matching a pattern. A text is checked for the form of a pattern; any other value is kept. -/
def regex (schema : Schema) (pattern : Value) : Except Fault Schema :=
  match pattern with
  | .text source => do
    let _ ← readPattern source
    pure (schema.withCheck (.regex (.text source)))
  | other => .ok (schema.withCheck (.regex other))

theorem regex_text_eq_ok {schema result : Schema} {source : String} :
    schema.regex (.text source) = .ok result ↔
      (∃ tree, readPattern source = .ok tree) ∧
        result = schema.withCheck (.regex (.text source)) := by
  cases reads : readPattern source with
  | error fault => simp [regex, reads, bind, Except.bind]
  | ok tree => simp [regex, reads, bind, Except.bind, pure, Except.pure, eq_comm]

/-! ### Wrappers -/

/-- Also absent. -/
def optional (schema : Schema) : Schema := wrap .optional {} schema

/-- Also null. -/
def nullable (schema : Schema) : Schema := wrap .nullable {} schema

/-- Also absent, with a default. -/
def default (schema : Schema) (fallback : Fallback) : Schema :=
  wrap .default { fallback := some fallback } schema

/-- Under a name. -/
def brand (schema : Schema) (name : Value) : Schema := wrap .branded { brand := name } schema

/-- Transformed by a function of the caller. -/
def transform (schema : Schema) (effect : Hook) : Schema :=
  wrap .effects { effect := some effect } schema

/-- With a description. -/
def describe (schema : Schema) (description : Value) : Schema :=
  schema.setTraits { schema.traits with description := description }

/-- A tuple with the schema of what follows its items. -/
def withRest (schema rest : Schema) : Except Fault Schema :=
  if schema.kind = .tuple then .ok (schema.setRest rest) else .error (.misuse .notATuple)

theorem withRest_eq_ok {schema rest result : Schema} :
    schema.withRest rest = .ok result ↔ schema.kind = .tuple ∧ result = schema.setRest rest := by
  unfold withRest
  split
  · next isTuple => simp [isTuple, eq_comm]
  · next other => simp [other]

/-- What the node wraps or contains. -/
def unwrap (schema : Schema) : Except Fault Schema :=
  match schema.inner with
  | some inner => .ok inner
  | none => .error (.misuse (.nothingToUnwrap schema.tag))

theorem unwrap_eq_ok {schema inner : Schema} :
    schema.unwrap = .ok inner ↔ schema.inner = some inner := by
  unfold unwrap
  split
  · next found => simp [found]
  · next missing => simp [missing]

/-- The definitions that lazy nodes name; one that cannot be built has the fault for its value. -/
abbrev Definitions := List (String × Except Fault Schema)

/-- What a lazy node stands for. -/
def resolve (definitions : Definitions) (schema : Schema) : Except Fault Schema :=
  match schema.traits.reference with
  | none => .error (.misuse .notLazy)
  | some name =>
    match definitions.lookup name with
    | some found => found
    | none => .error (.undefinedReference name)

/-- A short text for the node. -/
def inspect (schema : Schema) : String := schema.summary (quoted schema.tag)

end Schema

end Specimen
