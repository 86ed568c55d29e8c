/-
**Schemas.**

A schema describes the shape of values. It is a tree of nodes: the kind of a node says what it
describes, its traits hold checks, literals and the like, and its children describe the parts. A
node may carry traits and children that its kind has no use for, and one made by hand may lack
children that its kind needs.

Functions of the caller are named by hooks; what a hook does is up to the environment that a
schema is used in. A lazy node names a definition, which is looked up when it is needed.
-/

import Specimen.Value

namespace Specimen

/-! ### Kinds -/

/-- What a node describes. -/
inductive Kind where
  | string
  | number
  | bigint
  | boolean
  | date
  | object
  | array
  | set
  | map
  | record
  | tuple
  | union
  | discriminatedUnion
  | intersection
  | enumeration
  | nativeEnumeration
  | literal
  | optional
  | nullable
  | default
  | branded
  | effects
  | function
  | promise
  | lazy
  | void
  | null
  | undefined
  | nan
  | any
  | unknown
  /-- A kind of the caller's own. -/
  | other (tag : String)
  deriving DecidableEq

namespace Kind

/-- The tag of a kind. -/
def tag : Kind → String
  | .string => "string"
  | .number => "number"
  | .bigint => "bigint"
  | .boolean => "boolean"
  | .date => "date"
  | .object => "object"
  | .array => "array"
  | .set => "set"
  | .map => "map"
  | .record => "record"
  | .tuple => "tuple"
  | .union => "union"
  | .discriminatedUnion => "discriminated_union"
  | .intersection => "intersection"
  | .enumeration => "enum"
  | .nativeEnumeration => "native_enum"
  | .literal => "literal"
  | .optional => "optional"
  | .nullable => "nullable"
  | .default => "default"
  | .branded => "branded"
  | .effects => "effects"
  | .function => "function"
  | .promise => "promise"
  | .lazy => "lazy"
  | .void => "void"
  | .null => "null"
  | .undefined => "undefined"
  | .nan => "nan"
  | .any => "any"
  | .unknown => "unknown"
  | .other tag => tag

/-- The kinds that this library knows. -/
def known : List Kind :=
  [.string, .number, .bigint, .boolean, .date, .object, .array, .set, .map, .record, .tuple, .union,
    .discriminatedUnion, .intersection, .enumeration, .nativeEnumeration, .literal, .optional,
    .nullable, .default, .branded, .effects, .function, .promise, .lazy, .void, .null, .undefined,
    .nan, .any, .unknown]

/-- The kind of a tag: the known one, if there is one. -/
def ofTag (tag : String) : Kind := (known.find? fun kind => kind.tag == tag).getD (.other tag)

/-- The kinds whose nodes decide for themselves about a value that is absent. -/
def acceptsAbsent : Kind → Bool
  | .optional | .default | .void | .undefined | .any | .unknown | .effects | .lazy | .branded
  | .union | .intersection => true
  | _ => false

end Kind

/-! ### Traits -/

/-- The name of a function of the caller. -/
structure Hook where
  id : Nat
  deriving DecidableEq

/-- A check on a value. Bounds are on the length of texts, the size of collections and the value of
numbers and dates. -/
inductive Check where
  | min (bound : Value) (inclusive : Bool)
  | max (bound : Value) (inclusive : Bool)
  | length (bound : Value)
  | integer
  /-- A pattern by its source, or what was given in its place that is no text. -/
  | regex (pattern : Value)
  | email
  | url
  | uuid
  | datetime

namespace Check

/-- The name of the kind of a check. -/
def name : Check → String
  | .min _ _ => "min"
  | .max _ _ => "max"
  | .length _ => "length"
  | .integer => "int"
  | .regex _ => "regex"
  | .email => "email"
  | .url => "url"
  | .uuid => "uuid"
  | .datetime => "datetime"

/-- The value that a check is made with. -/
def argument : Check → Value
  | .min bound _ => bound
  | .max bound _ => bound
  | .length bound => bound
  | .regex pattern => pattern
  | _ => .null

/-- Does a bound include the value itself? -/
def isInclusive : Check → Bool
  | .min _ inclusive => inclusive
  | .max _ inclusive => inclusive
  | _ => true

end Check

/-- Where the value of a default node comes from. -/
inductive Fallback where
  /-- A copy of a value; a value that is a function is called instead. -/
  | value (value : Value)
  /-- What a function of the caller returns. -/
  | hook (hook : Hook)

/-- What a node holds besides its children. -/
structure Traits where
  checks : List Check := []
  values : List Value := []
  literal : Value := .null
  fallback : Option Fallback := none
  effect : Option Hook := none
  /-- The definition that a lazy node stands for. -/
  reference : Option String := none
  discriminator : Value := .null
  brand : Value := .null
  /-- The name of the enumeration that the values were taken from. -/
  family : Option EnumClass := none
  description : Value := .null

/-! ### Nodes -/

/-- A schema: a node with its kind, its traits and its children. -/
inductive Schema where
  | node (kind : Kind) (traits : Traits) (fields : Option (List (String × Schema)))
    (inner key value rest arguments : Option Schema) (items : List Schema)

namespace Schema

/-- A node without children. -/
def leaf (kind : Kind) (traits : Traits) : Schema :=
  .node kind traits none none none none none none []

/-- A node with one child. -/
def wrap (kind : Kind) (traits : Traits) (inner : Schema) : Schema :=
  .node kind traits none (some inner) none none none none []

instance : Inhabited Schema := ⟨leaf .unknown {}⟩

/-- What the node describes. -/
def kind : Schema → Kind
  | .node kind _ _ _ _ _ _ _ _ => kind

/-- The tag of the kind. -/
def tag (schema : Schema) : String := schema.kind.tag

/-- What the node holds besides its children. -/
def traits : Schema → Traits
  | .node _ traits _ _ _ _ _ _ _ => traits

/-- The checks, in the order in which they were declared. -/
def checks (schema : Schema) : List Check := schema.traits.checks

/-- The described fields of an object. -/
def fields : Schema → Option (List (String × Schema))
  | .node _ _ fields _ _ _ _ _ _ => fields

/-- The child that describes what the node wraps or contains. -/
def inner : Schema → Option Schema
  | .node _ _ _ inner _ _ _ _ _ => inner

/-- The child that describes keys. -/
def key : Schema → Option Schema
  | .node _ _ _ _ key _ _ _ _ => key

/-- The child that describes the values under keys. -/
def value : Schema → Option Schema
  | .node _ _ _ _ _ value _ _ _ => value

/-- The child that describes what follows the items of a tuple. -/
def rest : Schema → Option Schema
  | .node _ _ _ _ _ _ rest _ _ => rest

/-- The child that describes the arguments of a function. -/
def arguments : Schema → Option Schema
  | .node _ _ _ _ _ _ _ arguments _ => arguments

/-- The children that describe the items of a tuple or the parts of a combination. -/
def items : Schema → List Schema
  | .node _ _ _ _ _ _ _ _ items => items

/-- The node with other traits. -/
def setTraits (schema : Schema) (traits : Traits) : Schema :=
  match schema with
  | .node kind _ fields inner key value rest arguments items =>
    .node kind traits fields inner key value rest arguments items

/-- The node with another child for what follows the items of a tuple. -/
def setRest (schema : Schema) (rest : Schema) : Schema :=
  match schema with
  | .node kind traits fields inner key value _ arguments items =>
    .node kind traits fields inner key value (some rest) arguments items

/-- The last declared check of a kind. -/
def lastCheck? (schema : Schema) (name : String) : Option Check :=
  schema.checks.reverse.find? fun check => check.name == name

/-- A short text for a node. -/
def summary (schema : Schema) (quotedTag : String) : String :=
  "SchemaNode(tag=" ++ quotedTag ++ ", checks=" ++ toString schema.checks.length ++ ")"

end Schema

end Specimen
