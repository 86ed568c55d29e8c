/-
**Documents.**

A document describes values in the manner of JSON Schema; `Document.build` turns a description
into a schema. References become lazy nodes that name one of the definitions of the document, so a
definition may refer to itself.

Of the keywords of a description the first one in this order decides what the node is: `$ref`,
`const`, `enum`, `oneOf`, `anyOf`, `allOf`, `type`; without any of them the other keywords tell
whether it is an object, an array or anything at all.
-/

import Specimen.Schema.Builder
import Specimen.Value.Convert
import Specimen.Value.Text

namespace Specimen

/-- The entries of a dictionary. -/
abbrev Entries := List (Value × Value)

/-- A document: its root description and its definitions by name. -/
structure Document where
  root : Value
  definitions : Entries

namespace Document

/-! ### Keywords -/

/-- Is a keyword there? -/
def has (entries : Entries) (keyword : String) : Bool := (Value.field? entries keyword).isSome

/-- The value of a keyword, null if it is not there. -/
def get (entries : Entries) (keyword : String) : Value :=
  (Value.field? entries keyword).getD .null

/-- Are these the words of a text? -/
def isWord (word : String) (value : Value) : Bool := value.equals (.text word)

/-! ### Definitions -/

/-- One entry from a pair that any sequence of two can be. -/
def pairOf (value : Value) : Except Fault (Value × Value) := do
  match ← value.items with
  | [key, content] => if key.isHashable then pure (key, content) else throw .wrongType
  | _ => throw .outOfDomain

/-- The entries of a dictionary or of a sequence of pairs. -/
def entriesOf : Value → Except Fault Entries
  | .dictionary entries => .ok entries
  | value => do (← value.items).mapM pairOf

/-- The definitions together with those of one more place, where there may be none. -/
def addDefinitions (found : Entries) (place : Value) : Except Fault Entries := do
  if place.isTruthy then pure (Value.putAll found (← entriesOf place)) else pure found

/-- The value of a keyword of something that may be nothing. -/
def inside (place : Value) (keyword : String) : Except Fault Value :=
  if !place.isTruthy then .ok .null
  else
    match place with
    | .dictionary entries => .ok (get entries keyword)
    | _ => .error .missingPart

/-- The document of a value, which has to be a dictionary. -/
def ofValue (value : Value) : Except Fault Document :=
  match value with
  | .dictionary entries => do
    let components ← addDefinitions [] (← inside (get entries "components") "schemas")
    let legacy ← addDefinitions components (get entries "definitions")
    pure ⟨value, ← addDefinitions legacy (get entries "$defs")⟩
  | _ => .error (.load .notAnObject)

/-! ### References -/

/-- The places that a reference can point into. -/
def referencePlaces : List String := ["#/definitions/", "#/$defs/", "#/components/schemas/"]

/-- What follows a prefix. -/
def afterPrefix? (lead text : List Char) : Option (List Char) :=
  if lead.isPrefixOf text then some (text.drop lead.length) else none

/-- The text without a line break at its end. -/
def withoutBreak (text : List Char) : List Char :=
  if text.getLast? = some '\n' then text.dropLast else text

/-- The name that a reference points to. -/
def referenceName? (reference : String) : Option String := do
  let rest ← referencePlaces.findSome? fun place => afterPrefix? place.toList reference.toList
  let name := withoutBreak rest
  if name.isEmpty || name.contains '\n' then none else some (String.ofList name)

/-- The schema of a reference. -/
def buildReference (definitions : Entries) (reference : Value) : Except Fault Schema :=
  match reference with
  | .text text =>
    match referenceName? text with
    | none => .error (.load (.unsupportedReference text))
    | some name =>
      if has definitions name then .ok (.lazy name)
      else .error (.load (.unresolvedReference text))
  | _ => .error .wrongType

/-! ### Texts and numbers -/

/-- Applies a builder with a keyword's value if the keyword is there. -/
def withKeyword (entries : Entries) (keyword : String) (schema : Schema)
    (apply : Schema → Value → Except Fault Schema) : Except Fault Schema :=
  match Value.field? entries keyword with
  | some value => apply schema value
  | none => .ok schema

/-- A lower bound on a length or size. -/
def atLeast (schema : Schema) (bound : Value) : Except Fault Schema := do
  pure (schema.min (.int (← bound.toInteger)) true)

/-- An upper bound on a length or size. -/
def atMost (schema : Schema) (bound : Value) : Except Fault Schema := do
  pure (schema.max (.int (← bound.toInteger)) true)

/-- The check of a format. -/
def formatCheck? : String → Option Check
  | "email" => some .email
  | "uri" => some .url
  | "url" => some .url
  | "uuid" => some .uuid
  | "date-time" => some .datetime
  | _ => none

/-- The schema with the check of a format that it knows. -/
def withFormat (schema : Schema) (format : Value) : Except Fault Schema :=
  if !format.isTruthy then .ok schema
  else if !format.isHashable then .error .wrongType
  else
    match format with
    | .text name => .ok (((formatCheck? name).map schema.withCheck).getD schema)
    | _ => .ok schema

/-- The schema of a text. -/
def buildString (entries : Entries) : Except Fault Schema := do
  let lower ← withKeyword entries "minLength" .string atLeast
  let bounded ← withKeyword entries "maxLength" lower atMost
  let pattern := get entries "pattern"
  let matching ← if pattern.isTruthy then bounded.regex pattern else pure bounded
  withFormat matching (get entries "format")

/-- Is this a number, booleans not counting? -/
def isProperNumber : Value → Bool
  | .int _ => true
  | .float _ => true
  | _ => false

/-- An exclusive bound: the plain bound if the keyword is true, or a number of its own. -/
def exclusiveBound? (entries : Entries) (plain exclusive : String) : Option Value :=
  match get entries exclusive with
  | .bool true => Value.field? entries plain
  | value => if isProperNumber value then some value else none

/-- The schema of a number. -/
def buildNumber (integral : Bool) (entries : Entries) : Except Fault Schema := do
  let plain : Schema := if integral then Schema.number.int else .number
  let lower ← withKeyword entries "minimum" plain fun schema bound => pure (schema.min bound true)
  let upper ← withKeyword entries "maximum" lower fun schema bound => pure (schema.max bound true)
  let above := match exclusiveBound? entries "minimum" "exclusiveMinimum" with
    | some bound => upper.min bound false
    | none => upper
  pure (match exclusiveBound? entries "maximum" "exclusiveMaximum" with
    | some bound => above.max bound false
    | none => above)

/-! ### Collections -/

/-- A builder of the schemas of smaller descriptions. -/
abbrev Builder := Value → Except Fault Schema

/-- The schemas of the descriptions in a sequence. -/
def buildAll (build : Builder) (parts : Value) : Except Fault (List Schema) := do
  (← parts.items).mapM build

/-- The members of a value that may be nothing; they have to be hashable. -/
def nameSet (names : Value) : Except Fault (List Value) := do
  if !names.isTruthy then pure []
  else
    let members ← names.items
    if members.all Value.isHashable then pure members else throw .wrongType

/-- The field of an object, optional unless it is required. -/
def buildField (build : Builder) (required : List Value) (entry : Value × Value) :
    Except Fault (String × Schema) := do
  let schema ← build entry.2
  pure (entry.1.display, if entry.1.isIn required then schema else schema.optional)

/-- The entries of properties, of which there may be none. -/
def propertyEntries (properties : Value) : Except Fault Entries :=
  if !properties.isTruthy then .ok []
  else
    match properties with
    | .dictionary entries => .ok entries
    | _ => .error .missingPart

/-- The schema of an object. Without properties, a description of additional ones makes it a
record. -/
def buildObject (build : Builder) (entries : Entries) : Except Fault Schema := do
  let properties := get entries "properties"
  match properties.isTruthy, get entries "additionalProperties" with
  | false, .dictionary additional => pure (.recordOf .string (← build (.dictionary additional)))
  | _, _ =>
    let required ← nameSet (get entries "required")
    let fields ← (← propertyEntries properties).mapM (buildField build required)
    pure (.object fields)

/-- The description of items where none is given. -/
def usualItems : Value := .dictionary [(.text "type", .text "string")]

/-- The schema of what follows the items of a tuple, where it is described. -/
def buildRest (build : Builder) : Value → Except Fault (Option Schema)
  | .dictionary entries => do pure (some (← build (.dictionary entries)))
  | _ => .ok none

/-- The schema of an array: a tuple if its first items are described one by one. -/
def buildArray (build : Builder) (entries : Entries) : Except Fault Schema := do
  let items := (Value.field? entries "items").getD usualItems
  let first := get entries "prefixItems"
  if first.isTruthy then
    let rest ← buildRest build items
    pure (.tuple (← buildAll build first) rest)
  else
    let element ← build items
    let collection : Schema :=
      if (get entries "uniqueItems").isTruthy then .setOf element else .array element
    let lower ← withKeyword entries "minItems" collection atLeast
    withKeyword entries "maxItems" lower atMost

/-! ### Types -/

/-- The schema of a description with a type. -/
def buildTyped (build : Builder) (type : Value) (entries : Entries) : Except Fault Schema :=
  match type with
  | .text "object" => buildObject build entries
  | .text "array" => buildArray build entries
  | .text "string" => buildString entries
  | .text "integer" => buildNumber true entries
  | .text "number" => buildNumber false entries
  | .text "boolean" => .ok .boolean
  | .text "null" => .ok .null
  | other => .error (.load (.unsupportedType other.display))

/-- The schema of a description with a list of types: the first one but null decides. -/
def buildTypeList (build : Builder) (types : List Value) (entries : Entries) :
    Except Fault Schema := do
  match types.filter fun type => !isWord "null" type with
  | [] => pure .null
  | first :: _ =>
    let schema ← buildTyped build first entries
    pure (if types.any (isWord "null") then schema.nullable else schema)

/-- The schema of a description without a type. -/
def buildUntyped (build : Builder) (entries : Entries) : Except Fault Schema :=
  if has entries "properties" || has entries "additionalProperties" then buildObject build entries
  else if has entries "items" || has entries "prefixItems" then buildArray build entries
  else .ok .any

/-- The schema of a description by its type. -/
def buildByType (build : Builder) (entries : Entries) : Except Fault Schema :=
  match get entries "type" with
  | .null => buildUntyped build entries
  | .list types => buildTypeList build types entries
  | type => buildTyped build type entries

/-! ### Combinations -/

/-- The schema of an enumeration of values. -/
def buildEnumeration : Value → Except Fault Schema
  | .list values =>
    if values.isEmpty then .error (.load .emptyEnumeration) else Schema.enumeration values
  | _ => .error (.load .emptyEnumeration)

/-- The schema of a conjunction: intersections from the left. -/
def buildConjunction (build : Builder) (parts : Value) : Except Fault Schema := do
  match ← buildAll build parts with
  | [] => throw (.load .emptyConjunction)
  | first :: others => pure (others.foldl .intersection first)

/-- The schema of a description by its deciding keyword. -/
def buildBare (definitions : Entries) (build : Builder) (entries : Entries) : Except Fault Schema :=
  match ["$ref", "const", "enum", "oneOf", "anyOf", "allOf"].find? (has entries) with
  | some "$ref" => buildReference definitions (get entries "$ref")
  | some "const" => .ok (.literal (get entries "const"))
  | some "enum" => buildEnumeration (get entries "enum")
  | some "oneOf" => do Schema.union (← buildAll build (get entries "oneOf"))
  | some "anyOf" => do Schema.union (← buildAll build (get entries "anyOf"))
  | some "allOf" => buildConjunction build (get entries "allOf")
  | _ => buildByType build entries

/-! ### Building -/

/-- The schema with the default and the text of its description. -/
def annotate (entries : Entries) (schema : Schema) : Schema :=
  let defaulted := match Value.field? entries "default" with
    | some value => schema.default (.value value)
    | none => schema
  let description := get entries "description"
  if description.isTruthy then defaulted.describe description else defaulted

/-- The schema of a description that nests no deeper than a number of levels. -/
def buildWithin (definitions : Entries) : Nat → Builder
  | 0, value => .error (.load (.notASchema value.inspect))
  | levels + 1, value =>
    match value with
    | .bool true => .ok .any
    | .dictionary [] => .ok .any
    | .dictionary entries => do
      pure (annotate entries (← buildBare definitions (buildWithin definitions levels) entries))
    | other => .error (.load (.notASchema other.inspect))

/-- The schema of a description. -/
def build (document : Document) (value : Value) : Except Fault Schema :=
  buildWithin document.definitions (value.depth + 1) value

/-- The schema of the root. -/
def rootSchema (document : Document) : Except Fault Schema := document.build document.root

/-- The schema of a definition. -/
def definition (document : Document) (name : Value) : Except Fault Schema :=
  if !name.isHashable then .error .wrongType
  else
    match Value.lookup? document.definitions name with
    | some value => document.build value
    | none => .error (.load (.unknownDefinition name.display))

/-- The schema of a definition, or of the root if there is no name. -/
def schemaFor (document : Document) (name : Value) : Except Fault Schema :=
  if name.isTruthy then document.definition name else document.rootSchema

/-- The definitions that lazy nodes of the document name. -/
def schemas (document : Document) : Schema.Definitions :=
  document.definitions.filterMap fun entry =>
    match entry.1 with
    | .text name => some (name, document.build entry.2)
    | _ => none

/-! ### Names -/

/-- Can every two of the names be compared? -/
def areComparable (names : List Value) : Bool :=
  names.length ≤ 1 || names.all fun first => names.all fun second =>
    (first.holds .less second).toOption.isSome

/-- Do two names come in order? -/
def nameOrder (first second : Value) : Bool := (second.holds .less first).toOption != some true

/-- The names of the definitions in order. -/
def names (document : Document) : Except Fault (List Value) :=
  let names := document.definitions.map (·.1)
  if areComparable names then .ok (names.mergeSort nameOrder) else .error .wrongType

end Document

/-- The schema that a value describes: its root, or the definition of a name. -/
def loadSchema (value name : Value) : Except Fault Schema := do
  (← Document.ofValue value).schemaFor name

end Specimen
