/-
**What descriptions mean.**

The meaning of a description on JSON values, without any reference to schemas: every keyword asks
something of a value by itself (`Json.MeetsKeyword`), and a value conforms to a description if it
meets all of its keywords, where parts of the value have to conform to parts of the description
(`Json.Conforms`). Keywords that only annotate ask nothing.

A document is described in a fragment of JSON Schema (`Json.IsDocument`) if each description in it
has one of a few forms, with no keywords but those of its form and annotations, and if no definition
refers to itself by `$ref`, `anyOf` and `allOf` alone.
-/

import Mathlib.Algebra.Order.Group.Unbundled.Abs
import Mathlib.Algebra.Order.Ring.Rat
import Mathlib.Logic.Relation
import Specimen.Json

namespace Specimen

namespace Json

/-! ### Parts -/

/-- The members of an object. -/
def members : Json → List (String × Json)
  | .object members => members
  | _ => []

/-- The items of an array. -/
def items : Json → List Json
  | .array items => items
  | _ => []

/-- The member of an object under a name. -/
def member? (json : Json) (name : String) : Option Json := json.members.lookup name

/-- What stands under a sequence of names, null if there is nothing. -/
def atPlace (json : Json) (names : List String) : Json :=
  names.foldl (fun found name => (found.member? name).getD .null) json

/-- The number that a value is. -/
def rational? : Json → Option Rat
  | .int value => some value
  | .float (.finite negative significand exponent) =>
    some (Binary64.finite negative significand exponent).toRat
  | _ => none

/-- The length of a text. -/
def length? : Json → Option Rat
  | .text content => some content.length
  | _ => none

/-- The number of items of an array. -/
def count? : Json → Option Rat
  | .array items => some items.length
  | _ => none

/-- The value has the type of that name. -/
def HasType (subject : Json) : String → Prop
  | "null" => subject = .null
  | "boolean" => ∃ truth, subject = .bool truth
  | "integer" => ∃ number : Int, subject.rational? = some (number : Rat)
  | "number" => ∃ number, subject.rational? = some number
  | "string" => ∃ text, subject = .text text
  | "array" => ∃ items, subject = .array items
  | "object" => ∃ members, subject = .object members
  | _ => False

/-! ### References -/

/-- The places of definitions in a document, and the beginnings of references into them. -/
def places : List (String × List String) :=
  [("#/components/schemas/", ["components", "schemas"]), ("#/definitions/", ["definitions"]),
    ("#/$defs/", ["$defs"])]

/-- The definitions of a document by name. -/
def definitions (root : Json) : List (String × Json) :=
  places.flatMap fun place => (root.atPlace place.2).members

/-- The definition that a text refers to. -/
def PointsTo (root : Json) (text : String) (target : Json) : Prop :=
  ∃ place ∈ places, ∃ name, text = place.1 ++ name ∧
    (name, target) ∈ (root.atPlace place.2).members

/-! ### Meaning -/

/-- The first number is below the second one, or equal to it where that is included, as far as both
are there. -/
def Limits (inclusive : Bool) (first second : Option Rat) : Prop :=
  ∀ low high, first = some low → second = some high → if inclusive then low ≤ high else low < high

/-- The bound that an exclusive one is: a number of its own, or that of the plain keyword if it is
true. -/
def exclusive? (description : Json) (plain : String) : Json → Option Rat
  | .bool true => (description.member? plain).bind rational?
  | value => value.rational?

section Meaning

variable (root : Json) (conforms : Json → Json → Prop) (description subject : Json)

/-- What a keyword with a value asks of a subject, given what it is to conform. -/
def MeetsKeyword (keyword : String) (value : Json) : Prop :=
  match keyword with
  | "$ref" => ∃ text target, value = .text text ∧ root.PointsTo text target ∧
    conforms target subject
  | "const" => subject = value
  | "enum" => subject ∈ value.items
  | "anyOf" => ∃ part ∈ value.items, conforms part subject
  | "allOf" => ∀ part ∈ value.items, conforms part subject
  | "type" => ∃ type, (value = .text type ∨ .text type ∈ value.items) ∧ subject.HasType type
  | "minLength" => Limits true value.rational? subject.length?
  | "maxLength" => Limits true subject.length? value.rational?
  | "minimum" => Limits true value.rational? subject.rational?
  | "maximum" => Limits true subject.rational? value.rational?
  | "exclusiveMinimum" => Limits false (description.exclusive? "minimum" value) subject.rational?
  | "exclusiveMaximum" => Limits false subject.rational? (description.exclusive? "maximum" value)
  | "minItems" => Limits true value.rational? subject.count?
  | "maxItems" => Limits true subject.count? value.rational?
  | "items" => ∀ item ∈ subject.items, conforms value item
  | "properties" => ∀ field ∈ value.members, ∀ found, subject.member? field.1 = some found →
    conforms field.2 found
  | "required" => ∀ name, .text name ∈ value.items → subject.HasType "object" →
    ∃ found, subject.member? name = some found
  | "additionalProperties" => ∀ member ∈ subject.members,
    member.1 ∉ (description.atPlace ["properties"]).members.map (·.1) → conforms value member.2
  | _ => True

/-- What a description asks of a subject, given what it is to conform. -/
def Meets : Prop :=
  ∀ keyword value, description.member? keyword = some value →
    MeetsKeyword root conforms description subject keyword value

end Meaning

/-- The subject conforms to the description in a document. This is the least relation that holds
wherever the subject meets the description by what is known to conform. -/
inductive Conforms (root : Json) : Json → Json → Prop
  | intro {description subject : Json} {known : Json → Json → Prop}
      (sound : ∀ part piece, known part piece → Conforms root part piece)
      (meets : Meets root known description subject) : Conforms root description subject

section Meaning

variable {root description subject value : Json} {known conforms : Json → Json → Prop}
variable {keyword : String}

theorem MeetsKeyword.mono (implies : ∀ part piece, known part piece → conforms part piece)
    (meets : MeetsKeyword root known description subject keyword value) :
    MeetsKeyword root conforms description subject keyword value := by
  unfold MeetsKeyword at meets ⊢
  split
  case h_1 =>
    obtain ⟨text, target, isText, points, holds⟩ := meets
    exact ⟨text, target, isText, points, implies target subject holds⟩
  case h_4 =>
    obtain ⟨part, mem, holds⟩ := meets
    exact ⟨part, mem, implies part subject holds⟩
  case h_5 => exact fun part mem => implies part subject (meets part mem)
  case h_15 => exact fun item mem => implies value item (meets item mem)
  case h_16 =>
    exact fun field mem found isFound => implies field.2 found (meets field mem found isFound)
  case h_18 => exact fun member mem other => implies value member.2 (meets member mem other)
  all_goals first | exact meets | exact True.intro

/-- A subject conforms to a description exactly if it meets its keywords. -/
theorem conforms_iff :
    Conforms root description subject ↔ Meets root (Conforms root) description subject := by
  constructor
  · rintro ⟨sound, meets⟩
    exact fun keyword value found => (meets keyword value found).mono sound
  · exact fun meets => .intro (fun _ _ => id) meets

end Meaning

/-! ### The fragment -/

/-- Keywords that ask nothing of a value. -/
def annotations : List String := ["default", "description", "definitions", "$defs", "components"]

theorem MeetsKeyword.of_annotates {root description subject value : Json}
    {conforms : Json → Json → Prop} {keyword : String} (annotates : keyword ∈ annotations) :
    MeetsKeyword root conforms description subject keyword value := by
  simp only [annotations, List.mem_cons, List.not_mem_nil, or_false] at annotates
  rcases annotates with rfl | rfl | rfl | rfl | rfl <;> simp [MeetsKeyword]

/-- The description has none but certain keywords and annotations. -/
def HasOnly (description : Json) (keywords : List String) : Prop :=
  ∀ keyword value, description.member? keyword = some value → keyword ∈ keywords ++ annotations

/-- The description is of a type, or of the type and null, with certain keywords besides. -/
structure IsOfType (description : Json) (type : String) (keywords : List String) : Prop where
  only : description.HasOnly ("type" :: keywords)
  type : description.member? "type" = some (.text type) ∨
    description.member? "type" = some (.array [.text type, .text "null"])

/-- The keyword has an integer for its value, if it is there. -/
def HasSize (description : Json) (keyword : String) : Prop :=
  ∀ value, description.member? keyword = some value →
    ∃ size : Int, value.rational? = some (size : Rat)

/-- The keyword has a number for its value, if it is there. -/
def HasBound (description : Json) (keyword : String) : Prop :=
  ∀ value, description.member? keyword = some value → ∃ bound, value.rational? = some bound

/-- The keyword has a number or a boolean for its value, if it is there. -/
def HasExclusiveBound (description : Json) (keyword : String) : Prop :=
  ∀ value, description.member? keyword = some value →
    (∃ bound, value.rational? = some bound) ∨ ∃ truth, value = .bool truth

/-- The description is of one type and has no default, so that nothing cannot be meant by it. -/
structure IsPlain (description : Json) : Prop where
  type : ∃ type, description.member? "type" = some (.text type)
  noDefault : description.member? "default" = none

/-- The names are those of fields that are described plainly. -/
def AreNamed (names : Json) (fields : List (String × Json)) : Prop :=
  ∃ texts : List String, names = .array (texts.map .text) ∧
    ∀ name ∈ texts, ∃ field ∈ fields, field.1 = name ∧ field.2.IsPlain

/-- A description in the fragment, in a document. -/
inductive IsDescription (root : Json) : Json → Prop
  | string {description : Json} (form : description.IsOfType "string" ["minLength", "maxLength"])
      (least : description.HasSize "minLength") (most : description.HasSize "maxLength") :
      IsDescription root description
  | number {description : Json} {type : String} (isNumeric : type ∈ ["integer", "number"])
      (form : description.IsOfType type
        ["minimum", "maximum", "exclusiveMinimum", "exclusiveMaximum"])
      (minimum : description.HasBound "minimum") (maximum : description.HasBound "maximum")
      (above : description.HasExclusiveBound "exclusiveMinimum")
      (below : description.HasExclusiveBound "exclusiveMaximum") : IsDescription root description
  | boolean {description : Json} (form : description.IsOfType "boolean" []) :
      IsDescription root description
  | null {description : Json} (only : description.HasOnly ["type"])
      (type : description.member? "type" = some (.text "null")) : IsDescription root description
  | array {description element : Json}
      (form : description.IsOfType "array" ["items", "minItems", "maxItems"])
      (least : description.HasSize "minItems") (most : description.HasSize "maxItems")
      (found : description.member? "items" = some element) (inner : IsDescription root element) :
      IsDescription root description
  | object {description : Json} {fields : List (String × Json)}
      (form : description.IsOfType "object" ["properties", "required"])
      (found : description.member? "properties" = some (.object fields)) (nonempty : fields ≠ [])
      (distinct : (fields.map (·.1)).Nodup) (each : ∀ field ∈ fields, IsDescription root field.2)
      (required : ∀ names, description.member? "required" = some names → names.AreNamed fields) :
      IsDescription root description
  | record {description element : Json}
      (form : description.IsOfType "object" ["additionalProperties"])
      (found : description.member? "additionalProperties" = some element)
      (inner : IsDescription root element) : IsDescription root description
  | enumeration {description : Json} {texts : List String} (only : description.HasOnly ["enum"])
      (found : description.member? "enum" = some (.array (texts.map .text)))
      (nonempty : texts ≠ []) : IsDescription root description
  | constant {description : Json} {text : String} (only : description.HasOnly ["const"])
      (found : description.member? "const" = some (.text text)) : IsDescription root description
  | combination {description : Json} {keyword : String} {parts : List Json}
      (combines : keyword ∈ ["anyOf", "allOf"]) (only : description.HasOnly [keyword])
      (found : description.member? keyword = some (.array parts)) (nonempty : parts ≠ [])
      (each : ∀ part ∈ parts, IsDescription root part) : IsDescription root description
  | reference {description target : Json} {text : String} (only : description.HasOnly ["$ref"])
      (found : description.member? "$ref" = some (.text text))
      (points : root.PointsTo text target) : IsDescription root description

/-- A value has to conform to the second description if it conforms to the first one, or may have
to. -/
inductive RefersTo (root : Json) (description : Json) : Json → Prop
  | part {keyword : String} (combines : keyword ∈ ["anyOf", "allOf"]) {parts : List Json}
      (found : description.member? keyword = some (.array parts)) {part : Json}
      (mem : part ∈ parts) : RefersTo root description part
  | reference {text : String} (found : description.member? "$ref" = some (.text text))
      {target : Json} (points : root.PointsTo text target) : RefersTo root description target

/-- A document in the fragment: each of its definitions has a name of its own, without line breaks,
and a description that does not refer to itself. -/
structure IsDocument (root : Json) : Prop where
  isObject : root.HasType "object"
  places : ∀ names ∈ [["components"], ["components", "schemas"], ["definitions"], ["$defs"]],
    root.atPlace names = .null ∨ (root.atPlace names).HasType "object"
  distinct : (root.definitions.map (·.1)).Nodup
  names : ∀ definition ∈ root.definitions, definition.1 ≠ "" ∧ '\n' ∉ definition.1.toList
  each : ∀ definition ∈ root.definitions, root.IsDescription definition.2
  grounded : ∀ definition ∈ root.definitions,
    ¬ Relation.TransGen root.RefersTo definition.2 definition.2

/-- The numbers in a value are finite and of magnitude below 2 ^ 1000. -/
inductive IsModerate : Json → Prop
  | null : IsModerate .null
  | bool (truth : Bool) : IsModerate (.bool truth)
  | text (text : String) : IsModerate (.text text)
  | number {json : Json} {value : Rat} (isNumber : json.rational? = some value)
      (small : |value| < 2 ^ 1000) : IsModerate json
  | array {items : List Json} (each : ∀ item ∈ items, IsModerate item) : IsModerate (.array items)
  | object {members : List (String × Json)} (each : ∀ member ∈ members, IsModerate member.2) :
      IsModerate (.object members)

end Json

end Specimen
