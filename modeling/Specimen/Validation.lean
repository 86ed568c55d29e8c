/-
**Validation.**

`validate` compares a value with a schema and lists every issue; no issue means that the value
conforms. What a node asks of a value is a `Judge`, made from the judges of its children, and
`Judge.ofNode` is the rule that says how.

A lazy node stands for a definition, so judging one starts again at that definition. A walk may do
so only so many times: a value has finitely many levels, and on one level no more definitions can
be passed than there are without coming back to the same one. `validate` computes that bound from
value and definitions.
-/

import Specimen.Format
import Specimen.Pattern.Matcher
import Specimen.Schema.Builder
import Specimen.Schema.Fold
import Specimen.Value.Convert
import Specimen.Value.Text

namespace Specimen

variable [Format.LocationRules]

/-- What is wrong with a value at a path. -/
abbrev Judge := Value → Path → Except Fault (List Issue)

namespace Judge

/-! ### Building blocks -/

/-- Accepts every value. -/
def accept : Judge := fun _ _ => .ok []

/-- Stands for a child that is not there. -/
def missing : Judge := fun _ _ => .error .missingPart

/-- The judge of a child. -/
def ofChild (child : Option Judge) : Judge := child.getD missing

/-- Reports one issue. -/
def report (path : Path) (message : String) : Except Fault (List Issue) := .ok [⟨path, message⟩]

/-- Reports a value of the wrong type. -/
def reportType (expected : String) : Judge := fun subject path =>
  report path ("Expected " ++ expected ++ ", received " ++ subject.typeName)

/-- The issues of several judgements, one after another. -/
def gather {Subject : Type} (judge : Subject → Except Fault (List Issue))
    (subjects : List Subject) :
    Except Fault (List Issue) := do
  pure (← subjects.mapM judge).flatten

/-! ### Checks -/

/-- The comparison that a lower bound asks for. -/
def lowerComparison (inclusive : Bool) : Comparison := if inclusive then .greaterEqual else .greater

/-- The comparison that an upper bound asks for. -/
def upperComparison (inclusive : Bool) : Comparison := if inclusive then .lessEqual else .less

/-- The message, if any, about a comparison that should hold. -/
def comparisonMessage (noun relation : String) (bound : Value) :
    Except Incomparable Bool → Option String
  | .ok true => none
  | .ok false => some (noun ++ " must be " ++ relation ++ " " ++ bound.display)
  | .error reason => some ("cannot compare " ++ noun ++ ": " ++ reason.message)

/-- The message, if any, of a bound on something that was measured. -/
def boundMessage (noun : String) (measured : Value) : Check → Option String
  | .min bound inclusive =>
    comparisonMessage noun ">=" bound (measured.holds (lowerComparison inclusive) bound)
  | .max bound inclusive =>
    comparisonMessage noun "<=" bound (measured.holds (upperComparison inclusive) bound)
  | .length bound =>
    if measured.equals bound then none else some (noun ++ " must be exactly " ++ bound.display)
  | _ => none

/-- The issues of the bounds among the checks. -/
def boundIssues (checks : List Check) (noun : String) (measured : Value) (path : Path) :
    List Issue :=
  (checks.filterMap (boundMessage noun measured)).map fun message => ⟨path, message⟩

/-- Does a pattern occur in a text? -/
def occurs (pattern : Value) (text : String) : Except Fault Bool :=
  match pattern with
  | .text source => do pure (patternOccurs (← readPattern source) text)
  | _ => .error .missingPart

/-- The source of a pattern. -/
def sourceOf : Value → String
  | .text source => source
  | _ => ""

/-- The message if something does not hold. -/
def demand (holds : Bool) (message : String) : Option String := if holds then none else some message

/-- The message, if any, of a pattern or format. -/
def formatMessage (text : String) : Check → Except Fault (Option String)
  | .regex pattern => do
    pure (demand (← occurs pattern text) ("does not match /" ++ sourceOf pattern ++ "/"))
  | .email => .ok (demand (Format.isEmail text) "Invalid email")
  | .uuid => .ok (demand (Format.isUuid text) "Invalid uuid")
  | .url => do pure (demand (← Format.isUrl text) "Invalid url")
  | .datetime => .ok (demand (Format.isDateTime text) "Invalid datetime")
  | _ => .ok none

/-- Does a number have no fraction? It must fit a binary64 number. -/
def isWhole (number : Value) : Except Fault Bool := do pure (← number.toBinary64).isIntegral

/-! ### Leaves -/

/-- Accepts texts that pass the checks. -/
def string (checks : List Check) : Judge := fun subject path =>
  match subject with
  | .text text => do
    let messages ← checks.mapM (formatMessage text)
    pure (boundIssues checks "length" (.int text.length) path ++
      messages.reduceOption.map fun message => ⟨path, message⟩)
  | other => reportType "string" other path

/-- The issues of a number: those of its bounds and one if it has a fraction but should not. -/
def numberIssues (checks : List Check) (number : Value) (path : Path) :
    Except Fault (List Issue) := do
  let issues := boundIssues checks "value" number path
  if checks.any fun check => check.name == Check.integer.name then
    if ← isWhole number then pure issues else pure (issues ++ [⟨path, "Expected integer"⟩])
  else pure issues

/-- Accepts numbers that pass the checks. -/
def number (checks : List Check) : Judge := fun subject path =>
  match subject with
  | .int _ => numberIssues checks subject path
  | .float value =>
    if value.isNan then report path "Expected number, received nan"
    else numberIssues checks subject path
  | other => reportType "number" other path

/-- Accepts integers within the bounds. -/
def bigint (checks : List Check) : Judge := fun subject path =>
  match subject with
  | .int _ => .ok (boundIssues checks "value" subject path)
  | other => reportType "bigint" other path

/-- Accepts booleans. -/
def boolean : Judge := fun subject path =>
  match subject with
  | .bool _ => .ok []
  | other => reportType "boolean" other path

/-- Accepts moments within the bounds. -/
def date (checks : List Check) : Judge := fun subject path =>
  match subject with
  | .moment _ => .ok (boundIssues checks "date" subject path)
  | other => reportType "date" other path

/-- The value of an enumeration member, and any other value as it is. -/
def memberValue : Value → Value
  | .member _ _ value => value
  | value => value

/-- Accepts one of several values. -/
def oneOf (values : List Value) : Judge := fun subject path =>
  let candidate := memberValue subject
  if candidate.isIn values then .ok []
  else report path ("Expected one of " ++ (Value.list values).inspect ++ ", received " ++
    candidate.inspect)

/-- Accepts one value. -/
def literal (expected : Value) : Judge := fun subject path =>
  if subject.equals expected && subject.sameType expected then .ok []
  else report path ("Expected literal " ++ expected.inspect ++ ", received " ++ subject.inspect)

/-- Accepts functions. -/
def function : Judge := fun subject path =>
  if subject.isCallable then .ok [] else reportType "function" subject path

/-- Accepts promises. -/
def promise : Judge := fun subject path =>
  match subject with
  | .promise _ _ => .ok []
  | other => reportType "promise" other path

/-- Accepts no value. -/
def nothing : Judge := fun subject path =>
  if subject.isAbsent then .ok []
  else report path ("Expected no value, received " ++ subject.inspect)

/-- Accepts the null value. -/
def null : Judge := fun subject path =>
  if subject.isNull then .ok [] else reportType "null" subject path

/-- Accepts the float that is not a number. -/
def nan : Judge := fun subject path =>
  if subject.isNan then .ok [] else reportType "nan" subject path

/-! ### Collections -/

/-- Accepts dictionaries whose fields are accepted; a field that is not there is absent. -/
def object (fields : List (String × Judge)) : Judge := fun subject path =>
  match subject with
  | .dictionary entries => gather
      (fun field => field.2 ((Value.field? entries field.1).getD .absent) (path ++ [.name field.1]))
      fields
  | other => reportType "object" other path

/-- Accepts lists of the right size whose items are accepted. -/
def array (checks : List Check) (element : Judge) : Judge := fun subject path =>
  match subject with
  | .list items => do
    let issues ← gather (fun item => element item.1 (path ++ [.position item.2])) items.zipIdx
    pure (boundIssues checks "size" (.int items.length) path ++ issues)
  | other => reportType "array" other path

/-- Are the items pairwise different? -/
def areDistinct (items : List Value) : Bool :=
  items.zipIdx.all fun item => !item.1.isIn (items.take item.2)

/-- The issues of the members of a set. -/
def memberIssues (checks : List Check) (element : Judge) (members : List Value) (path : Path) :
    Except Fault (List Issue) := do
  let issues ← gather (fun member => element member path) members
  pure (boundIssues checks "size" (.int members.length) path ++ issues)

/-- Accepts sets of the right size whose members are accepted, and lists of different items. -/
def set (checks : List Check) (element : Judge) : Judge := fun subject path =>
  match subject with
  | .list items =>
    if areDistinct items then memberIssues checks element items path
    else report path "Set members must be distinct"
  | .set members _ => memberIssues checks element members path
  | other => reportType "set" other path

/-- Accepts dictionaries whose keys and values are accepted. -/
def mapping (tag : String) (key value : Judge) : Judge := fun subject path =>
  match subject with
  | .dictionary entries => gather
      (fun entry => do
        let place := path ++ [.name entry.1.display]
        pure ((← key entry.1 place) ++ (← value entry.2 place)))
      entries
  | other => reportType tag other path

/-- The items of a list or tuple. -/
def positions? : Value → Option (List Value)
  | .list items => some items
  | .tuple items => some items
  | _ => none

/-- Accepts lists and tuples whose items are accepted one by one; more items than described are
accepted only if there is a judge for the rest. -/
def tuple (items : List Judge) (rest : Option Judge) : Judge := fun subject path =>
  match positions? subject with
  | none => reportType "tuple" subject path
  | some subjects =>
    if subjects.length < items.length || (rest.isNone && subjects.length != items.length) then
      report path ("Expected " ++ toString items.length ++ " positional items, received " ++
        toString subjects.length)
    else gather
      (fun item => (items[item.2]?.getD (ofChild rest)) item.1 (path ++ [.position item.2]))
      subjects.zipIdx

/-! ### Combinations -/

/-- Does one of the judges find no issue? -/
def anyAccepts (options : List Judge) (subject : Value) (path : Path) : Except Fault Bool :=
  match options with
  | [] => .ok false
  | option :: others => do
    if (← option subject path).isEmpty then pure true else anyAccepts others subject path

/-- Accepts what one of the judges accepts. -/
def union (options : List Judge) : Judge := fun subject path => do
  if ← anyAccepts options subject path then pure []
  else report path "Value matches none of the union options"

/-- Accepts what all of the judges accept. -/
def intersection (judges : List Judge) : Judge := fun subject path =>
  gather (fun judge => judge subject path) judges

/-- Accepts absent values and what the judge accepts. -/
def optional (inner : Judge) : Judge := fun subject path =>
  if subject.isAbsent then .ok [] else inner subject path

/-- Accepts the null value and what the judge accepts. -/
def nullable (inner : Judge) : Judge := fun subject path =>
  if subject.isNull then .ok [] else inner subject path

/-- Judges by a schema that has to be found first. -/
def deferred (lower : Schema → Judge) (found : Except Fault Schema) : Judge := fun subject path =>
  match found with
  | .ok schema => lower schema subject path
  | .error fault => .error fault

/-! ### Nodes -/

/-- What a node of a kind asks of a value that may be absent only if the kind decides for itself. -/
def ofKind (definitions : Schema.Definitions) (lower : Schema → Judge) (schema : Schema)
    (parts : Parts Judge) : Judge :=
  match schema.kind with
  | .string => string schema.checks
  | .number => number schema.checks
  | .bigint => bigint schema.checks
  | .boolean => boolean
  | .date => date schema.checks
  | .object => object parts.fields
  | .array => array schema.checks (ofChild parts.inner)
  | .set => set schema.checks (ofChild parts.inner)
  | .map => mapping schema.tag (ofChild parts.key) (ofChild parts.value)
  | .record => mapping schema.tag (ofChild parts.key) (ofChild parts.value)
  | .tuple => tuple parts.items parts.rest
  | .union => union parts.items
  | .discriminatedUnion => union parts.items
  | .intersection => intersection parts.items
  | .enumeration => oneOf schema.traits.values
  | .nativeEnumeration => oneOf schema.traits.values
  | .literal => literal schema.traits.literal
  | .optional => optional (ofChild parts.inner)
  | .nullable => nullable (ofChild parts.inner)
  | .default => optional (ofChild parts.inner)
  | .branded => ofChild parts.inner
  | .effects => accept
  | .function => function
  | .promise => promise
  | .lazy => deferred lower (schema.resolve definitions)
  | .void => nothing
  | .null => null
  | .undefined => nothing
  | .nan => nan
  | .any => accept
  | .unknown => accept
  | .other _ => accept

/-- What a node asks of a value. An absent value is refused before anything else unless the kind
decides for itself. -/
def ofNode (definitions : Schema.Definitions) (lower : Schema → Judge) (schema : Schema)
    (parts : Parts Judge) : Judge := fun subject path =>
  if subject.isAbsent && !schema.kind.acceptsAbsent then report path "Required"
  else ofKind definitions lower schema parts subject path

end Judge

/-! ### Validating -/

/-- The issues of a value, passing no more than a number of lazy nodes on any way into it. -/
def validateWithin (definitions : Schema.Definitions) : Nat → Schema → Judge
  | 0 => Schema.fold (Judge.ofNode definitions fun _ _ _ => .error .endlessReference)
  | passes + 1 => Schema.fold (Judge.ofNode definitions (validateWithin definitions passes))

/-- The number of lazy nodes that can be passed on a way into a value without going in circles. -/
def passLimit (definitions : Schema.Definitions) (subject : Value) : Nat :=
  (subject.depth + 2) * (definitions.length + 1)

/-- The issues of a value at a path. -/
def validate (definitions : Schema.Definitions) (schema : Schema) (subject : Value) (path : Path) :
    Except Fault (List Issue) :=
  validateWithin definitions (passLimit definitions subject) schema subject path

/-- The outcome of a validation: the value itself, or the issues. -/
inductive ParseResult where
  | accepted (value : Value)
  | rejected (issues : List Issue)

/-- Validates a value from its root. -/
def safeParse (definitions : Schema.Definitions) (schema : Schema) (subject : Value) :
    Except Fault ParseResult := do
  let issues ← validate definitions schema subject []
  pure (if issues.isEmpty then .accepted subject else .rejected issues)

/-- Validates a value from its root; issues are a fault. -/
def parse (definitions : Schema.Definitions) (schema : Schema) (subject : Value) :
    Except Fault Value := do
  match ← safeParse definitions schema subject with
  | .accepted value => pure value
  | .rejected issues => throw (.nonconforming issues)

end Specimen
