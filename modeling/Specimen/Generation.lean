/-
**Generating samples.**

`generate` makes a sample of a schema. Every node is filled on its own: a function of the caller
for the tag comes before the built-in rule, and a fault on the way is logged and leaves the node
without a value, so that it does no harm to the rest. Only an unknown kind that the caller wants
to be told of breaks off the whole.

A lazy node starts again at its definition, one level deeper; so a walk never passes more of them
than there are levels left in the context, which is the bound that `generate` computes.
-/

import Specimen.Schema.Fold
import Specimen.Synthesis

namespace Specimen

/-- What filling a node leads to. -/
inductive Outcome where
  | produced (value : Value)
  /-- There is no rule for the kind of the node. -/
  | unrepresentable
  | failed (fault : Fault)

namespace Outcome

/-- The value of an outcome, absent if there is none. -/
def value : Outcome → Value
  | .produced made => made
  | _ => .absent

/-- Was a value made? -/
def isProduced : Outcome → Bool
  | .produced _ => true
  | _ => false

/-- The fault that was contained, if one was. -/
def fault? : Outcome → Option Fault
  | .failed fault => some fault
  | _ => none

end Outcome

namespace Make

/-! ### Rules -/

/-- The built-in rule for a node of each kind; some kinds have none. -/
def builtin? (environment : Environment) (lower : Schema → Make) (schema : Schema)
    (parts : Parts Make) : Option Make :=
  match schema.kind with
  | .string => some (TextSynthesis.make environment schema.checks)
  | .number => some (number schema.checks)
  | .bigint => some (number schema.checks)
  | .boolean => some boolean
  | .date => some (date environment schema.checks)
  | .object => some (object parts.fields)
  | .array => some (array schema.checks (ofChild parts.inner))
  | .set => some (set schema.checks (ofChild parts.inner))
  | .map => some (entries Context.mapEntriesLength (ofChild parts.key) (ofChild parts.value))
  | .record => some (entries Context.recordKeysLength (ofChild parts.key) (ofChild parts.value))
  | .tuple => some (tuple parts.items parts.rest)
  | .union => some (union parts.items)
  | .discriminatedUnion => some (union parts.items)
  | .intersection => some (intersection parts.items)
  | .enumeration => some (oneOf schema.traits.values)
  | .nativeEnumeration => some (oneOf schema.traits.values)
  | .literal => some (constant schema.traits.literal)
  | .optional => some (inner schema.tag parts.inner)
  | .nullable => some (inner schema.tag parts.inner)
  | .branded => some (inner schema.tag parts.inner)
  | .default => some (default environment schema.traits.fallback parts.inner)
  | .effects => some (effects environment schema.traits.effect parts.inner)
  | .function => some (function schema.inner)
  | .promise => some (promise parts.inner)
  | .lazy => some (deferred lower (schema.resolve environment.definitions))
  | .void => some (constant .absent)
  | .undefined => some (constant .absent)
  | .null => some (constant .null)
  | .nan => some nan
  | .any => none
  | .unknown => none
  | .other _ => none

/-- The rule for a node: a function of the caller, or else the built-in one. -/
def rule? (environment : Environment) (lower : Schema → Make) (schema : Schema)
    (parts : Parts Make) (context : Context) : Option (Run Value) :=
  match context.overrides.lookup schema.tag with
  | some hook => some (environment.invokeValue hook (.onNode schema context))
  | none => (builtin? environment lower schema parts).map fun make => make context

/-! ### Containment -/

/-- The message about a fault that is contained. -/
def faultMessage (tag : String) (context : Context) : String :=
  "Failed to synthesize a value for type '" ++ tag ++ "' (field: " ++ context.keyName.display ++ ")"

/-- The outcome of a node whose rule has failed: the fault is logged and contained, unless it says
that a kind is unknown. -/
def contain (tag : String) (context : Context) (fault : Fault) : Run Outcome :=
  match fault with
  | .unknownType _ => throw fault
  | other => do
    Run.log .error .generation (faultMessage tag context)
    pure (.failed other)

/-- Runs the rule of a node. -/
def attempt (tag : String) (context : Context) (make : Run Value) : Run Outcome := do
  match ← Run.caught make with
  | .ok made => pure (.produced made)
  | .error fault => contain tag context fault

/-- The outcome of a node without a rule. -/
def withoutRule (tag : String) (context : Context) : Run Outcome := do
  if context.throwOnUnknownType.isTruthy then throw (.unknownType tag)
  else
    Run.log .debug .generation ("No synthesizer for type '" ++ tag ++ "'")
    pure .unrepresentable

/-- The outcome of a node, given how its children are filled. -/
def outcomeOf (environment : Environment) (lower : Schema → Make) (schema : Schema)
    (parts : Parts Make) (context : Context) : Run Outcome :=
  match rule? environment lower schema parts context with
  | some make => attempt schema.tag context make
  | none => withoutRule schema.tag context

/-- Fills a node, given how its children are filled. -/
def ofNode (environment : Environment) (lower : Schema → Make) (schema : Schema)
    (parts : Parts Make) : Make := fun context => do
  pure (← outcomeOf environment lower schema parts context).value

end Make

/-! ### Generating -/

/-- Stands for a definition that is one lazy node too far away. -/
def beyondReach (_ : Schema) : Make := fun _ => throw .endlessReference

/-- Makes a sample, passing no more than a number of lazy nodes on any way into it. -/
def generateWithin (environment : Environment) : Nat → Schema → Make
  | 0 => Schema.fold (Make.ofNode environment beyondReach)
  | passes + 1 => Schema.fold (Make.ofNode environment (generateWithin environment passes))

/-- What filling a definition leads to after passing a lazy node. -/
def lowerWithin (environment : Environment) : Nat → Schema → Make
  | 0 => beyondReach
  | passes + 1 => generateWithin environment passes

/-- Makes a sample. -/
def generate (environment : Environment) (schema : Schema) : Make := fun context =>
  generateWithin environment context.remaining schema context

/-- Makes a sample and tells how it went. -/
def generateOutcome (environment : Environment) (schema : Schema) (context : Context) :
    Run Outcome :=
  let passes := context.remaining
  Make.outcomeOf environment (lowerWithin environment passes) schema
    (schema.parts (generateWithin environment passes)) context

/-- Makes a sample in a context of its own. -/
def sample (environment : Environment) (schema : Schema) (seed : Value) (settings : Settings) :
    Run Value := do
  generate environment schema (← Context.build seed settings)

/-- Calls a generated function, and any other function for nothing. -/
def callFunction (environment : Environment) (identity : Nat) : Run Value := do
  match (← get).closures.lookup identity with
  | none => pure .null
  | some closure =>
    match closure.schema with
    | some schema => generate environment schema closure.context
    | none => throw .missingPart

end Specimen
