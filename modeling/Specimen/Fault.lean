/-
**Faults.**

A fault is the cause for which an operation gives no result. Some causes are rules of this library
and carry a text, `Fault.message?`; some were raised by a function of the caller or by another
library; the others are operations on values that have no result, such as ordering a number and a
text.
-/

import Specimen.Issue

namespace Specimen

/-- Why a document cannot be loaded. -/
inductive LoadFault where
  | notAnObject
  | unknownDefinition (name : String)
  | unsupportedReference (reference : String)
  | unresolvedReference (reference : String)
  | notASchema (inspected : String)
  | emptyEnumeration
  | emptyConjunction
  | unsupportedType (name : String)
  deriving DecidableEq

/-- The text of a load fault. -/
def LoadFault.message : LoadFault → String
  | .notAnObject => "Schema document must be a JSON object"
  | .unknownDefinition name => "Unknown definition: " ++ name
  | .unsupportedReference reference => "Unsupported $ref: " ++ reference
  | .unresolvedReference reference => "Unresolved $ref: " ++ reference
  | .notASchema inspected => "Expected a schema object, got " ++ inspected
  | .emptyEnumeration => "enum must be a non-empty list"
  | .emptyConjunction => "allOf must not be empty"
  | .unsupportedType name => "Unsupported type: " ++ name

/-- A rule of the schema builders or of the options that a call broke. -/
inductive Misuse where
  | notATuple
  | nothingToUnwrap (tag : String)
  | notLazy
  | emptyUnion
  | undeclaredDiscriminator (name : String)
  | emptyEnumeration
  | unknownOptions (names : List String)
  | seedOfWrongType
  | overridesWithoutObject
  | missingFile (path : String)
  | emptyFile (path : String)
  deriving DecidableEq

/-- The text of a broken rule. -/
def Misuse.message : Misuse → String
  | .notATuple => "with_rest() only applies to tuple schemas"
  | .nothingToUnwrap tag => "'" ++ tag ++ "' schema has nothing to unwrap"
  | .notLazy => "resolve() only applies to lazy schemas"
  | .emptyUnion => "union() needs at least one option"
  | .undeclaredDiscriminator name => "Every option must be an object declaring '" ++ name ++ "'"
  | .emptyEnumeration => "enum() needs at least one member"
  | .unknownOptions names => "Unknown generation option(s): " ++ ", ".intercalate names
  | .seedOfWrongType => "seed must be an int or a sequence of ints"
  | .overridesWithoutObject => "Attribute overrides require a schema that produces an object"
  | .missingFile path => "Schema not found: " ++ path
  | .emptyFile path => "Schema file is empty: " ++ path

/-- The cause for which an operation gives no result. -/
inductive Fault where
  /-- No generator is known for the tag of a node, and the caller asked to be told. -/
  | unknownType (tag : String)
  /-- A sample with overrides does not conform to its schema. -/
  | invalidInput (issues : List Issue)
  /-- A value does not conform to its schema. -/
  | nonconforming (issues : List Issue)
  | load (cause : LoadFault)
  | misuse (rule : Misuse)
  /-- A function of the caller raised this. -/
  | raised (kind message : String)
  /-- Another library raised this. -/
  | library (kind : String)
  /-- A lazy node refers to a definition that is not there. -/
  | undefinedReference (name : String)
  /-- An operation met a value of a type that it is not for. -/
  | wrongType
  /-- An operation met a value of the right type outside its domain. -/
  | outOfDomain
  /-- A result is too large to be represented. -/
  | overflow
  /-- A node or value lacks a part that an operation needs. -/
  | missingPart
  /-- A dictionary or a set of captured groups has no such key. -/
  | missingKey
  /-- A sequence has no such position. -/
  | noSuchPosition
  /-- A pattern has no valid form. -/
  | malformedPattern
  /-- References go around without end. -/
  | endlessReference
  /-- The platform cannot represent a time. -/
  | platformLimit
  deriving DecidableEq

namespace Fault

/-- The text of a fault, if it has one. -/
def message? : Fault → Option String
  | .unknownType tag => some ("No synthesizer registered for type '" ++ tag ++ "'.")
  | .invalidInput issues => some ("Invalid input: " ++ Issue.joined issues)
  | .nonconforming issues => some (Issue.joined issues)
  | .load cause => some cause.message
  | .misuse rule => some rule.message
  | .raised _ message => some message
  | _ => none

/-- Does the fault name an unknown kind? -/
def isUnknownType : Fault → Bool
  | .unknownType _ => true
  | _ => false

/-- The issues that a fault reports, if it is about a value and its schema. -/
def issues? : Fault → Option (List Issue)
  | .invalidInput issues => some issues
  | .nonconforming issues => some issues
  | _ => none

end Fault

/-- A fault that names no unknown kind, such as every fault of another library. -/
abbrev OrdinaryFault := { fault : Fault // fault.isUnknownType = false }

end Specimen
