/-
**The environment of a run.**

Everything that a run gets from outside is gathered in one record: the services of other libraries,
the definitions that lazy nodes name, the functions of the caller and the date of today. The
services are a provider of realistic texts and dates, a list of words and a sampler of patterns;
nothing is assumed of them here. Functions of the caller are known by hooks; an `Invocation` is a
call of one of them and a `Reply` is what it returns.
-/

import Specimen.Pattern
import Specimen.Schema.Builder
import Specimen.Session

namespace Specimen

/-! ### The provider -/

/-- A call of the provider: what is asked for, and with which arguments. -/
structure ProviderCall where
  name : String
  arguments : List Value := []
  named : List (String × Value) := []

/-! ### Functions of the caller -/

/-- A call of a function of the caller. -/
inductive Invocation where
  /-- A call without arguments. -/
  | bare
  /-- A call that transforms a value. -/
  | onValue (value : Value)
  /-- A call that asks for a generator for a field. -/
  | onKey (key : Value)
  /-- A call that fills a node. -/
  | onNode (schema : Schema) (context : Context)
  /-- A call that may ask the provider. -/
  | onProvider

/-- What a function of the caller returns. -/
inductive Reply where
  | value (value : Value)
  /-- A function without arguments that makes a value. -/
  | generator (make : Run Value)

instance : Inhabited Reply := ⟨.value .null⟩

namespace Reply

/-- Does the reply count as true? A generator always does. -/
def isTruthy : Reply → Bool
  | .value returned => returned.isTruthy
  | .generator _ => true

/-- Is the reply the null value? -/
def isNull : Reply → Bool
  | .value returned => returned.isNull
  | .generator _ => false

/-- Calls the reply without arguments. A function that is a mere value returns null. -/
def call : Reply → Run Value
  | .value returned => if returned.isCallable then pure .null else throw .wrongType
  | .generator make => make

/-- The reply as a value. -/
def toValue : Reply → Run Value
  | .value returned => pure returned
  | .generator _ => do pure (.function ⟨"", "<lambda>"⟩ (← Run.fresh))

end Reply

/-! ### The record -/

/-- What other libraries do for a run. -/
structure Services where
  /-- The provider of realistic values. -/
  provider : ProviderCall → Run Value
  /-- The words that may stand for a text of their length, in the order that places are counted in. -/
  words : List String
  /-- Draws a text for a pattern. The number of copies of a repetition is limited, and the draws are
  seeded by a number. -/
  sample : List PatternNode → Value → Nat → Except OrdinaryFault String

/-- What a run gets from outside. -/
structure Environment extends Services where
  /-- What lazy nodes stand for. -/
  definitions : Schema.Definitions
  /-- The functions of the caller. -/
  invoke : Hook → Invocation → Run Reply
  /-- Midnight at the start of today. -/
  today : Moment

namespace Environment

/-- Asks the provider for something without arguments. -/
def ask (environment : Environment) (name : String) : Run Value :=
  environment.provider ⟨name, [], []⟩

/-- The words whose length equals a value. -/
def wordsOfLength (environment : Environment) (length : Value) : List String :=
  environment.words.filter fun word => length.same (.int word.length)

/-- Draws a text for a pattern. -/
def sampleText (environment : Environment) (nodes : List PatternNode) (limit : Value)
    (seed : Nat) : Except Fault String :=
  (environment.sample nodes limit seed).mapError Subtype.val

/-- Calls a function of the caller and takes its reply as a value. -/
def invokeValue (environment : Environment) (hook : Hook) (invocation : Invocation) :
    Run Value := do
  (← environment.invoke hook invocation).toValue

/-- The value of a fallback: a copy of a value, what a function of the caller returns, or null for a
value that is a function. -/
def fallbackValue (environment : Environment) : Fallback → Run Value
  | .value value => if value.isCallable then pure .null else Run.copy value
  | .hook hook => environment.invokeValue hook .bare

/-- The moment that generated dates refer to: the one in the context, or else today. -/
def referenceDate (environment : Environment) (context : Context) : Value :=
  match context.referenceDate with
  | .null => .moment environment.today
  | value => value

end Environment

end Specimen
