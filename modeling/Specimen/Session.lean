/-
**Sessions.**

A session is the state of a run: the random source, identities not yet used, how often the counting
functions of the caller were called, the functions that were generated, and the log. A `Run` works
on a session and may fail; what it drew, logged and counted before failing stays.
-/

import Specimen.Context
import Specimen.Random.Draw
import Specimen.Seed

namespace Specimen

/-! ### The log -/

/-- How much a record matters. -/
inductive LogLevel where
  | debug
  | warning
  | error
  deriving DecidableEq

/-- The name of a level. -/
def LogLevel.name : LogLevel → String
  | .debug => "DEBUG"
  | .warning => "WARNING"
  | .error => "ERROR"

/-- The part of the library that a record comes from. -/
inductive LogOrigin where
  | bounds
  | synthesis
  | generation
  deriving DecidableEq

/-- The name under which a part of the library logs. -/
def LogOrigin.name : LogOrigin → String
  | .bounds => "constraints"
  | .synthesis => "synthesizers"
  | .generation => "data_generator"

/-- A record of the log. -/
structure LogRecord where
  level : LogLevel
  origin : LogOrigin
  message : String
  deriving DecidableEq

/-! ### State -/

/-- A source of randomness: its generator and the seed that was last given to it. -/
structure Source where
  twister : Twister
  seed : Value

/-- A generated function: the schema of its results and the context it was generated in. -/
structure Closure where
  schema : Option Schema
  context : Context

/-- The state of a run. -/
structure Session where
  source : Source
  /-- The next identity for a promise, a function or a not-a-number. -/
  fresh : Nat
  /-- How often counting functions were called. -/
  counters : List (Nat × Nat)
  /-- Generated functions by identity. -/
  closures : List (Nat × Closure)
  /-- The log, the latest record first. -/
  log : List LogRecord

/-- A computation on a session that may fail. -/
abbrev Run := ExceptT Fault (StateM Session)

instance {α : Type} : Inhabited (Run α) := ⟨throw .wrongType⟩

namespace Source

/-- A source with a seed. -/
def ofSeed (seed : Value) : Except Fault Source := do
  pure ⟨Twister.ofSeed (← Seed.toInteger seed), seed⟩

end Source

namespace Session

/-- A session on a source. -/
def start (source : Source) (fresh : Nat) : Session := ⟨source, fresh, [], [], []⟩

/-- The log in order. -/
def records (session : Session) : List LogRecord := session.log.reverse

end Session

namespace Run

/-! ### Operations -/

/-- The result of a computation that needs no session. -/
def lift {α : Type} (result : Except Fault α) : Run α :=
  match result with
  | .ok value => pure value
  | .error fault => throw fault

/-- Adds a record to the log. -/
def log (level : LogLevel) (origin : LogOrigin) (message : String) : Run Unit :=
  modify fun session => { session with log := ⟨level, origin, message⟩ :: session.log }

/-- An identity that was not used before. -/
def fresh : Run Nat :=
  modifyGet fun session => (session.fresh, { session with fresh := session.fresh + 1 })

/-- Makes a draw that always gives a result. -/
def draw {α : Type} (drawing : Twister → α × Twister) : Run α :=
  modifyGet fun session =>
    let (drawn, twister) := drawing session.source.twister
    (drawn, { session with source := { session.source with twister := twister } })

/-- Makes a draw that may have nothing to draw. -/
def attemptDraw {α : Type} (drawing : Twister → Except Fault α × Twister) : Run α := do
  lift (← draw drawing)

/-- Gives the source a new seed. The seed is remembered even if it is none. -/
def reseed (seed : Value) : Run Unit := do
  modify fun session => { session with source := { session.source with seed := seed } }
  let integer ← lift (Seed.toInteger seed)
  modify fun session =>
    { session with source := { session.source with twister := Twister.ofSeed integer } }

/-- A copy of a value with promises of its own. -/
def copy (value : Value) : Run Value :=
  modifyGet fun session =>
    let (copied, fresh) := Value.copyFrom session.fresh value
    (copied, { session with fresh := fresh })

/-- How often a counting function was called before, counting this call. -/
def count (counter : Nat) : Run Nat :=
  modifyGet fun session =>
    let calls := (session.counters.lookup counter).getD 0
    let others := session.counters.filter fun entry => entry.1 != counter
    (calls, { session with counters := (counter, calls + 1) :: others })

/-- Makes a function with an identity of its own. -/
def newFunction (name : FunctionName) (closure : Closure) : Run Value := do
  let identity ← fresh
  modify fun session => { session with closures := (identity, closure) :: session.closures }
  pure (.function name identity)

/-- Runs a computation and gives its fault as a result. -/
def caught {α : Type} (action : Run α) : Run (Except Fault α) :=
  fun session =>
    let (result, session) := action session
    (.ok result, session)

end Run

namespace Context

/-- The context of a top-level call. A name that means nothing is refused first; then a seed, if
there is one, is given to the source. -/
def build (seed : Value) (settings : Settings) : Run Context := do
  let unknown := unknownNames settings
  if !unknown.isEmpty then throw (.misuse (.unknownOptions unknown))
  if !seed.isNull then Run.reseed seed
  pure (ofSettings seed settings)

end Context

end Specimen
