/-
**Factories.**

A factory makes samples of one schema, one after another from a source of its own, and lays
overrides over them: first what a function of the caller returns, then the layers that derived
factories add, then the attributes of the single call. The rightmost override of a field counts,
and a field keeps the place where it first appears.

* `Factory.raw` gives a sample with its overrides as it is.
* `Factory.create` validates it against the schema first.
* `Factory.derive` is a factory with one more layer and a fresh source with the same seed.
-/

import Specimen.Generation
import Specimen.Validation

namespace Specimen

variable [Format.LocationRules]

/-- What a derived factory adds: attributes, or a function of the caller that returns them. -/
inductive Layer where
  | attributes (value : Value)
  | hook (hook : Hook)

/-- A maker of samples of one schema. -/
structure Factory where
  schema : Schema
  callback : Option Hook
  layers : List Layer
  seed : Value
  settings : Settings
  source : Source

namespace Factory

/-! ### Making factories -/

/-- A factory with layers and a fresh source. -/
def withLayers (schema : Schema) (callback : Option Hook) (layers : List Layer) (seed : Value)
    (settings : Settings) : Except Fault Factory := do
  pure ⟨schema, callback, layers, seed, settings, ← Source.ofSeed seed⟩

/-- A factory for a schema. -/
def make (schema : Schema) (callback : Option Hook) (seed : Value) (settings : Settings) :
    Except Fault Factory :=
  withLayers schema callback [] seed settings

/-- A factory with one more layer. -/
def derive (factory : Factory) (layer : Layer) : Except Fault Factory :=
  withLayers factory.schema factory.callback (factory.layers ++ [layer]) factory.seed
    factory.settings

/-! ### Overrides -/

/-- Lays attributes over a sample, which must be a dictionary unless there are none. -/
def overlay (base attributes : Value) : Except Fault Value :=
  if !attributes.isTruthy then .ok base
  else
    match base, attributes with
    | .dictionary entries, .dictionary more => .ok (.dictionary (Value.putAll entries more))
    | .dictionary _, _ => .error .wrongType
    | _, _ => .error (.misuse .overridesWithoutObject)

/-- The entries of two dictionaries, the second one's laid over the first one's. -/
def spread : Value → Value → Except Fault Value
  | .dictionary entries, .dictionary more => .ok (.dictionary (Value.putAll entries more))
  | _, _ => .error .wrongType

/-- What a layer adds. -/
def layerValue (environment : Environment) : Layer → Run Value
  | .hook hook => environment.invokeValue hook .onProvider
  | .attributes value => if value.isCallable then pure .null else pure value

/-- What the callback returns; without one, nothing. -/
def callbackValue (environment : Environment) (callback : Option Hook) : Run Value :=
  match callback with
  | some hook => environment.invokeValue hook .onProvider
  | none => pure (.dictionary [])

/-- Lays a layer over what came before. -/
def addLayer (environment : Environment) (base : Value) (layer : Layer) : Run Value := do
  Run.lift (spread base (← layerValue environment layer))

/-- The overrides of the callback and the layers. -/
def standing (environment : Environment) (factory : Factory) : Run Value := do
  factory.layers.foldlM (addLayer environment) (← callbackValue environment factory.callback)

/-! ### Samples -/

/-- A sample with the standing overrides. -/
def sample (environment : Environment) (factory : Factory) : Run Value := do
  let made ← Specimen.sample environment factory.schema .null factory.settings
  Run.lift (overlay made (← standing environment factory))

/-- A sample with its overrides. -/
def raw (environment : Environment) (factory : Factory) (attributes : Value) : Run Value := do
  Run.lift (overlay (← factory.sample environment) attributes)

/-- A sample with its overrides that conforms to the schema. -/
def create (environment : Environment) (factory : Factory) (attributes : Value) : Run Value := do
  let made ← factory.raw environment attributes
  match ← Run.lift (safeParse environment.definitions factory.schema made) with
  | .accepted value => pure value
  | .rejected issues => throw (.invalidInput issues)

/-- A number of samples that conform to the schema. -/
def createMany (environment : Environment) (factory : Factory) (attributes : Value) :
    Nat → Run (List Value)
  | 0 => pure []
  | count + 1 => do
    let first ← factory.create environment attributes
    pure (first :: (← createMany environment factory attributes count))

/-! ### Sources -/

/-- Runs a computation on the source of the factory; the factory keeps what is left of it. -/
def perform {α : Type} (factory : Factory) (action : Run α) (session : Session) :
    Except Fault α × Factory × Session :=
  let (result, after) := action.run { session with source := factory.source }
  (result, { factory with source := after.source }, { after with source := session.source })

end Factory

end Specimen
