/-
**Layers compose.**

A factory overlays its samples step by step: what the callback returns and then its layers are
merged from left to right, the merger is laid over the sample, and the attributes of the call over
that. This is the same as laying all entries over the sample in one go, in that order:
`Factory.raw_eq`. So two layers of attributes are worth as much as the one that merges them,
`Factory.derive_derive`.
-/

import Specimen.Proofs.Overrides

namespace Specimen

open Value (AreKeyed HaveKeys putAll)

/-! ### Dictionaries -/

namespace Value

/-- Is the value a dictionary? Its keys may be keys and are pairwise different. -/
def IsDictionary (value : Value) : Prop :=
  ∃ entries, value = .dictionary entries ∧ AreKeyed entries

/-- Lays entries over a sample; only a dictionary can take any. -/
def under (made : Value) (entries : List (Value × Value)) : Except Fault Value :=
  if entries.isEmpty then .ok made
  else
    match made with
    | .dictionary base => .ok (.dictionary (putAll base entries))
    | _ => .error (.misuse .overridesWithoutObject)

theorem putAll_append (base entries more : List (Value × Value)) :
    putAll base (entries ++ more) = putAll (putAll base entries) more := by
  rw [putAll, List.foldl_append]
  rfl

/-- Entries that are laid over a sample one after another are laid over it at once. -/
theorem under_under (made : Value) (entries more : List (Value × Value)) :
    (made.under entries >>= (under · more)) = made.under (entries ++ more) := by
  cases entries with
  | nil => rfl
  | cons entry rest =>
    cases made with
    | dictionary base =>
      cases more with
      | nil => rw [List.append_nil]; rfl
      | cons first others =>
        exact congrArg (fun laid => Except.ok (Value.dictionary laid)) (putAll_append _ _ _).symm
    | _ => rfl

theorem putAll_isEmpty (entries more : List (Value × Value)) :
    (putAll entries more).isEmpty = (entries ++ more).isEmpty := by
  have nonempty : ∀ (entries : List (Value × Value)) (key value : Value),
      Value.put entries key value ≠ [] := by
    intro entries key value
    cases entries with
    | nil => exact List.cons_ne_nil _ _
    | cons entry rest =>
      rw [Value.put]
      split <;> exact List.cons_ne_nil _ _
  induction more generalizing entries with
  | nil => rw [List.append_nil]; rfl
  | cons entry rest hypothesis =>
    have now : (Value.put entries entry.1 entry.2 ++ rest).isEmpty = false :=
      List.isEmpty_eq_false_iff.2 (List.append_ne_nil_of_left_ne_nil (nonempty _ _ _) rest)
    have before : (entries ++ entry :: rest).isEmpty = false :=
      List.isEmpty_eq_false_iff.2 (by simp)
    exact (hypothesis _).trans (now.trans before.symm)

/-- The merger of two dictionaries is worth as much as the entries of both. -/
theorem under_putAll {entries more : List (Value × Value)} (keyed : AreKeyed entries)
    (keys : HaveKeys more) (made : Value) :
    made.under (putAll entries more) = made.under (entries ++ more) := by
  unfold under
  rw [putAll_isEmpty]
  cases made with
  | dictionary base => simp only [putAll_append, putAll_putAll keyed keys]
  | _ => rfl

/-- Some dictionaries merged into one, from left to right. -/
def merger (entries : List (Value × Value)) (found : List Value) : List (Value × Value) :=
  found.foldl (fun merged value => putAll merged value.entries) entries

/-- The merger of some dictionaries is worth as much as all of their entries. -/
theorem under_merger {found : List Value} (dictionaries : ∀ value ∈ found, value.IsDictionary)
    {entries : List (Value × Value)} (keyed : AreKeyed entries) (made : Value) :
    made.under (merger entries found) =
      made.under (entries ++ found.flatMap Value.entries) := by
  induction found generalizing entries with
  | nil => rw [List.flatMap_nil, List.append_nil]; rfl
  | cons value rest hypothesis =>
    obtain ⟨⟨more, rfl, alsoKeyed⟩, others⟩ := List.forall_mem_cons.1 dictionaries
    calc made.under (merger entries (Value.dictionary more :: rest))
        = made.under (putAll entries more ++ rest.flatMap Value.entries) :=
          hypothesis others (keyed.putAll alsoKeyed.keys)
      _ = (made.under (entries ++ more) >>= (under · (rest.flatMap Value.entries))) := by
          rw [← under_under, under_putAll keyed alsoKeyed.keys]
      _ = made.under (entries ++ (more ++ rest.flatMap Value.entries)) := by
          rw [under_under, List.append_assoc]

end Value

namespace Factory

theorem overlay_dictionary (made : Value) (entries : List (Value × Value)) :
    overlay made (.dictionary entries) = made.under entries := by
  cases entries with
  | nil => rfl
  | cons entry rest => cases made <;> rfl

theorem overlay_eq {attributes : Value} (given : attributes = .null ∨ attributes.IsDictionary)
    (made : Value) : overlay made attributes = made.under attributes.entries := by
  rcases given with rfl | ⟨entries, rfl, _⟩
  · rfl
  · exact overlay_dictionary made entries

end Factory

/-! ### Runs of layers -/

namespace Run

variable {α β : Type}

/-- A sequence may go on in another way that is the same for all values that its first part yields.
-/
theorem Yields.bind_congr {action : Run α} {property : α → Prop} {next other : α → Run β}
    (yields : Yields action property) (same : ∀ value, property value → next value = other value) :
    action >>= next = action >>= other := by
  funext session
  rw [bind_apply, bind_apply]
  rcases ended : action session with ⟨fault | value, after⟩
  · rfl
  · exact congrFun (same value (yields session value after ended)) after

theorem lift_bind (result : Except Fault α) (next : α → Except Fault β) :
    (lift result >>= fun value => lift (next value)) = lift (result >>= next) := by
  cases result <;> rfl

end Run

namespace Factory

/-- What is laid over samples before the attributes of a call: what the callback returns and then
the layers. -/
def overrides (callback : Option Hook) (layers : List Layer) : List Layer :=
  (callback.map Layer.hook).toList ++ layers

/-- A sample that some layers and then attributes are laid over. The layers run after the sample,
from left to right. -/
def layered (environment : Environment) (schema : Schema) (settings : Settings)
    (layers : List Layer) (attributes : Value) : Run Value := do
  let made ← Specimen.sample environment schema .null settings
  let found ← layers.mapM (layerValue environment)
  Run.lift (made.under (found.flatMap Value.entries ++ attributes.entries))

variable {environment : Environment} {factory : Factory}

/-- A layer adds a dictionary. -/
abbrev Adds (environment : Environment) (layer : Layer) : Prop :=
  (layerValue environment layer).Yields Value.IsDictionary

theorem foldlM_eq {layers : List Layer} (adds : ∀ layer ∈ layers, Adds environment layer)
    (entries : List (Value × Value)) :
    layers.foldlM (addLayer environment) (.dictionary entries) = (do
      let found ← layers.mapM (layerValue environment)
      pure (.dictionary (Value.merger entries found))) := by
  induction layers generalizing entries with
  | nil => rfl
  | cons layer rest hypothesis =>
    obtain ⟨first, others⟩ := List.forall_mem_cons.1 adds
    rw [List.foldlM_cons, List.mapM_cons, addLayer, bind_assoc, bind_assoc]
    refine first.bind_congr fun value isDictionary => ?_
    obtain ⟨more, rfl, keyed⟩ := isDictionary
    have laid : (Run.lift (spread (.dictionary entries) (.dictionary more)) >>= fun merger =>
        rest.foldlM (addLayer environment) merger) =
          rest.foldlM (addLayer environment) (.dictionary (putAll entries more)) := pure_bind _ _
    rw [laid, hypothesis others, bind_assoc]
    rfl

theorem standing_eq (adds : ∀ layer ∈ overrides factory.callback factory.layers,
    Adds environment layer) :
    factory.standing environment = (do
      let found ← (overrides factory.callback factory.layers).mapM (layerValue environment)
      pure (.dictionary (Value.merger [] found))) := by
  unfold standing
  cases chosen : factory.callback with
  | none =>
    rw [chosen] at adds
    exact foldlM_eq adds []
  | some hook =>
    have listed : overrides (some hook) factory.layers = .hook hook :: factory.layers := rfl
    rw [chosen, listed] at adds
    obtain ⟨first, others⟩ := List.forall_mem_cons.1 adds
    rw [listed, List.mapM_cons, bind_assoc]
    refine first.bind_congr fun value isDictionary => ?_
    obtain ⟨more, rfl, keyed⟩ := isDictionary
    have alone : putAll [] more = more := AreKeyed.putAll_eq keyed
    rw [foldlM_eq others, bind_assoc]
    refine congrArg _ (funext fun found => ?_)
    have begun : Value.merger [] (.dictionary more :: found) =
        Value.merger (putAll [] more) found := rfl
    rw [pure_bind, begun, alone]

/-- **Overrides are laid over a sample from left to right.** -/
theorem raw_eq (adds : ∀ layer ∈ overrides factory.callback factory.layers, Adds environment layer)
    {attributes : Value} (given : attributes = .null ∨ attributes.IsDictionary) :
    factory.raw environment attributes = layered environment factory.schema factory.settings
      (overrides factory.callback factory.layers) attributes := by
  have yields := Run.Yields.mapM adds
  unfold raw sample layered
  rw [bind_assoc]
  refine congrArg _ (funext fun made => ?_)
  rw [standing_eq adds, bind_assoc, bind_assoc]
  refine yields.bind_congr fun found related => ?_
  have dictionaries : ∀ value ∈ found, value.IsDictionary := by
    intro value mem
    obtain ⟨place, inside, rfl⟩ := List.getElem_of_mem mem
    exact related.get (related.length_eq ▸ inside) inside
  have laid : (overlay made (.dictionary (Value.merger [] found)) >>= (overlay · attributes)) =
      made.under (found.flatMap Value.entries ++ attributes.entries) := by
    rw [overlay_dictionary, Value.under_merger dictionaries .nil, List.nil_append,
      funext (overlay_eq given)]
    exact Value.under_under made _ _
  rw [pure_bind, Run.lift_bind, laid]

/-! ### Layers of attributes -/

theorem spread_spread {first second : List (Value × Value)} (keyed : AreKeyed first)
    (keys : HaveKeys second) (base : Value) :
    (spread base (.dictionary first) >>= (spread · (.dictionary second))) =
      spread base (.dictionary (putAll first second)) := by
  cases base with
  | dictionary entries =>
    exact congrArg (fun laid => Except.ok (Value.dictionary laid)) (Value.putAll_putAll keyed keys)
  | _ => rfl

theorem addLayer_addLayer {first second : List (Value × Value)} (keyed : AreKeyed first)
    (keys : HaveKeys second) (base : Value) :
    (addLayer environment base (.attributes (.dictionary first)) >>=
        (addLayer environment · (.attributes (.dictionary second)))) =
      addLayer environment base (.attributes (.dictionary (putAll first second))) := by
  have added : ∀ (base : Value) (entries : List (Value × Value)),
      addLayer environment base (.attributes (.dictionary entries)) =
        Run.lift (spread base (.dictionary entries)) := fun _ _ => pure_bind _ _
  simp only [added, Run.lift_bind, spread_spread keyed keys]

/-- A factory whose seed is one starts without layers, with a fresh source. -/
theorem make_eq_ok {schema : Schema} {callback : Option Hook} {seed : Value} {settings : Settings}
    {factory : Factory} :
    make schema callback seed settings = .ok factory ↔ ∃ source,
      Source.ofSeed seed = .ok source ∧ factory = ⟨schema, callback, [], seed, settings, source⟩ := by
  cases seeded : Source.ofSeed seed <;>
    simp [make, withLayers, seeded, bind, Except.bind, pure, Except.pure, eq_comm]

/-- A factory whose seed is one has a derived factory, with a fresh source. -/
theorem derive_eq {factory : Factory} {source : Source}
    (seeded : Source.ofSeed factory.seed = .ok source) (layer : Layer) :
    factory.derive layer =
      .ok { factory with layers := factory.layers ++ [layer], source := source } := by
  rw [derive, withLayers, seeded]
  rfl

/-- **Two layers of attributes are worth as much as the one that merges them.** -/
theorem derive_derive (environment : Environment) (factory : Factory)
    {first second : List (Value × Value)} (keyed : AreKeyed first) (keys : HaveKeys second) :
    Results
      (fun one other =>
        one.source = other.source ∧ one.call environment = other.call environment)
      (factory.derive (.attributes (.dictionary first)) >>= fun derived =>
        derived.derive (.attributes (.dictionary second)))
      (factory.derive (.attributes (.dictionary (putAll first second)))) := by
  cases seeded : Source.ofSeed factory.seed with
  | error fault =>
    have fails : ∀ layer, factory.derive layer = .error fault := fun layer => by
      rw [derive, withLayers, seeded]
      rfl
    rw [fails, fails]
    exact .error fault
  | ok source =>
    have twice := @derive_eq
      { factory with
        layers := factory.layers ++ [.attributes (.dictionary first)]
        source := source }
      source seeded (.attributes (.dictionary second))
    rw [derive_eq seeded, derive_eq seeded]
    show Results _ (Factory.derive _ _) _
    rw [twice]
    refine .ok ⟨rfl, funext fun call => ?_⟩
    have standing : ∀ base : Value,
        (factory.layers ++ [Layer.attributes (.dictionary first)] ++
            [Layer.attributes (.dictionary second)]).foldlM (addLayer environment) base =
          (factory.layers ++ [Layer.attributes (.dictionary (putAll first second))]).foldlM
            (addLayer environment) base := by
      intro base
      simp only [List.foldlM_append, List.foldlM_cons, List.foldlM_nil, bind_assoc, bind_pure,
        addLayer_addLayer keyed keys]
    rw [call_eq, call_eq, sample, sample, Factory.standing, Factory.standing, funext standing]

end Factory

end Specimen
