/-
**Members of a family of factories do not see each other.**

A factory and everything that is derived from it, directly or not, are a family. Its members are
called and derived from in any order; each keeps a source of its own that starts with the seed of
the family. So what a member gives, call by call, is what its layers make of a fresh source
(`family_replays`): how often other members were called does not matter, nor when the member was
derived.

The proof follows the events. A member is the origin with its chain of layers on some source
(`Family.Descends`); a call of another member leaves this source as it is, and a call of the member
itself replays on it (`Family.answer_replays`).
-/

import Specimen.Proofs.Indifference
import Specimen.Proofs.Layers

namespace Specimen

open Run (Agree)
open Value (AreKeyed HaveKeys putAll)

/-! ### The reference -/

/-- Without a seed a context is built without a look at the session. -/
theorem Context.build_eq (settings : Settings) :
    ∃ result, build .null settings = Run.lift result := by
  unfold build
  cases unknownNames settings with
  | nil => exact ⟨.ok _, rfl⟩
  | cons name names => exact ⟨.error _, rfl⟩

namespace Factory

variable {environment : Environment} {alike : Session → Session → Prop}

/-- What a call gives by its layers: the sample with all that is laid over it, which for some calls
has to conform to the schema. -/
def reference (environment : Environment) (schema : Schema) (settings : Settings)
    (layers : List Layer) : Call → Run Value
  | .raw attributes => layered environment schema settings layers attributes
  | .create attributes => do
    let made ← layered environment schema settings layers attributes
    Run.lift (conforming environment schema made)

/-- Are the attributes of the call a dictionary, or none? -/
def Call.IsGiven (call : Call) : Prop := call.attributes = .null ∨ call.attributes.IsDictionary

/-- A call of a factory is a call of the reference with all overrides of the factory. -/
theorem call_eq_reference {factory : Factory}
    (adds : ∀ layer ∈ overrides factory.callback factory.layers, Adds environment layer)
    {call : Call} (given : call.IsGiven) :
    factory.call environment call = reference environment factory.schema factory.settings
      (overrides factory.callback factory.layers) call := by
  cases call with
  | raw attributes => exact raw_eq adds given
  | create attributes =>
    rw [Factory.call, create_eq, raw_eq adds (show attributes = .null ∨ _ from given)]
    rfl

section Agreement

variable (kept : Agree.KeptBySteps alike) (respects : environment.Respects alike)
include kept respects

/-- The value of a layer agrees on sessions that are alike. -/
theorem layerValue_agree (layer : Layer) :
    Agree alike Eq (layerValue environment layer) (layerValue environment layer) := by
  cases layer with
  | hook hook => exact .toValue kept (respects.invoke hook .onProvider)
  | attributes value =>
    simp only [layerValue]
    split <;> exact .pure rfl

theorem layered_agree (schema : Schema) (settings : Settings) (layers : List Layer)
    (attributes : Value) :
    Agree alike Eq (layered environment schema settings layers attributes)
      (layered environment schema settings layers attributes) := by
  obtain ⟨result, built⟩ := Context.build_eq settings
  have sampled : Agree alike Eq (Specimen.sample environment schema .null settings)
      (Specimen.sample environment schema .null settings) := by
    unfold Specimen.sample
    rw [built]
    refine .bind (.lift result) fun context _ same => ?_
    exact same ▸ generate_alike kept respects schema context
  have overlaid : Agree alike Eq (layers.mapM (layerValue environment))
      (layers.mapM (layerValue environment)) :=
    (Correspondence.indifference kept respects).mapM fun layer _ =>
      layerValue_agree kept respects layer
  refine .bind sampled fun made _ same => same ▸ ?_
  exact .bind overlaid fun found _ same => same ▸ .lift _

/-- Calls of the reference agree on sessions that are alike. -/
theorem reference_agree (schema : Schema) (settings : Settings) (layers : List Layer)
    (call : Call) :
    Agree alike Eq (reference environment schema settings layers call)
      (reference environment schema settings layers call) := by
  cases call with
  | raw attributes => exact layered_agree kept respects schema settings layers attributes
  | create attributes =>
    exact .bind (layered_agree kept respects schema settings layers attributes)
      fun made _ same => same ▸ .lift _

end Agreement

end Factory

/-! ### Families -/

/-- A factory and everything derived from it, in a session. -/
structure Family where
  members : List Factory
  session : Session

namespace Family

/-- What happens in a family: a member is called, or another one is derived from it. -/
inductive Event where
  | call (member : Nat) (call : Factory.Call)
  | derive (member : Nat) (layer : Layer)

/-- The layers of the members after an event, given those before it. -/
def Event.descend (chains : List (List Layer)) : Event → List (List Layer)
  | .call _ _ => chains
  | .derive member layer =>
    match chains[member]? with
    | some chain => chains ++ [chain ++ [layer]]
    | none => chains

/-- A call that was made: of which member, in which session, and with what result. -/
structure Observation where
  member : Nat
  call : Factory.Call
  before : Session
  result : Except Fault Value

variable (environment : Environment)

/-- Makes an event happen. -/
def step (family : Family) : Event → Family × List Observation
  | .call member call =>
    match family.members[member]? with
    | some factory =>
      let answer := factory.answer environment family.session call
      (⟨family.members.set member answer.factory, answer.session⟩,
        [⟨member, call, family.session, answer.result⟩])
    | none => (family, [])
  | .derive member layer =>
    match family.members[member]? with
    | some factory =>
      match factory.derive layer with
      | .ok derived => (⟨family.members ++ [derived], family.session⟩, [])
      | .error _ => (family, [])
    | none => (family, [])

/-- The calls that are made while some events happen one after another. -/
def run (family : Family) : List Event → List Observation
  | [] => []
  | event :: events =>
    (family.step environment event).2 ++ run (family.step environment event).1 events

/-- The calls of one member. -/
def callsOf (member : Nat) (observed : List Observation) : List Observation :=
  observed.filter (·.member = member)

end Family

/-- Runs one after another from a source give what was observed, in every session that is alike. -/
inductive Replays (alike : Session → Session → Prop) (reference : Factory.Call → Run Value) :
    Source → List Family.Observation → Prop
  | nil (source : Source) : Replays alike reference source []
  | cons {source next : Source} {observation : Family.Observation}
      {others : List Family.Observation}
      (same : ∀ elsewhere : Session,
        alike (observation.before.on source) (elsewhere.on source) →
        observation.result = (reference observation.call (elsewhere.on source)).1 ∧
          (reference observation.call (elsewhere.on source)).2.source = next)
      (rest : Replays alike reference next others) :
      Replays alike reference source (observation :: others)

namespace Family

/-! ### Steps -/

variable {environment : Environment} {origin : Factory} {family : Family}
variable {chains : List (List Layer)} {member : Nat} {chain : List Layer}

/-- Every member is the origin with the layers that were added on the way to it, on some source. -/
structure Descends (origin : Factory) (family : Family) (chains : List (List Layer)) : Prop where
  length : family.members.length = chains.length
  layers : ∀ (member : Nat) (factory : Factory) (chain : List Layer),
    family.members[member]? = some factory → chains[member]? = some chain →
    factory = { origin with layers := chain, source := factory.source }

/-- The chain of a member does not change. -/
theorem Event.descend_keeps (event : Event) (found : chains[member]? = some chain) :
    (event.descend chains)[member]? = some chain := by
  unfold descend
  split
  · exact found
  · split
    · rw [List.getElem?_append_left (List.getElem?_eq_some_iff.1 found).1, found]
    · exact found

/-- A chain that is there stays where it is, whatever happens later. -/
theorem descends_keeps (events : List Event) (found : chains[member]? = some chain) :
    (events.foldl Event.descend chains)[member]? = some chain := by
  induction events generalizing chains with
  | nil => exact found
  | cons event events hypothesis => exact hypothesis (event.descend_keeps found)

/-- The source of a member; one that is still to come starts with a fresh one. -/
def sourceOf (origin : Factory) (family : Family) (member : Nat) : Source :=
  ((family.members[member]?).map (·.source)).getD origin.source

theorem Descends.listed (descends : Descends origin family chains) {factory : Factory}
    (found : family.members[member]? = some factory) : ∃ chain, chains[member]? = some chain := by
  have inside := (List.getElem?_eq_some_iff.1 found).1
  rw [descends.length] at inside
  exact ⟨_, List.getElem?_eq_getElem inside⟩

/-- A member is derived from as the origin is. -/
theorem Descends.derive (descends : Descends origin family chains) {factory : Factory}
    (found : family.members[member]? = some factory)
    (seeded : Source.ofSeed origin.seed = .ok origin.source) (layer : Layer) :
    factory.derive layer =
      .ok { factory with layers := factory.layers ++ [layer], source := origin.source } := by
  obtain ⟨chain, listed⟩ := descends.listed found
  have same : factory.seed = origin.seed := by
    rw [descends.layers member factory chain found listed]
  exact Factory.derive_eq (same ▸ seeded) layer

theorem sourceOf_set {factory other : Factory} (found : family.members[member]? = some factory)
    {session : Session} :
    sourceOf origin ⟨family.members.set member other, session⟩ member = other.source := by
  rw [sourceOf, List.getElem?_set_self (List.getElem?_eq_some_iff.1 found).1]
  rfl

theorem sourceOf_set_of_ne {place : Nat} (different : place ≠ member) {factory : Factory}
    {session : Session} :
    sourceOf origin ⟨family.members.set place factory, session⟩ member =
      sourceOf origin family member := by
  rw [sourceOf, List.getElem?_set_ne different, sourceOf]

/-- A new member on a fresh source has the source that it is taken to have before it comes. -/
theorem sourceOf_append {layers : List Layer} {factory : Factory} {session : Session} :
    sourceOf origin
        ⟨family.members ++ [{ factory with layers := layers, source := origin.source }], session⟩
        member =
      sourceOf origin family member := by
  unfold sourceOf
  rw [List.getElem?_append]
  split
  · rfl
  · next outside =>
    rw [List.getElem?_eq_none (Nat.le_of_not_lt outside)]
    cases member - family.members.length <;> rfl

/-- A call changes nothing but the source of the member. -/
theorem Descends.set (descends : Descends origin family chains) {factory : Factory}
    (found : family.members[member]? = some factory) (source : Source) (session : Session) :
    Descends origin ⟨family.members.set member { factory with source := source }, session⟩
      chains := by
  refine ⟨by rw [List.length_set, descends.length], fun place other chain present listed => ?_⟩
  by_cases same : member = place
  · subst same
    rw [List.getElem?_set_self (List.getElem?_eq_some_iff.1 found).1] at present
    cases present
    rw [descends.layers member factory chain found listed]
  · rw [List.getElem?_set_ne same] at present
    exact descends.layers place other chain present listed

/-- A new member has the layers of the one that it is derived from, and one more. -/
theorem Descends.append (descends : Descends origin family chains) {factory : Factory}
    (found : family.members[member]? = some factory) (listed : chains[member]? = some chain)
    (layer : Layer) (source : Source) (session : Session) :
    Descends origin
      ⟨family.members ++ [{ factory with layers := factory.layers ++ [layer], source := source }],
        session⟩
      (chains ++ [chain ++ [layer]]) := by
  refine ⟨by simp [descends.length], fun place other added present alsoListed => ?_⟩
  rw [List.getElem?_append] at present alsoListed
  rw [descends.length] at present
  split at present
  · next inside =>
    rw [if_pos inside] at alsoListed
    exact descends.layers place other added present alsoListed
  · next outside =>
    rw [if_neg outside] at alsoListed
    obtain ⟨_, isOther⟩ := List.getElem?_eq_some_iff.1 present
    obtain ⟨_, isAdded⟩ := List.getElem?_eq_some_iff.1 alsoListed
    rw [List.getElem_singleton] at isOther isAdded
    rw [← isOther, ← isAdded, descends.layers member factory chain found listed]

/-- A family begins with its origin alone, which has no layers. -/
theorem descends_alone (bare : origin.layers = []) (session : Session) :
    Descends origin ⟨[origin], session⟩ [[]] := by
  refine ⟨rfl, fun place factory layers present found => ?_⟩
  cases place with
  | zero =>
    cases present
    cases found
    rw [← bare]
  | succ place => cases present

theorem sourceOf_alone (origin : Factory) (session : Session) (member : Nat) :
    sourceOf origin ⟨[origin], session⟩ member = origin.source := by
  cases member <;> rfl

/-! ### Runs -/

section Runs

variable {alike : Session → Session → Prop} (kept : Agree.KeptBySteps alike)
variable (respects : environment.Respects alike)
variable (adds : ∀ layer ∈ Factory.overrides origin.callback chain, Factory.Adds environment layer)
variable {call : Factory.Call} (given : call.IsGiven)

/-- What a member is called by its layers. -/
abbrev referenceOf (environment : Environment) (origin : Factory) (chain : List Layer) :
    Factory.Call → Run Value :=
  Factory.reference environment origin.schema origin.settings
    (Factory.overrides origin.callback chain)

include kept respects adds given in
/-- A call gives what the layers of the member make of its source, also elsewhere. -/
theorem answer_replays {source : Source} {session elsewhere : Session}
    (same : alike (session.on source) (elsewhere.on source)) :
    (Factory.answer environment { origin with layers := chain, source := source } session
        call).result =
        (referenceOf environment origin chain call (elsewhere.on source)).1 ∧
      (referenceOf environment origin chain call (elsewhere.on source)).2.source =
        (Factory.answer environment { origin with layers := chain, source := source } session
          call).factory.source := by
  have called : Factory.call environment { origin with layers := chain, source := source } call =
      referenceOf environment origin chain call := Factory.call_eq_reference adds given
  obtain ⟨results, after⟩ := Factory.reference_agree kept respects origin.schema origin.settings
    (Factory.overrides origin.callback chain) call _ _ same
  unfold Factory.answer Factory.perform
  rw [called]
  exact ⟨results.eq, (kept.source after).symm⟩

/-- What happens in a family adds members as their chains say. -/
theorem step_descends (environment : Environment)
    (seeded : Source.ofSeed origin.seed = .ok origin.source)
    (descends : Descends origin family chains) (event : Event) :
    Descends origin (family.step environment event).1 (event.descend chains) := by
  cases event with
  | call place call =>
    rw [step]
    cases found : family.members[place]? with
    | none => exact descends
    | some factory => exact descends.set found _ _
  | derive place layer =>
    rw [step, Event.descend]
    cases found : family.members[place]? with
    | none =>
      have unlisted : chains[place]? = none := by
        rw [List.getElem?_eq_none_iff, ← descends.length, ← List.getElem?_eq_none_iff, found]
      rw [unlisted]
      exact descends
    | some factory =>
      obtain ⟨own, isOwn⟩ := descends.listed found
      rw [isOwn]
      simp only [descends.derive found seeded]
      exact descends.append found isOwn layer origin.source family.session

include kept respects adds in
/-- What is observed of a member in one step replays on its source, if the rest replays on the
source that the step leaves. -/
theorem step_replays (seeded : Source.ofSeed origin.seed = .ok origin.source)
    (descends : Descends origin family chains)
    (known : ∀ own, chains[member]? = some own → own = chain) {event : Event}
    (given : ∀ call, event = .call member call → call.IsGiven) {others : List Observation}
    (rest : Replays alike (referenceOf environment origin chain)
      (sourceOf origin (family.step environment event).1 member) others) :
    Replays alike (referenceOf environment origin chain) (sourceOf origin family member)
      (callsOf member (family.step environment event).2 ++ others) := by
  cases event with
  | call place call =>
    rw [step] at rest ⊢
    cases found : family.members[place]? with
    | none =>
      simp only [found] at rest ⊢
      exact rest
    | some factory =>
      simp only [found] at rest ⊢
      by_cases same : place = member
      · subst same
        obtain ⟨own, isOwn⟩ := descends.listed found
        rw [known own isOwn] at isOwn
        have isFactory := descends.layers place factory chain found isOwn
        have here : sourceOf origin family place = factory.source := by rw [sourceOf, found]; rfl
        rw [sourceOf_set found] at rest
        rw [here]
        simp only [callsOf, List.filter_cons_of_pos, decide_true, List.filter_nil,
          List.singleton_append]
        refine .cons (fun elsewhere alikeThere => ?_) rest
        have replay := answer_replays kept respects adds (given call rfl) alikeThere
        rw [← isFactory] at replay
        exact replay
      · rw [sourceOf_set_of_ne same] at rest
        have others : callsOf member [⟨place, call, family.session,
            (factory.answer environment family.session call).result⟩] = [] := by
          rw [callsOf, List.filter_cons_of_neg (by simpa using same), List.filter_nil]
        rw [others]
        exact rest
  | derive place layer =>
    rw [step] at rest ⊢
    cases found : family.members[place]? with
    | none =>
      simp only [found] at rest ⊢
      exact rest
    | some factory =>
      simp only [found, descends.derive found seeded] at rest ⊢
      rwa [sourceOf_append] at rest

include kept respects adds in
/-- What is observed of a member replays on a source of its own. -/
theorem run_replays (seeded : Source.ofSeed origin.seed = .ok origin.source)
    {events : List Event} (descends : Descends origin family chains)
    (listed : (events.foldl Event.descend chains)[member]? = some chain)
    (given : ∀ call, .call member call ∈ events → call.IsGiven) :
    Replays alike (referenceOf environment origin chain) (sourceOf origin family member)
      (callsOf member (family.run environment events)) := by
  induction events generalizing family chains with
  | nil => exact .nil _
  | cons event events hypothesis =>
    have rest := hypothesis (step_descends environment seeded descends event) listed
      fun call mem => given call (List.mem_cons_of_mem _ mem)
    have known : ∀ own, chains[member]? = some own → own = chain := fun own isOwn =>
      Option.some.inj ((descends_keeps (event :: events) isOwn).symm.trans listed)
    rw [run, callsOf, List.filter_append]
    exact step_replays kept respects adds seeded descends known
      (fun call isCall => given call (isCall ▸ List.mem_cons_self)) rest

end Runs

end Family

/-! ### Composition -/

theorem Run.Agree.kept_eq : Agree.KeptBySteps (Eq : Session → Session → Prop) where
  source same := by rw [same]
  fresh same := by rw [same]
  withSource _ same := by rw [same]
  withFresh _ same := by rw [same]
  withRecord _ same := by rw [same]
  withClosure _ same := by rw [same]

/-- Two sessions with the same source and the same next identity. -/
structure Session.SameDraws (first second : Session) : Prop where
  source : first.source = second.source
  fresh : first.fresh = second.fresh

theorem Session.SameDraws.kept : Agree.KeptBySteps SameDraws where
  source same := same.source
  fresh same := same.fresh
  withSource _ same := ⟨rfl, same.fresh⟩
  withFresh _ same := ⟨same.source, rfl⟩
  withRecord _ same := ⟨same.source, same.fresh⟩
  withClosure _ same := ⟨same.source, same.fresh⟩

/-- **Factories compose by laying overrides over samples from left to right.** Whatever happens in
the family of a factory, the calls of a member give one after another what a fresh source with the
seed of the family gives: a sample, overlaid by what the callback, the layers on the way to the
member and the call add, where the callback and the layers run in this order after the sample. This
holds in the session of the call with the source replaced, and in every session with the same next
identity if functions of the caller look at nothing else. To lay entries over a dictionary is to
merge them with it: keys stand where they come first, and the value that comes last counts. So a
layer after a layer is worth as much as the one layer that merges both. -/
theorem family_replays (environment : Environment) {schema : Schema} {callback : Option Hook}
    {seed : Value} {settings : Settings} {origin : Factory}
    (made : Factory.make schema callback seed settings = .ok origin) (session : Session)
    {events : List Family.Event} {member : Nat} {chain : List Layer}
    (listed : (events.foldl Family.Event.descend [[]])[member]? = some chain)
    (adds : ∀ layer ∈ Factory.overrides callback chain, Factory.Adds environment layer)
    (given : ∀ call, .call member call ∈ events → call.IsGiven) :
    Replays Eq
        (Factory.reference environment schema settings (Factory.overrides callback chain))
        origin.source (Family.callsOf member (Family.run environment ⟨[origin], session⟩ events)) ∧
      (environment.Respects Session.SameDraws → Replays Session.SameDraws
        (Factory.reference environment schema settings (Factory.overrides callback chain))
        origin.source (Family.callsOf member (Family.run environment ⟨[origin], session⟩ events))) ∧
      (∀ base entries, AreKeyed base → HaveKeys entries →
        (Value.dictionary base).under entries =
          .ok (.dictionary (Value.merged (base ++ entries)))) ∧
      ∀ (factory : Factory) (first second : List (Value × Value)), AreKeyed first →
        HaveKeys second → Results
          (fun one other =>
            one.source = other.source ∧ one.call environment = other.call environment)
          (factory.derive (.attributes (.dictionary first)) >>= fun derived =>
            derived.derive (.attributes (.dictionary second)))
          (factory.derive (.attributes (.dictionary (putAll first second)))) := by
  obtain ⟨source, seeded, rfl⟩ := Factory.make_eq_ok.1 made
  have descends : Family.Descends ⟨schema, callback, [], seed, settings, source⟩
      ⟨[⟨schema, callback, [], seed, settings, source⟩], session⟩ [[]] :=
    Family.descends_alone rfl session
  have fresh := Family.sourceOf_alone ⟨schema, callback, [], seed, settings, source⟩ session member
  refine ⟨?_, fun respects => ?_, fun base entries keyed keys => ?_,
    fun factory first second keyed keys => Factory.derive_derive environment factory keyed keys⟩
  · have replays := Family.run_replays Run.Agree.kept_eq environment.respects_eq adds seeded
      descends listed given
    rwa [fresh] at replays
  · have replays := Family.run_replays Session.SameDraws.kept respects adds seeded descends listed
      given
    rwa [fresh] at replays
  · rw [← Value.putAll_eq_merged keyed keys]
    cases entries with
    | nil => rfl
    | cons entry rest => rfl

/-! ### A family of stamped boxes -/

/-- An environment whose functions of the caller all return a serial number from the provider. -/
def Environment.stamping : Environment :=
  { numbered [] with
    invoke := fun _ => (Callback.provided (.text "serial") "pyint").invoke numberedProvider }

/-- The functions that stamp respect any relation that is kept by steps. -/
theorem Environment.stamping_respects {alike : Session → Session → Prop}
    (kept : Agree.KeptBySteps alike) : stamping.Respects alike where
  provider := (numbered_respects kept []).provider
  invoke hook invocation := by
    cases invocation with
    | onProvider =>
      refine .bind ((numbered_respects kept []).provider _) fun value other same => ?_
      exact .pure (same ▸ .value _)
    | _ => exact .throw _

theorem Factory.adds_stamp (hook : Hook) : Adds Environment.stamping (.hook hook) := by
  have stamps : (Environment.stamping.invoke hook .onProvider).Yields fun reply =>
      ∃ number, reply = .value (.dictionary [(.text "serial", number)]) :=
    .bind (.trivial _) fun number _ => .pure ⟨number, rfl⟩
  refine stamps.bind fun reply returned => ?_
  obtain ⟨number, rfl⟩ := returned
  exact .pure ⟨_, rfl, ⟨by simp [Value.isHashable], List.pairwise_singleton _ _⟩⟩

/-- A factory of boxes with a size, whose callback stamps them. -/
def Factory.boxes : Factory where
  schema := .object [("size", .number), ("serial", .string)]
  callback := some ⟨0⟩
  layers := []
  seed := .int 5
  settings := []
  source := ⟨.ofSeed 5, .int 5⟩

namespace Family

/-- What red boxes have in common. -/
def red : Layer :=
  .attributes (.dictionary [(.text "size", .int 1), (.text "color", .text "red")])

/-- Red boxes, and red boxes that are stamped again. Boxes of all three kinds are made in turn. -/
def boxEvents : List Event :=
  [.derive 0 red, .call 0 (.raw .null), .derive 1 (.hook ⟨1⟩),
    .call 2 (.create (.dictionary [(.text "size", .int 2)])), .call 1 (.raw .null),
    .call 2 (.raw (.dictionary [(.text "weight", .int 3)]))]

end Family

/-- Boxes that were derived twice replay a fresh source, though the others are made in between. -/
theorem boxes_replay :
    Factory.make Factory.boxes.schema (some ⟨0⟩) (.int 5) [] = .ok .boxes ∧
      (Family.boxEvents.foldl Family.Event.descend [[]])[2]? = some [Family.red, .hook ⟨1⟩] ∧
      (∀ layer ∈ Factory.overrides (some ⟨0⟩) [Family.red, .hook ⟨1⟩],
        Factory.Adds Environment.stamping layer) ∧
      (∀ call, .call 2 call ∈ Family.boxEvents → call.IsGiven) ∧
      (Family.callsOf 2 (Family.run .stamping ⟨[.boxes], .start ⟨.ofSeed 9, .int 9⟩ 4⟩
        Family.boxEvents)).length = 2 ∧
      Replays Session.SameDraws
        (Factory.reference .stamping Factory.boxes.schema []
          (Factory.overrides (some ⟨0⟩) [Family.red, .hook ⟨1⟩]))
        Factory.boxes.source
        (Family.callsOf 2 (Family.run .stamping ⟨[.boxes], .start ⟨.ofSeed 9, .int 9⟩ 4⟩
          Family.boxEvents)) := by
  have made : Factory.make Factory.boxes.schema (some ⟨0⟩) (.int 5) [] = .ok .boxes := rfl
  have listed : (Family.boxEvents.foldl Family.Event.descend [[]])[2]? =
      some [Family.red, .hook ⟨1⟩] := rfl
  have adds : ∀ layer ∈ Factory.overrides (some ⟨0⟩) [Family.red, .hook ⟨1⟩],
      Factory.Adds Environment.stamping layer := by
    have red : Factory.Adds Environment.stamping Family.red :=
      .pure ⟨_, rfl, ⟨by decide, by decide⟩⟩
    intro layer mem
    simp only [Factory.overrides, Option.map_some, Option.toList_some, List.singleton_append,
      List.mem_cons, List.not_mem_nil, or_false] at mem
    rcases mem with rfl | rfl | rfl
    · exact Factory.adds_stamp _
    · exact red
    · exact Factory.adds_stamp _
  have given : ∀ call, .call 2 call ∈ Family.boxEvents → call.IsGiven := by
    intro call mem
    simp only [Family.boxEvents, List.mem_cons, reduceCtorEq, Family.Event.call.injEq,
      Nat.reduceEqDiff, false_and, false_or, true_and, List.not_mem_nil, or_false] at mem
    rcases mem with rfl | rfl
    · exact .inr ⟨_, rfl, ⟨by decide, by decide⟩⟩
    · exact .inr ⟨_, rfl, ⟨by decide, by decide⟩⟩
  refine ⟨made, listed, adds, given, rfl, ?_⟩
  exact (family_replays .stamping made (.start ⟨.ofSeed 9, .int 9⟩ 4) listed adds given).2.1
    (Environment.stamping_respects Session.SameDraws.kept)

end Specimen
