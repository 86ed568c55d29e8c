/-
**What functions of the caller are told.**

A function of the caller that fills nodes is told in which context. Along the way the context
changes in two places only, and both of them can be read off the trail that led to the node: the
depth grows by the levels of the trail, and the field is the last one that the trail entered
(`Trail.context`).

To say so of every call in a run, a listener takes the calls. It knows the trail of each, and where
a call comes in the context of its trail it replies for the function of the caller; to any other
call it may reply with whatever it likes. No listener makes a difference to a run, so there are no
other calls (`generate_threads`).
-/

import Specimen.Proofs.Agreement

namespace Specimen

/-! ### Listening -/

/-- What replies, at the end of a trail, to a call that fills a node. -/
abbrev Listener := Trail → Hook → Schema → Context → Run Reply

/-- The environment in which calls that fill nodes go to the listener, at the end of a trail. -/
def Environment.heard (environment : Environment) (listener : Listener) (trail : Trail) :
    Environment :=
  { environment with
    invoke := fun hook invocation =>
      match invocation with
      | .onNode schema context => listener trail hook schema context
      | other => environment.invoke hook other }

/-- The parts of a node at the end of a trail, each of them at the end of its own. -/
def Parts.along {Meaning : Type} (parts : Parts (Trail → Meaning)) (kind : Kind) (trail : Trail) :
    Parts Meaning where
  fields := parts.fields.map fun field => (field.1, field.2 (.field field.1 :: trail))
  inner := parts.inner.map fun meaning => meaning (kind.innerMove :: trail)
  key := parts.key.map fun meaning => meaning (.down :: trail)
  value := parts.value.map fun meaning => meaning (.down :: trail)
  rest := parts.rest.map fun meaning => meaning (.down :: trail)
  items := parts.items.map fun meaning => meaning (.along :: trail)

/-- Fills a node at the end of a trail, with the listener told the trail. -/
def Make.ofNodeHeard (environment : Environment) (listener : Listener)
    (lower : Schema → Trail → Make) (schema : Schema) (parts : Parts (Trail → Make)) :
    Trail → Make := fun trail =>
  Make.ofNode (environment.heard listener trail) (fun target => lower target (.down :: trail)) schema
    (parts.along schema.kind trail)

/-- Makes a sample as `generateWithin` does, with the listener told the trail of every call. -/
def generateHeard (environment : Environment) (listener : Listener) : Nat → Schema → Trail → Make
  | 0 => Schema.fold (Make.ofNodeHeard environment listener fun target _ => beyondReach target)
  | passes + 1 =>
    Schema.fold (Make.ofNodeHeard environment listener (generateHeard environment listener passes))

/-- The meanings of children along a trail are those by the moves to them. -/
theorem Schema.parts_along {Meaning : Type} (meaning : Schema → Trail → Meaning) (schema : Schema)
    (trail : Trail) : (schema.parts meaning).along schema.kind trail =
      schema.partsBy fun move child => meaning child (move :: trail) := by
  simp [Parts.along, Schema.parts, Schema.partsBy, Function.comp_def]

/-- The listener replies for the functions of the caller wherever a walk into the schema leads, if
the call is for the function of the tag, in the context of the trail and no deeper than it may be.
-/
def Listener.RepliesFor (listener : Listener) (environment : Environment) (schema : Schema)
    (start : Context) (depth most : Int) : Prop :=
  ∀ trail node hook, schema.Walks environment.definitions trail node →
    start.overrides.lookup node.tag = some hook → depth + trail.levels ≤ max depth most →
    listener trail hook node (trail.context start depth) =
      environment.invoke hook (.onNode node (trail.context start depth))

namespace Make

variable {environment : Environment} {listener : Listener} {trail : Trail} {lower : Schema → Make}
variable {schema : Schema} {parts : Parts Make} {context : Context}

/-- What is looked up for a field does not depend on what fills nodes. -/
theorem generator_heard (mapper : Option Hook) (reference name : Value) :
    Catalog.generator (environment.heard listener trail) mapper reference name =
      Catalog.generator environment mapper reference name := by
  have asked : Catalog.askMapper (environment.heard listener trail) mapper name =
      Catalog.askMapper environment mapper name := by
    cases mapper <;> rfl
  unfold Catalog.generator
  rw [asked]
  refine congrArg _ (funext fun reply => ?_)
  by_cases truthy : reply.isTruthy = true
  · rw [if_pos truthy, if_pos truthy]
  · rw [if_neg truthy, if_neg truthy]
    refine congrArg _ (funext fun text => ?_)
    -- What is selected is kept closed: to open it would be to build the index of the catalog.
    generalize Catalog.select? Catalog.catalogIndex text = selected
    cases selected <;> rfl

/-- The built-in rules do not call functions of the caller to fill nodes. -/
theorem builtin_heard : builtin? (environment.heard listener trail) lower schema parts =
    builtin? environment lower schema parts := by
  have texts (checks : List Check) : TextSynthesis.make (environment.heard listener trail) checks =
      TextSynthesis.make environment checks := by
    funext context
    unfold TextSynthesis.make TextSynthesis.unpatterned TextSynthesis.rawText
      TextSynthesis.fieldText TextSynthesis.resolved
    simp only [generator_heard]
    rfl
  unfold builtin?
  cases schema.kind with
  | string => exact congrArg some (texts schema.checks)
  | _ => rfl

/-- A listener that replies to the call of a node makes no difference to the node. -/
theorem ofNode_heard (replies : ∀ hook, context.overrides.lookup schema.tag = some hook →
      listener trail hook schema context = environment.invoke hook (.onNode schema context)) :
    ofNode (environment.heard listener trail) lower schema parts context =
      ofNode environment lower schema parts context := by
  have rules : rule? (environment.heard listener trail) lower schema parts context =
      rule? environment lower schema parts context := by
    unfold rule?
    rw [builtin_heard]
    cases chosen : context.overrides.lookup schema.tag with
    | none => rfl
    | some hook =>
      have same : (environment.heard listener trail).invokeValue hook (.onNode schema context) =
          environment.invokeValue hook (.onNode schema context) := by
        unfold Environment.invokeValue
        rw [← replies hook chosen]
        rfl
      exact congrArg some same
  rw [ofNode_eq, ofNode_eq, rules]

end Make

/-! ### Every call -/

section Threading

variable {environment : Environment} {listener : Listener} {schema : Schema} {start : Context}
variable {depth most : Int}

/-- One node: with the listener it is filled as without, if what it fills is. -/
theorem ofNodeHeard_eq (isMost : start.maxDepth = .int most)
    (replies : listener.RepliesFor environment schema start depth most)
    {heard lower : Schema → Trail → Make} {meaning unheard : Schema → Make} {trail : Trail}
    {node : Schema} (walks : schema.Walks environment.definitions trail node)
    (within : depth + trail.levels ≤ max depth most)
    (children : ∀ move child, node.Moves move child →
      depth + Trail.levels (move :: trail) ≤ max depth most →
      heard child (move :: trail) (Trail.context (move :: trail) start depth) =
        meaning child (Trail.context (move :: trail) start depth))
    (definition : ∀ target, node.kind = .lazy → node.resolve environment.definitions = .ok target →
      depth + Trail.levels (.down :: trail) ≤ max depth most →
      lower target (.down :: trail) (Trail.context (.down :: trail) start depth) =
        unheard target (Trail.context (.down :: trail) start depth)) :
    Make.ofNodeHeard environment listener lower node (node.parts heard) trail
        (trail.context start depth) =
      Make.ofNode environment unheard node (node.parts meaning) (trail.context start depth) := by
  let link := Correspondence.equality environment (fun _ _ => True) (fun _ _ => trivial)
    fun _ _ => trivial
  have reached : ∀ {move below}, (trail.context start depth).After move below →
      below = Trail.context (move :: trail) start depth ∧
        depth + Trail.levels (move :: trail) ≤ max depth most := by
    intro move below after
    obtain ⟨isNext, along | deeper⟩ := after.trail isMost
    · refine ⟨isNext, ?_⟩
      rw [Trail.levels_cons, along, Nat.zero_add]
      exact within
    · exact ⟨isNext, by omega⟩
  have byMoves : ∀ move child below, node.Moves move child →
      (trail.context start depth).After move below →
      link.same ((fun move child => heard child (move :: trail)) move child below)
        ((fun _ => meaning) move child (link.twin below)) := by
    intro move child below moves after
    obtain ⟨rfl, deep⟩ := reached after
    exact .of_eq (children move child moves deep)
  have lowered : ∀ target below,
      node.Follows environment.definitions (trail.context start depth) target below →
      link.same ((fun target => lower target (.down :: trail)) target below)
        (unheard target (link.twin below)) := by
    intro target below follows
    obtain ⟨rfl, deep⟩ := reached (.down follows.deeper)
    exact .of_eq (definition target follows.kind follows.found deep)
  have told := fun hook chosen => replies trail node hook walks chosen within
  rw [Make.ofNodeHeard, Make.ofNode_heard told, Schema.parts_along]
  exact (link.nodeByMoves byMoves trivial lowered).eq

/-- All nodes up to the next lazy ones are filled as without the listener, if what the lazy ones
stand for is. -/
theorem fold_heard (isMost : start.maxDepth = .int most)
    (replies : listener.RepliesFor environment schema start depth most)
    {lower : Schema → Trail → Make} {unheard : Schema → Make}
    (definition : ∀ trail target, schema.Walks environment.definitions trail target →
      depth + trail.levels ≤ max depth most →
      lower target trail (trail.context start depth) = unheard target (trail.context start depth)) :
    ∀ node trail, schema.Walks environment.definitions trail node →
      depth + trail.levels ≤ max depth most →
      Schema.fold (Make.ofNodeHeard environment listener lower) node trail
          (trail.context start depth) =
        Schema.fold (Make.ofNode environment unheard) node (trail.context start depth) := by
  intro node
  induction node using Schema.byParts with
  | step node hypothesis =>
    intro trail walks within
    rw [Schema.fold_eq, Schema.fold_eq]
    refine ofNodeHeard_eq isMost replies walks within (fun move child moves deep => ?_)
      fun target kind found deep => ?_
    · exact hypothesis child moves.mem_children (move :: trail) (.move walks moves) deep
    · exact definition (.down :: trail) target (.enter walks kind found) deep

/-- With the listener a sample is made as without, however many lazy nodes may be passed. -/
theorem generateHeard_eq (isMost : start.maxDepth = .int most)
    (replies : listener.RepliesFor environment schema start depth most) (passes : Nat) :
    ∀ node trail, schema.Walks environment.definitions trail node →
      depth + trail.levels ≤ max depth most →
      generateHeard environment listener passes node trail (trail.context start depth) =
        generateWithin environment passes node (trail.context start depth) := by
  induction passes with
  | zero => exact fold_heard isMost replies fun _ _ _ _ => rfl
  | succ passes hypothesis =>
    exact fold_heard isMost replies fun trail target walks deep =>
      hypothesis target trail walks deep

/-- **The context of every call is that of its trail.** Let generation start at any node, in a
context whose depths are integers, and let a listener take the calls that fill nodes. As long as it
replies for the functions of the caller to calls in the context of the trail, the run is the one
without a listener, whatever the listener does on other calls: there are none. In the context of the
trail the depth is that of the start and the levels of the trail, and no larger than it may be or
was at the start; the field is the one that the trail entered last; all else is as at the start. -/
theorem generate_threads (environment : Environment) (schema : Schema) {start : Context}
    {depth most : Int} (isDepth : start.currentDepth = .int depth)
    (isMost : start.maxDepth = .int most) {listener : Listener}
    (replies : listener.RepliesFor environment schema start depth most) :
    generateHeard environment listener start.remaining schema [] start =
      generate environment schema start := by
  have here : depth + Trail.levels [] ≤ max depth most := by
    rw [Trail.levels]
    omega
  have heard := generateHeard_eq isMost replies start.remaining schema [] .start here
  rwa [Trail.context_nil isDepth] at heard

end Threading

/-- Names are pairs of two texts. -/
def names : Schema.Definitions := [("name", .ok (.tuple [.string, .string] none))]

/-- Somebody with a name. -/
def person : Schema := .object [("called", .lazy "name")]

/-- The caller fills texts. -/
def fillsTexts : Context := { overrides := [("string", ⟨0⟩)] }

/-- Replies with the place of a text by its trail, whatever the context of the call is. -/
def byTrail : Listener := fun trail hook node _ =>
  (Environment.ofStock names [.info]).invoke hook (.onNode node (trail.context fillsTexts 0))

/-- Of both texts of a name the function of the caller hears the field that bears the name and the
level it is on, as the trail says. -/
theorem person_threads :
    generateHeard (.ofStock names [.info]) byTrail fillsTexts.remaining person [] fillsTexts =
        generate (.ofStock names [.info]) person fillsTexts ∧
      (generate (.ofStock names [.info]) person fillsTexts
          (.start ⟨.ofSeed 0, .int 0⟩ 0)).1.toOption.map Value.inspect =
        some "\x7b'called': (['string', 'called', 2], ['string', 'called', 2])\x7d" := by
  have replies : byTrail.RepliesFor (.ofStock names [.info]) person fillsTexts 0 10 :=
    fun _ _ _ _ _ _ => rfl
  exact ⟨generate_threads (.ofStock names [.info]) person rfl rfl replies, by decide +kernel⟩

end Specimen
