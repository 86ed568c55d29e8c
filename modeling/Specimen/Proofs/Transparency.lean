/-
**Depth that does not bind.**

Nodes look at the depth in order not to go deeper than they may. As long as no way into a schema
passes more such nodes than there are levels left, all of them go on, and nothing else looks at the
depth: the sample, the random source and the log are the same wherever the walk starts and however
deep it may go (`generate_transparent`).

Where no way comes back to a node, there is a greatest number of such nodes on a way, the height of
the schema (`Schema.exists_height`).
-/

import Mathlib.Order.Lattice.Nat
import Specimen.Proofs.Depth
import Specimen.Proofs.Ways

namespace Specimen

namespace Schema

/-! ### Heights -/

/-- How many nodes look at the depth on the way to a node, the node itself included. -/
def guards (trail : Trail) (node : Schema) : Nat :=
  trail.levels + if node.isControlled then 1 else 0

/-- The height of a schema is the greatest number of nodes that look at the depth on a way into it.
-/
def HasHeight (definitions : Definitions) (schema : Schema) (height : Nat) : Prop :=
  IsGreatest {count | ∃ trail node, schema.Walks definitions trail node ∧ count = guards trail node}
    height

/-- A way into the schema passes the first node and goes on to the second one. -/
def Passes (definitions : Definitions) (schema first second : Schema) : Prop :=
  (∃ trail, schema.Walks definitions trail first) ∧
    ∃ further, further ≠ [] ∧ first.Walks definitions further second

/-- No way comes back to a node that it has passed. -/
def IsAcyclic (definitions : Definitions) (schema : Schema) : Prop :=
  ∀ trail node, schema.Walks definitions trail node →
    ∀ further, node.Walks definitions further node → further = []

/-- There are no functions on any way into the schema. -/
def IsFunctionFree (definitions : Definitions) (schema : Schema) : Prop :=
  ∀ trail node, schema.Walks definitions trail node → node.kind ≠ .function

/-- No more than a number of nodes look at the depth on any way into the schema. -/
def StaysWithin (definitions : Definitions) (height : Nat) (schema : Schema) : Prop :=
  ∀ trail node, schema.Walks definitions trail node → guards trail node ≤ height

variable {definitions : Definitions} {schema node : Schema} {trail : Trail} {height : Nat}

theorem guards_append (further : Trail) (move : Move) (node : Schema) :
    guards (further ++ [move]) node = guards further node + move.levels := by
  unfold guards
  rw [Trail.levels_append]
  have single : Trail.levels [move] = move.levels := Nat.add_zero _
  omega

/-- A walk stays where it starts, or it begins with a move. -/
theorem Walks.cases_head (walks : schema.Walks definitions trail node) :
    trail = [] ∧ node = schema ∨ ∃ move next further, schema.Walks definitions [move] next ∧
      next.Walks definitions further node ∧ trail = further ++ [move] := by
  induction walks with
  | start => exact .inl ⟨rfl, rfl⟩
  | @move trail node next move walks moves hypothesis =>
    rcases hypothesis with ⟨rfl, rfl⟩ | ⟨first, begun, further, begins, goesOn, rfl⟩
    · exact .inr ⟨move, next, [], .move .start moves, .start, rfl⟩
    · exact .inr ⟨first, begun, move :: further, begins, .move goesOn moves, rfl⟩
  | @enter trail node target walks kind found hypothesis =>
    rcases hypothesis with ⟨rfl, rfl⟩ | ⟨first, begun, further, begins, goesOn, rfl⟩
    · exact .inr ⟨.down, target, [], .enter .start kind found, .start, rfl⟩
    · exact .inr ⟨first, begun, .down :: further, begins, .enter goesOn kind found, rfl⟩

theorem Passes.trans {first second third : Schema} (before : schema.Passes definitions first second)
    (after : schema.Passes definitions second third) : schema.Passes definitions first third := by
  obtain ⟨reached, further, nonempty, walks⟩ := before
  obtain ⟨_, more, _, goesOn⟩ := after
  exact ⟨reached, more ++ further, by simp [nonempty], walks.append goesOn⟩

/-- Where no way comes back to a node, no node is passed on the way to itself. -/
theorem IsAcyclic.not_passes (acyclic : schema.IsAcyclic definitions) (place : Schema) :
    ¬ Relation.TransGen (schema.Passes definitions) place place := by
  have isTrans : IsTrans Schema (schema.Passes definitions) := ⟨fun _ _ _ => Passes.trans⟩
  rw [Relation.transGen_eq_self]
  rintro ⟨⟨trail, reached⟩, further, nonempty, returns⟩
  exact nonempty (acyclic trail place reached further returns)

namespace StaysWithin

theorem mono (within : StaysWithin definitions height schema) {more : Nat} (less : height ≤ more) :
    StaysWithin definitions more schema :=
  fun trail node walks => (within trail node walks).trans less

/-- A move uses up its levels. -/
theorem next (within : StaysWithin definitions height schema) {move : Move} {next : Schema}
    (walks : schema.Walks definitions [move] next) :
    ∃ lower, height = lower + move.levels ∧ StaysWithin definitions lower next := by
  have longer : ∀ further node, next.Walks definitions further node →
      guards further node + move.levels ≤ height := fun further node goesOn =>
    guards_append further move node ▸ within _ _ (walks.append goesOn)
  have room := longer [] next .start
  refine ⟨height - move.levels, by omega, fun further node goesOn => ?_⟩
  have := longer further node goesOn
  omega

theorem of_next (each : ∀ move next, schema.Walks definitions [move] next →
    StaysWithin definitions height next) : StaysWithin definitions (height + 1) schema := by
  intro trail node walks
  rcases walks.cases_head with ⟨rfl, rfl⟩ | ⟨move, next, further, begins, goesOn, rfl⟩
  · unfold guards
    have none : Trail.levels [] = 0 := rfl
    split <;> omega
  · have step : move.levels ≤ 1 := by cases move <;> simp [Move.levels]
    have := each move next begins further node goesOn
    rw [guards_append]
    omega

theorem exists_of_list {nodes : List Schema} {reached : Schema → Prop}
    (each : ∀ node ∈ nodes, reached node → ∃ height, StaysWithin definitions height node) :
    ∃ height, ∀ node ∈ nodes, reached node → StaysWithin definitions height node := by
  induction nodes with
  | nil => exact ⟨0, List.forall_mem_nil _⟩
  | cons first rest hypothesis =>
    rw [List.forall_mem_cons] at each
    obtain ⟨more, others⟩ := hypothesis each.2
    by_cases begins : reached first
    · obtain ⟨height, within⟩ := each.1 begins
      exact ⟨Nat.max height more, List.forall_mem_cons.2
        ⟨fun _ => within.mono (Nat.le_max_left ..),
          fun node mem goes => (others node mem goes).mono (Nat.le_max_right ..)⟩⟩
    · exact ⟨more, List.forall_mem_cons.2 ⟨fun goes => absurd goes begins, others⟩⟩

/-- A schema has a bound on its height if the definitions that walks into it come to have one. -/
theorem exists_of_definitions (schema : Schema)
    (each : ∀ trail target name, schema.Walks definitions trail target → trail ≠ [] →
      (name, .ok target) ∈ definitions → ∃ height, StaysWithin definitions height target) :
    ∃ height, StaysWithin definitions height schema := by
  induction schema using Schema.byParts with
  | step schema hypothesis =>
    have children : ∀ child ∈ schema.children, (∃ move, schema.Walks definitions [move] child) →
        ∃ height, StaysWithin definitions height child := by
      rintro child mem ⟨move, begins⟩
      exact hypothesis child mem fun trail target name walks _ listed =>
        each (trail ++ [move]) target name (begins.append walks) (by simp) listed
    have targets : ∃ more, ∀ target, schema.kind = .lazy → schema.resolve definitions = .ok target →
        StaysWithin definitions more target := by
      by_cases stands : ∃ target, schema.kind = .lazy ∧ schema.resolve definitions = .ok target
      · obtain ⟨target, kind, found⟩ := stands
        obtain ⟨name, listed⟩ := resolve_mem found
        obtain ⟨more, within⟩ :=
          each [.down] target name (.enter .start kind found) (List.cons_ne_nil _ _) listed
        refine ⟨more, fun other _ same => ?_⟩
        rw [found] at same
        cases same
        exact within
      · exact ⟨0, fun target kind found => absurd ⟨target, kind, found⟩ stands⟩
    obtain ⟨height, ofChildren⟩ := exists_of_list children
    obtain ⟨more, ofTarget⟩ := targets
    refine ⟨Nat.max height more + 1, of_next fun move next begins => ?_⟩
    cases begins with
    | move here moves =>
      cases here
      exact (ofChildren next moves.mem_children ⟨move, .move .start moves⟩).mono
        (Nat.le_max_left ..)
    | enter here kind found =>
      cases here
      exact (ofTarget next kind found).mono (Nat.le_max_right ..)

/-- Where no way comes back to a node, there is a bound on the height. -/
theorem exists_of_acyclic (acyclic : schema.IsAcyclic definitions) :
    ∃ height, StaysWithin definitions height schema := by
  let places : List Schema := definitions.filterMap fun entry => entry.2.toOption
  have bounded : ∀ place ∈ places, (∃ trail, schema.Walks definitions trail place) →
      ∃ height, StaysWithin definitions height place := by
    refine forall_of_acyclic (fun place _ => acyclic.not_passes place) fun place _ hypothesis => ?_
    rintro ⟨trail, reached⟩
    refine exists_of_definitions place fun further target name walks nonempty listed => ?_
    have isPlace : target ∈ places := List.mem_filterMap.2 ⟨_, listed, rfl⟩
    exact hypothesis target isPlace (.single ⟨⟨trail, reached⟩, further, nonempty, walks⟩)
      ⟨further ++ trail, reached.append walks⟩
  refine exists_of_definitions schema fun trail target name walks _ listed => ?_
  exact bounded target (List.mem_filterMap.2 ⟨_, listed, rfl⟩) ⟨trail, walks⟩

end StaysWithin

/-- Where no way comes back to a node, a schema has a height. -/
theorem exists_height (acyclic : schema.IsAcyclic definitions) :
    ∃ height, schema.HasHeight definitions height := by
  obtain ⟨bound, within⟩ := StaysWithin.exists_of_acyclic acyclic
  let counts : Set Nat :=
    {count | ∃ trail node, schema.Walks definitions trail node ∧ count = guards trail node}
  have bounded : BddAbove counts := by
    refine ⟨bound, ?_⟩
    rintro count ⟨trail, node, walks, rfl⟩
    exact within trail node walks
  have nonempty : counts.Nonempty := ⟨_, [], schema, .start, rfl⟩
  exact ⟨sSup counts, Nat.sSup_mem nonempty bounded, fun count mem => le_csSup bounded mem⟩

end Schema

/-! ### Other depths -/

/-- The context at another depth, with another one that it may not exceed. -/
def Context.atDepth (context : Context) (current most : Int) : Context :=
  { context with currentDepth := .int current, maxDepth := .int most }

/-- What the function of the caller replies for a node does not depend on the depths. -/
def Environment.IgnoresDepth (environment : Environment) (hook : Hook) : Prop :=
  ∀ schema context current most,
    environment.invoke hook (.onNode schema (context.atDepth current most)) =
      environment.invoke hook (.onNode schema context)

/-- An integer moved by a distance. -/
def Value.shifted (distance : Int) : Value → Value
  | .int value => .int (value + distance)
  | other => other

/-- The context moved by a distance, with another depth that it may not exceed. -/
def Context.shifted (distance most : Int) (context : Context) : Context :=
  { context with
    currentDepth := context.currentDepth.shifted distance
    maxDepth := .int most }

theorem Context.shifted_atDepth (context : Context) (current most other limit : Int) :
    (context.atDepth current most).shifted (other - current) limit = context.atDepth other limit := by
  have arrives : current + (other - current) = other := by omega
  show { context with currentDepth := .int (current + (other - current)), maxDepth := .int limit } = _
  rw [arrives]
  rfl

/-- The context is at a depth, with room for a schema up to the depth that it may not exceed, and up
to another one if it is moved by a distance. -/
structure Context.HasRoom (definitions : Schema.Definitions) (most distance limit : Int)
    (schema : Schema) (context : Context) : Prop where
  isMost : context.maxDepth = .int most
  room : ∃ (depth : Int) (height : Nat), context.currentDepth = .int depth ∧
    schema.StaysWithin definitions height ∧ depth + height ≤ most ∧
    depth + distance + height ≤ limit

namespace Context.HasRoom

variable {definitions : Schema.Definitions} {most distance limit : Int} {schema : Schema}
variable {context below : Context}

/-- There is room after a move. -/
theorem after (room : context.HasRoom definitions most distance limit schema) {move : Move}
    {next : Schema} (walks : schema.Walks definitions [move] next)
    (after : context.After move below) : below.HasRoom definitions most distance limit next := by
  obtain ⟨isMost, depth, height, isDepth, within, enough, alsoEnough⟩ := room
  obtain ⟨lower, rfl, withinNext⟩ := within.next walks
  rw [← Trail.context_nil isDepth] at after
  obtain ⟨rfl, _⟩ := after.trail isMost
  refine ⟨isMost, _, lower, rfl, withinNext, ?_, ?_⟩ <;>
  · rw [Trail.levels_cons]
    have none : Trail.levels [] = 0 := rfl
    omega

/-- Where there is room, both contexts can go deeper, and they stay alike. -/
theorem deeper (room : context.HasRoom definitions most distance limit schema)
    (controlled : schema.isControlled = true) :
    (context.shifted distance limit).deeper =
      context.deeper.map (Option.map (Context.shifted distance limit)) := by
  obtain ⟨isMost, depth, height, isDepth, within, enough, alsoEnough⟩ := room
  have own : 0 + 1 ≤ height := by
    have here := within [] schema .start
    rw [Schema.guards, if_pos controlled] at here
    exact here
  have shiftedDepth : (context.shifted distance limit).currentDepth = .int (depth + distance) := by
    rw [Context.shifted, isDepth]
    rfl
  have moved : depth + 1 + distance = depth + distance + 1 := by omega
  rw [deeper_of_int isDepth isMost, deeper_of_int shiftedDepth rfl, if_neg (by omega),
    if_neg (by omega), ← moved]
  rfl

end Context.HasRoom

/-! ### The two walks -/

/-- The context of the schema can be moved by a distance without a difference to what is made. -/
structure Schema.IsShiftable (environment : Environment) (most distance limit : Int)
    (schema : Schema) (context : Context) : Prop where
  room : context.HasRoom environment.definitions most distance limit schema
  functionFree : schema.IsFunctionFree environment.definitions
  overrides : ∀ entry ∈ context.overrides, environment.IgnoresDepth entry.2

namespace Schema.IsShiftable

variable {environment : Environment} {most distance limit : Int} {schema next : Schema}
variable {context below : Context}

theorem after (shiftable : schema.IsShiftable environment most distance limit context) {move : Move}
    (walks : schema.Walks environment.definitions [move] next) (after : context.After move below) :
    next.IsShiftable environment most distance limit below where
  room := shiftable.room.after walks after
  functionFree _ node goesOn := shiftable.functionFree _ node (walks.append goesOn)
  overrides := after.overrides_eq ▸ shiftable.overrides

/-- A function of the caller that ignores the depth does not notice that the context was moved. -/
theorem override (shiftable : schema.IsShiftable environment most distance limit context)
    {hook : Hook} (chosen : context.overrides.lookup schema.tag = some hook) :
    environment.invoke hook (.onNode schema (context.shifted distance limit)) =
      environment.invoke hook (.onNode schema context) := by
  obtain ⟨_, depth, _, isDepth, _⟩ := shiftable.room
  have isShifted : context.shifted distance limit = context.atDepth (depth + distance) limit := by
    rw [Context.shifted, isDepth]
    rfl
  rw [isShifted]
  exact shiftable.overrides _ (mem_of_lookup chosen) _ _ _ _

end Schema.IsShiftable

/-- Runs in a context and in one that was moved are the same where there is room for both. -/
def Correspondence.shift (environment : Environment) (most distance limit : Int) :
    Correspondence environment environment :=
  { equality environment (fun _ _ => True) (fun _ _ => trivial) fun _ _ => trivial with
    twin := Context.shifted distance limit
    suits := fun schema context => schema.IsShiftable environment most distance limit context
    newFunction := fun _ _ suits kind => absurd kind (suits.functionFree [] _ .start)
    resolver := fun _ _ _ => Run.Agree.self (Reply.Alike.refl Run.Agree.refl) _
    mapper := fun _ _ _ => Run.Agree.self (Reply.Alike.refl Run.Agree.refl) _
    override := fun suits chosen =>
      Run.Agree.of_eq (congrArg (· >>= Reply.toValue) (suits.override chosen).symm)
    filled := fun _ agree => Run.Agree.of_eq (congrArg _ agree.eq)
    unfilled := fun _ => Run.Agree.refl _
    choices := fun _ => ⟨rfl, rfl, rfl, rfl, rfl, rfl, rfl, rfl⟩
    forKey := fun _ _ => rfl
    deeper := fun suits controlled => suits.room.deeper controlled
    fills := fun suits fills =>
      let ⟨_, moves, after⟩ := fills.moves
      suits.after (.move .start moves) after
    follows := fun suits follows =>
      suits.after (.enter .start follows.kind follows.found) (.down follows.deeper) }

theorem Context.hasLevels_atDepth (context : Context) (current most : Int) :
    (context.atDepth current most).HasLevels (most - current).toNat :=
  ⟨current, most, rfl, rfl, rfl⟩

/-- **Depth that does not bind makes no difference.** Let a schema be free of functions, with no way
that comes back to a node. It has a height, and wherever so many levels are left, generation is the
same run: it makes the same sample and leaves the same random source and log. -/
theorem generate_transparent {environment : Environment} {schema : Schema}
    (functionFree : schema.IsFunctionFree environment.definitions)
    (acyclic : schema.IsAcyclic environment.definitions) :
    ∃ height, schema.HasHeight environment.definitions height ∧
      ∀ context : Context, (∀ entry ∈ context.overrides, environment.IgnoresDepth entry.2) →
      ∀ current most other limit : Int, current + height ≤ most → other + height ≤ limit →
        generate environment schema (context.atDepth current most) =
          generate environment schema (context.atDepth other limit) := by
  obtain ⟨height, greatest⟩ := Schema.exists_height acyclic
  refine ⟨height, greatest, fun context overrides current most other limit enough alsoEnough => ?_⟩
  have within : schema.StaysWithin environment.definitions height := fun trail node walks =>
    greatest.2 ⟨trail, node, walks, rfl⟩
  let link := Correspondence.shift environment most (other - current) limit
  have suits : link.suits schema (context.atDepth current most) :=
    ⟨⟨rfl, current, height, rfl, within, enough, by omega⟩, functionFree, overrides⟩
  -- Both walks may pass as many lazy nodes as the one that may pass more of them.
  let passes := (most - current).toNat + (limit - other).toNat
  have unbounded : ∀ current most, (most - current).toNat ≤ passes →
      generateWithin environment passes schema (context.atDepth current most) =
        generate environment schema (context.atDepth current most) := by
    intro current most few
    rw [← generateBeyond_beyondReach]
    exact generateBeyond_eq (context.hasLevels_atDepth current most) few beyondReach schema
  rw [← unbounded current most (Nat.le_add_right ..), ← unbounded other limit (Nat.le_add_left ..),
    ← context.shifted_atDepth current most other limit]
  exact (link.generateWithin passes schema _ suits).eq

/-- Tags are plain texts. -/
def tags : Schema.Definitions := [("tag", .ok .string)]

/-- The way into a list of tags leads past the lazy node to the text. -/
theorem tags_walks {trail : Trail} {node : Schema}
    (walks : (Schema.array (.lazy "tag")).Walks tags trail node) :
    trail = [] ∧ node = .array (.lazy "tag") ∨ trail = [.down] ∧ node = .lazy "tag" ∨
      trail = [.down, .down] ∧ node = .string := by
  induction walks with
  | start => exact .inl ⟨rfl, rfl⟩
  | move _ moves hypothesis =>
    rcases hypothesis with ⟨rfl, rfl⟩ | ⟨rfl, rfl⟩ | ⟨rfl, rfl⟩
    · cases moves with
      | element kind found =>
        cases found
        exact .inr (.inl ⟨rfl, rfl⟩)
      | field kind | item kind | wrapped kind => cases kind
      | key kind | value kind => rcases kind with kind | kind <;> cases kind
      | rest kind => cases kind
    all_goals cases moves.mem_children
  | enter _ kind found hypothesis =>
    rcases hypothesis with ⟨rfl, rfl⟩ | ⟨rfl, rfl⟩ | ⟨rfl, rfl⟩
    · cases kind
    · cases found
      exact .inr (.inr ⟨rfl, rfl⟩)
    · cases kind

/-- An array of tags is filled alike far below the top, where two levels are left as well. -/
theorem tags_transparent :
    (Schema.array (.lazy "tag")).HasHeight tags 2 ∧
      generate (.ofStock tags [.const (.text "new")]) (.array (.lazy "tag"))
          (Context.atDepth { overrides := [("string", ⟨0⟩)] } 0 2) =
        generate (.ofStock tags [.const (.text "new")]) (.array (.lazy "tag"))
          (Context.atDepth { overrides := [("string", ⟨0⟩)] } 7 100) := by
  have tall : (Schema.array (.lazy "tag")).HasHeight tags 2 := by
    refine ⟨⟨[.down], .lazy "tag", .move .start (.element (.inl rfl) rfl), rfl⟩, ?_⟩
    rintro count ⟨trail, node, walks, rfl⟩
    rcases tags_walks walks with ⟨rfl, rfl⟩ | ⟨rfl, rfl⟩ | ⟨rfl, rfl⟩ <;> decide
  have functionFree : (Schema.array (.lazy "tag")).IsFunctionFree tags := by
    intro trail node walks
    rcases tags_walks walks with ⟨rfl, rfl⟩ | ⟨rfl, rfl⟩ | ⟨rfl, rfl⟩ <;> nofun
  have passed : ∀ {trail node}, (Schema.array (.lazy "tag")).Walks tags trail node →
      trail.length = if node.kind = .array then 0 else if node.kind = .lazy then 1 else 2 := by
    intro trail node walks
    rcases tags_walks walks with ⟨rfl, rfl⟩ | ⟨rfl, rfl⟩ | ⟨rfl, rfl⟩ <;> rfl
  have acyclic : (Schema.array (.lazy "tag")).IsAcyclic tags := by
    intro trail node walks further returns
    have longer := passed (walks.append returns)
    rw [← passed walks, List.length_append] at longer
    exact List.eq_nil_of_length_eq_zero (by omega)
  obtain ⟨height, greatest, transparent⟩ :=
    @generate_transparent (.ofStock tags [.const (.text "new")]) (.array (.lazy "tag")) functionFree
      acyclic
  cases tall.unique greatest
  refine ⟨tall, transparent _ (fun entry mem => ?_) 0 2 7 100 (by decide) (by decide)⟩
  cases List.mem_singleton.1 mem
  exact fun _ _ _ _ => rfl

end Specimen
