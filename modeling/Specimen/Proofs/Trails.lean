/-
**Trails.**

Filling a node makes moves: into a field of an object, down a level into another part, or along to a
part that is filled on the same level. The moves that led to a node are its trail, and the trail
alone tells in which context the node is filled (`Trail.context`): every move but those along counts
as a level, and the last field that was entered is the one that is being filled.

`Schema.Walks` relates a schema to the nodes in it, in what its lazy nodes stand for as well, with
the trails that lead to them.
-/

import Specimen.Proofs.Levels

namespace Specimen

/-! ### Moves -/

/-- A move from a node to a part of it. -/
inductive Move where
  /-- Into a field of an object. -/
  | field (name : String)
  /-- One level deeper, to an element, to a key or value of a dictionary, to what follows the items
  of a tuple, or to what a lazy node stands for. -/
  | down
  /-- To a part that is filled on the same level. -/
  | along

namespace Move

/-- The levels that the move goes deeper. -/
def levels : Move → Nat
  | .field _ => 1
  | .down => 1
  | .along => 0

/-- The field that the move enters. -/
def name? : Move → Option String
  | .field name => some name
  | _ => none

end Move

/-- The move to what a node of this kind wraps or contains. -/
def Kind.innerMove : Kind → Move
  | .array | .set => .down
  | _ => .along

theorem Kind.innerMove_along {kind : Kind} (wrapper : kind.isWrapper = true) :
    kind.innerMove = .along := by
  cases kind <;> first | rfl | cases wrapper

/-- The context after a move. -/
inductive Context.After (context : Context) : Move → Context → Prop
  | field {below : Context} (name : String) (deeper : context.deeper = .ok (some below)) :
      After context (.field name) (below.forKey (.text name))
  | down {below : Context} (deeper : context.deeper = .ok (some below)) : After context .down below
  | along : After context .along context

namespace Schema

/-- Filling a node moves to a child. -/
inductive Moves (schema : Schema) : Move → Schema → Prop
  | field {name : String} {child : Schema} (kind : schema.kind = .object)
      (mem : (name, child) ∈ schema.fields.getD []) : Moves schema (.field name) child
  | element {child : Schema} (kind : schema.kind = .array ∨ schema.kind = .set)
      (found : schema.inner = some child) : Moves schema .down child
  | key {child : Schema} (kind : schema.kind = .map ∨ schema.kind = .record)
      (found : schema.key = some child) : Moves schema .down child
  | value {child : Schema} (kind : schema.kind = .map ∨ schema.kind = .record)
      (found : schema.value = some child) : Moves schema .down child
  | rest {child : Schema} (kind : schema.kind = .tuple) (found : schema.rest = some child) :
      Moves schema .down child
  | item {child : Schema} (kind : schema.kind.hasItems) (mem : child ∈ schema.items) :
      Moves schema .along child
  | wrapped {child : Schema} (kind : schema.kind.isWrapper) (found : schema.inner = some child) :
      Moves schema .along child

variable {schema child : Schema} {context below : Context} {move : Move}

/-- A child is filled where a move leads to it. -/
theorem Moves.fills (moves : schema.Moves move child) (after : context.After move below) :
    schema.Fills context child below := by
  cases moves with
  | field kind mem => cases after with | field name deeper => exact .field kind deeper mem
  | element kind found => cases after with | down deeper => exact .element kind deeper found
  | key kind found => cases after with | down deeper => exact .key kind deeper found
  | value kind found => cases after with | down deeper => exact .value kind deeper found
  | rest kind found => cases after with | down deeper => exact .rest kind deeper found
  | item kind mem => cases after with | along => exact .item kind mem
  | wrapped kind found => cases after with | along => exact .wrapped kind found

/-- A child that is filled is one that a move leads to. -/
theorem Fills.moves (fills : schema.Fills context child below) :
    ∃ move, schema.Moves move child ∧ context.After move below := by
  cases fills with
  | field kind deeper mem => exact ⟨_, .field kind mem, .field _ deeper⟩
  | element kind deeper found => exact ⟨_, .element kind found, .down deeper⟩
  | key kind deeper found => exact ⟨_, .key kind found, .down deeper⟩
  | value kind deeper found => exact ⟨_, .value kind found, .down deeper⟩
  | rest kind deeper found => exact ⟨_, .rest kind found, .down deeper⟩
  | item kind mem => exact ⟨_, .item kind mem, .along⟩
  | wrapped kind found => exact ⟨_, .wrapped kind found, .along⟩

theorem Moves.mem_children (moves : schema.Moves move child) : child ∈ schema.children := by
  simp only [children, List.mem_append, Option.mem_toList, List.mem_map]
  cases moves with
  | field kind mem => exact .inl (.inl (.inl (.inl (.inl ⟨_, mem, rfl⟩))))
  | element kind found | wrapped kind found => exact .inl (.inl (.inl (.inl (.inr found))))
  | key kind found => exact .inl (.inl (.inl (.inr found)))
  | value kind found => exact .inl (.inl (.inr found))
  | rest kind found => exact .inl (.inr found)
  | item kind mem => exact .inr mem

/-- The children of a node under a meaning that depends on the moves to them. -/
def partsBy {Meaning : Type} (meaning : Move → Schema → Meaning) (schema : Schema) :
    Parts Meaning where
  fields := (schema.fields.getD []).map fun field => (field.1, meaning (.field field.1) field.2)
  inner := schema.inner.map (meaning schema.kind.innerMove)
  key := schema.key.map (meaning .down)
  value := schema.value.map (meaning .down)
  rest := schema.rest.map (meaning .down)
  items := schema.items.map (meaning .along)

theorem partsBy_inner {Meaning : Type} (meaning : Move → Schema → Meaning)
    (isMove : schema.kind.innerMove = move) :
    (schema.partsBy meaning).inner = schema.inner.map (meaning move) := by
  rw [← isMove]
  rfl

end Schema

/-! ### Trails -/

/-- The moves that led to a node, the latest one first. -/
abbrev Trail := List Move

namespace Trail

/-- The levels that the trail goes deeper. -/
def levels : Trail → Nat
  | [] => 0
  | move :: trail => move.levels + levels trail

/-- The last field that the trail enters. -/
def field? (trail : Trail) : Option String := trail.findSome? Move.name?

/-- The context at the end of a trail that starts at a depth. -/
def context (trail : Trail) (start : Context) (depth : Int) : Context :=
  { start with
    currentDepth := .int (depth + trail.levels)
    keyName := (trail.field?.map Value.text).getD start.keyName }

theorem levels_cons (move : Move) (trail : Trail) :
    levels (move :: trail) = move.levels + trail.levels := rfl

theorem levels_append (trail other : Trail) :
    levels (trail ++ other) = trail.levels + other.levels := by
  induction trail with
  | nil => exact (Nat.zero_add _).symm
  | cons move trail hypothesis =>
    rw [List.cons_append, levels_cons, levels_cons, hypothesis, Nat.add_assoc]

theorem context_nil {start : Context} {depth : Int} (isDepth : start.currentDepth = .int depth) :
    context [] start depth = start := by
  have atDepth : depth + levels [] = depth := by simp [levels]
  unfold context
  rw [atDepth, ← isDepth]
  rfl

end Trail

namespace Context

variable {context below start : Context} {depth most : Int} {move : Move}

/-- Where the depths are integers, the walk goes one level deeper as long as it may. -/
theorem deeper_of_int (isDepth : context.currentDepth = .int depth)
    (isMost : context.maxDepth = .int most) :
    context.deeper = .ok (if most ≤ depth then none
      else some { context with currentDepth := .int (depth + 1) }) := by
  have exhausted : context.exhausted = .ok (decide (most ≤ depth)) := by
    rw [Context.exhausted, isDepth, isMost]
    exact Value.greaterEqual_of_toInt rfl rfl
  unfold Context.deeper Context.descend
  rw [exhausted, isDepth]
  by_cases reached : most ≤ depth
  · rw [decide_eq_true reached, if_pos reached]
    rfl
  · rw [decide_eq_false reached, if_neg reached]
    rfl

/-- A move changes nothing in the context but the depth and the field. -/
theorem After.overrides_eq (after : context.After move below) :
    below.overrides = context.overrides := by
  cases after with
  | field name deeper =>
    rw [eq_of_deeper deeper]
    rfl
  | down deeper => rw [eq_of_deeper deeper]
  | along => rfl

/-- The context after a move is that of the longer trail, and it is no deeper than it may be. -/
theorem After.trail (isMost : start.maxDepth = .int most) {trail : Trail}
    (after : (trail.context start depth).After move below) :
    below = Trail.context (move :: trail) start depth ∧
      (move.levels = 0 ∨ depth + Trail.levels (move :: trail) ≤ most) := by
  have isDepth : (trail.context start depth).currentDepth = .int (depth + trail.levels) := rfl
  have longer : depth + (Trail.levels (move :: trail) : Int) = depth + trail.levels + move.levels := by
    rw [Trail.levels_cons]
    omega
  have deeperBy : ∀ {lower}, (trail.context start depth).deeper = .ok (some lower) →
      lower = { trail.context start depth with currentDepth := .int (depth + trail.levels + 1) } ∧
        depth + trail.levels + 1 ≤ most := by
    intro lower deeper
    rw [deeper_of_int isDepth isMost] at deeper
    split at deeper
    · cases deeper
    · cases deeper
      exact ⟨rfl, by omega⟩
  unfold Trail.context at deeperBy ⊢
  rw [longer]
  cases after with
  | field name deeper =>
    obtain ⟨rfl, room⟩ := deeperBy deeper
    exact ⟨rfl, .inr room⟩
  | down deeper =>
    obtain ⟨rfl, room⟩ := deeperBy deeper
    exact ⟨rfl, .inr room⟩
  | along => exact ⟨by rw [Move.levels, Int.natCast_zero, Int.add_zero]; rfl, .inl rfl⟩

end Context

/-! ### Walks -/

namespace Schema

/-- Moves lead from a schema to a node, on the way into it or into what a lazy node stands for. -/
inductive Walks (definitions : Definitions) (schema : Schema) : Trail → Schema → Prop
  | start : Walks definitions schema [] schema
  | move {trail : Trail} {node next : Schema} {move : Move}
      (walks : Walks definitions schema trail node) (moves : node.Moves move next) :
      Walks definitions schema (move :: trail) next
  | enter {trail : Trail} {node target : Schema} (walks : Walks definitions schema trail node)
      (kind : node.kind = .lazy) (found : node.resolve definitions = .ok target) :
      Walks definitions schema (.down :: trail) target

variable {definitions : Definitions} {schema middle node : Schema} {trail further : Trail}

theorem Walks.append (walks : schema.Walks definitions trail middle)
    (goesOn : middle.Walks definitions further node) :
    schema.Walks definitions (further ++ trail) node := by
  induction goesOn with
  | start => exact walks
  | move _ moves hypothesis => exact .move hypothesis moves
  | enter _ kind found hypothesis => exact .enter hypothesis kind found

end Schema

end Specimen
