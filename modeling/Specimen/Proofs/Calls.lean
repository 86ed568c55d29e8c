/-
**Which nodes filling a node fills.**

Filling a node fills some of its children, in the same context or one level deeper, and a lazy node
fills its definition. `Schema.Fills` and `Schema.Follows` are these two kinds of calls, with the
contexts that they are made in. `Context.deeper` is the single place where depth is looked at: the
context one level deeper, or nothing on the deepest level.
-/

import Specimen.Generation

namespace Specimen

/-- What is found under a name in a list of entries is one of them. -/
theorem mem_of_lookup {Found : Type} {entries : List (String × Found)} {name : String} {found : Found}
    (listed : entries.lookup name = some found) : (name, found) ∈ entries := by
  rw [List.lookup_eq_some_iff] at listed
  obtain ⟨before, after, parts, _⟩ := listed
  exact parts ▸ List.mem_append_right before List.mem_cons_self

/-! ### Depth -/

/-- The context one level deeper, or nothing if the walk is as deep as it may go. -/
def Context.deeper (context : Context) : Except Fault (Option Context) := do
  if ← context.exhausted then pure none else pure (some (← context.descend))

/-- The context one level deeper differs in nothing but its depth. -/
theorem Context.eq_of_deeper {context below : Context}
    (deeper : context.deeper = .ok (some below)) :
    below = { context with currentDepth := below.currentDepth } := by
  unfold Context.deeper Context.descend at deeper
  cases reached : context.exhausted with
  | error fault =>
    rw [reached] at deeper
    cases deeper
  | ok exhausted =>
    rw [reached] at deeper
    cases exhausted with
    | true => cases deeper
    | false =>
      cases increased : context.currentDepth.increment with
      | error fault =>
        rw [increased] at deeper
        cases deeper
      | ok depth =>
        rw [increased] at deeper
        cases deeper
        rfl

/-- A change that leaves the depths alone can as well be made one level deeper. -/
theorem Context.deeper_change {context : Context} {change : Context → Context}
    (current : (change context).currentDepth = context.currentDepth)
    (most : (change context).maxDepth = context.maxDepth)
    (keeps : ∀ depth, change { context with currentDepth := depth } =
      { change context with currentDepth := depth }) :
    (change context).deeper = context.deeper.map (Option.map change) := by
  have exhausted : (change context).exhausted = context.exhausted := by
    rw [Context.exhausted, current, most]
    rfl
  have descended : (change context).descend = context.descend.map change := by
    rw [Context.descend, Context.descend, current]
    cases context.currentDepth.increment with
    | error fault => rfl
    | ok depth => exact congrArg Except.ok (keeps depth).symm
  rw [Context.deeper, Context.deeper, exhausted, descended]
  cases context.exhausted with
  | error fault => rfl
  | ok exhausted =>
    cases exhausted with
    | true => rfl
    | false => cases context.descend <;> rfl

/-- Is the depth looked at when the node is filled? -/
def Schema.isControlled (schema : Schema) : Bool :=
  match schema.kind with
  | .object | .array | .set | .map | .record | .lazy => true
  | .tuple => schema.rest.isSome
  | _ => false

namespace Make

/-- A guarded making looks at the depth and goes one level deeper. -/
theorem guarded_eq (empty : Value) (make : Make) (context : Context) :
    guarded empty make context = (do
      match ← Run.lift context.deeper with
      | none => pure empty
      | some below => make below) := by
  unfold guarded Context.deeper
  cases context.exhausted with
  | error fault => rfl
  | ok exhausted =>
    cases exhausted with
    | true => rfl
    | false => cases context.descend <;> rfl

/-- What follows the items of a tuple is guarded like an array. -/
theorem restItems_eq (element : Make) (context : Context) :
    restItems (some element) context = (do
      match ← Run.lift context.deeper with
      | none => pure []
      | some below => items [] element below) := by
  unfold restItems Context.deeper
  cases context.exhausted with
  | error fault => rfl
  | ok exhausted =>
    cases exhausted with
    | true => rfl
    | false => cases context.descend <;> rfl

end Make

/-! ### Calls -/

/-- Are the items of a node of this kind filled in its own context? -/
def Kind.hasItems : Kind → Bool
  | .tuple | .union | .discriminatedUnion | .intersection => true
  | _ => false

/-- Is what a node of this kind wraps filled in its own context? -/
def Kind.isWrapper : Kind → Bool
  | .optional | .nullable | .branded | .default | .effects | .promise => true
  | _ => false

namespace Schema

/-- Filling a node in a context fills a child in a context. -/
inductive Fills (schema : Schema) (context : Context) : Schema → Context → Prop
  | field {name : String} {child : Schema} {below : Context} (kind : schema.kind = .object)
      (deeper : context.deeper = .ok (some below))
      (mem : (name, child) ∈ schema.fields.getD []) :
      Fills schema context child (below.forKey (.text name))
  | element {child : Schema} {below : Context} (kind : schema.kind = .array ∨ schema.kind = .set)
      (deeper : context.deeper = .ok (some below)) (found : schema.inner = some child) :
      Fills schema context child below
  | key {child : Schema} {below : Context} (kind : schema.kind = .map ∨ schema.kind = .record)
      (deeper : context.deeper = .ok (some below)) (found : schema.key = some child) :
      Fills schema context child below
  | value {child : Schema} {below : Context} (kind : schema.kind = .map ∨ schema.kind = .record)
      (deeper : context.deeper = .ok (some below)) (found : schema.value = some child) :
      Fills schema context child below
  | rest {child : Schema} {below : Context} (kind : schema.kind = .tuple)
      (deeper : context.deeper = .ok (some below)) (found : schema.rest = some child) :
      Fills schema context child below
  | item {child : Schema} (kind : schema.kind.hasItems) (mem : child ∈ schema.items) :
      Fills schema context child context
  | wrapped {child : Schema} (kind : schema.kind.isWrapper) (found : schema.inner = some child) :
      Fills schema context child context

/-- Filling a lazy node in a context fills a definition in a context. -/
structure Follows (definitions : Definitions) (schema : Schema) (context : Context)
    (target : Schema) (below : Context) : Prop where
  kind : schema.kind = .lazy
  deeper : context.deeper = .ok (some below)
  found : schema.resolve definitions = .ok target

/-- What a lazy node stands for is what its reference names. -/
theorem resolve_found {definitions : Definitions} {schema target : Schema}
    (found : schema.resolve definitions = .ok target) :
    ∃ name, schema.traits.reference = some name ∧ definitions.lookup name = some (.ok target) := by
  unfold resolve at found
  split at found
  · cases found
  · next name reference =>
    split at found
    · next definition listed => exact ⟨name, reference, found ▸ listed⟩
    · cases found

/-- What a lazy node stands for is one of the definitions. -/
theorem resolve_mem {definitions : Definitions} {schema target : Schema}
    (found : schema.resolve definitions = .ok target) :
    ∃ name, (name, .ok target) ∈ definitions := by
  obtain ⟨name, _, listed⟩ := resolve_found found
  exact ⟨name, mem_of_lookup listed⟩

/-- A child that is filled is a child. -/
theorem Fills.mem_children {schema child : Schema} {context below : Context}
    (fills : Fills schema context child below) : child ∈ schema.children := by
  simp only [children, List.mem_append, Option.mem_toList, List.mem_map]
  cases fills with
  | field kind deeper mem => exact .inl (.inl (.inl (.inl (.inl ⟨_, mem, rfl⟩))))
  | element kind deeper found => exact .inl (.inl (.inl (.inl (.inr found))))
  | key kind deeper found => exact .inl (.inl (.inl (.inr found)))
  | value kind deeper found => exact .inl (.inl (.inr found))
  | rest kind deeper found => exact .inl (.inr found)
  | item kind mem => exact .inr mem
  | wrapped kind found => exact .inl (.inl (.inl (.inl (.inr found))))

/-- The context of a child differs in nothing but its depth and the field. -/
theorem Fills.context_eq {schema child : Schema} {context below : Context}
    (fills : schema.Fills context child below) :
    ∃ depth name, below = { context with currentDepth := depth, keyName := name } := by
  cases fills with
  | field kind deeper mem =>
    rw [Context.eq_of_deeper deeper]
    exact ⟨_, _, rfl⟩
  | element kind deeper found | key kind deeper found | value kind deeper found
  | rest kind deeper found =>
    exact ⟨_, context.keyName, Context.eq_of_deeper deeper⟩
  | item kind mem | wrapped kind found => exact ⟨context.currentDepth, context.keyName, rfl⟩

/-- The context of a definition differs in nothing but its depth. -/
theorem Follows.context_eq {definitions : Definitions} {schema target : Schema}
    {context below : Context} (follows : schema.Follows definitions context target below) :
    ∃ depth, below = { context with currentDepth := depth } :=
  ⟨_, Context.eq_of_deeper follows.deeper⟩

end Schema

/-- What is not to be told of unknown kinds stays so further down. -/
theorem Context.lenient_fills {schema child : Schema} {context below : Context}
    (lenient : context.throwOnUnknownType.isTruthy = false)
    (fills : schema.Fills context child below) : below.throwOnUnknownType.isTruthy = false := by
  obtain ⟨depth, name, rfl⟩ := fills.context_eq
  exact lenient

theorem Context.lenient_follows {environment : Environment} {schema target : Schema}
    {context below : Context} (lenient : context.throwOnUnknownType.isTruthy = false)
    (follows : schema.Follows environment.definitions context target below) :
    below.throwOnUnknownType.isTruthy = false := by
  obtain ⟨depth, rfl⟩ := follows.context_eq
  exact lenient

end Specimen
