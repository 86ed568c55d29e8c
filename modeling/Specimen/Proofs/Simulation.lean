/-
**Generation keeps correspondences.**

A node keeps a correspondence if the children that it fills do and, for a lazy node, its definition:
that is `Correspondence.ofNode`, which looks at every kind of node once. The rest is induction, on
the schema and on the lazy nodes that may still be passed.
-/

import Specimen.Proofs.Congruence
import Specimen.Proofs.Runs
import Specimen.Proofs.Trails

namespace Specimen

theorem Context.deeper_ordinary (context : Context) : Ordinary context.deeper := by
  refine (exhausted_ordinary context).bind fun exhausted => ?_
  split
  · exact .pure _
  · exact (descend_ordinary context).bind fun _ => .pure _

/-- A member of a mapped list is what a member of the list is mapped to. -/
theorem Draw.member_map {α β γ : Type} (members : List α) (change : α → β) (next : β → Run γ) :
    (member (members.map change) >>= next) = member members >>= fun found => next (change found) := by
  unfold member
  rw [List.length_map, bind_assoc, bind_assoc]
  refine congrArg (place members.length >>= ·) (funext fun index => ?_)
  rw [List.getElem?_map]
  cases members[index]? <;> rfl

namespace Make

/-- A union fills one of the schemas that are its options. -/
theorem union_eq (meaning : Schema → Make) (options : List Schema) (context : Context) :
    union (options.map meaning) context =
      (Draw.member options.attach >>= fun child => meaning child.1 context) := by
  have attached : options.map meaning = options.attach.map fun child => meaning child.1 :=
    List.attach_map_val.symm
  unfold union
  rw [attached, Draw.member_map]

/-! ### Containment -/

/-- The record of a fault that is contained. -/
def containedRecord (tag : String) (context : Context) : LogRecord :=
  ⟨.error, .generation, faultMessage tag context⟩

section Containment

variable {tag : String} {context : Context} {rule : Run Value} {session after : Session}

/-- What the rule makes is the value of the node. -/
theorem filled_ok {value : Value} (ended : rule session = (.ok value, after)) :
    filled tag context rule session = (.ok value, after) := by
  have caught : Run.caught rule session = (.ok (.ok value), after) := by
    rw [Run.caught_apply, ended]
  rw [filled, attempt, Run.bind_apply, Run.bind_ok caught]
  rfl

theorem filled_pure (value : Value) (session : Session) :
    filled tag context (pure value) session = (.ok value, session) := filled_ok rfl

/-- A node is filled with what follows the first part of its rule. -/
theorem filled_bind {α : Type} {action : Run α} {value : α}
    (ended : action session = (.ok value, after)) (next : α → Run Value) :
    filled tag context (action >>= next) session = filled tag context (next value) after := by
  have caught : Run.caught (action >>= next) session = Run.caught (next value) after := by
    rw [Run.caught_apply, Run.caught_apply, Run.bind_ok ended]
  rw [filled, attempt, Run.bind_apply, Run.bind_apply, caught, filled, attempt, Run.bind_apply,
    Run.bind_apply]

/-- An unknown kind breaks the node off. -/
theorem filled_unknown {unknown : String}
    (ended : rule session = (.error (.unknownType unknown), after)) :
    filled tag context rule session = (.error (.unknownType unknown), after) := by
  have caught : Run.caught rule session = (.ok (.error (.unknownType unknown)), after) := by
    rw [Run.caught_apply, ended]
  rw [filled, attempt, Run.bind_apply, Run.bind_ok caught]
  rfl

/-- What ends in a value or with an unknown kind is not changed. -/
theorem filled_eq {result : Except Fault Value} (ended : rule session = (result, after))
    (unknown : ∀ fault, result = .error fault → fault.isUnknownType = true) :
    filled tag context rule session = (result, after) := by
  cases result with
  | ok value => exact filled_ok ended
  | error fault =>
    cases fault with
    | unknownType kind => exact filled_unknown ended
    | _ => cases unknown _ rfl

/-- A changed value of a run that fails with unknown kinds at most. -/
theorem filled_map {α : Type} {action : Run α} {change : α → Value} {result : Except Fault α}
    (ended : action session = (result, after))
    (unknown : ∀ fault, result = .error fault → fault.isUnknownType = true) :
    filled tag context (action >>= fun value => pure (change value)) session =
      (result.map change, after) := by
  refine filled_eq (by rw [Run.bind_pure_apply, ended]) fun fault failed => ?_
  cases result with
  | ok value => cases failed
  | error other =>
    cases failed
    exact unknown fault rfl

/-- Any other fault leaves the node absent, and there is a record of it. -/
theorem filled_contained {fault : Fault} (ordinary : fault.isUnknownType = false)
    (ended : rule session = (.error fault, after)) :
    filled tag context rule session =
      (.ok .absent, { after with log := containedRecord tag context :: after.log }) := by
  have caught : Run.caught rule session = (.ok (.error fault), after) := by
    rw [Run.caught_apply, ended]
  rw [filled, attempt, Run.bind_apply, Run.bind_ok caught]
  cases fault with
  | unknownType unknown => cases ordinary
  | _ => rfl

/-- No other fault than an unknown kind gets through. -/
theorem fault_of_filled {fault : Fault} (ended : filled tag context rule session = (.error fault, after)) :
    fault.isUnknownType = true := by
  rcases made : rule session with ⟨failed | value, reached⟩
  · cases unknown : failed.isUnknownType with
    | false =>
      rw [filled_contained unknown made] at ended
      cases ended
    | true =>
      cases failed with
      | unknownType kind =>
        rw [filled_unknown made] at ended
        cases ended
        rfl
      | _ => cases unknown
  · rw [filled_ok made] at ended
    cases ended

theorem fault_of_unfilled {fault : Fault}
    (ended : unfilled tag context session = (.error fault, after)) :
    fault.isUnknownType = true := by
  unfold unfilled withoutRule at ended
  split at ended
  · cases ended
    rfl
  · cases ended

end Containment

/-- What filling a node is: its rule with faults contained, or the outcome of having no rule. -/
theorem ofNode_eq (environment : Environment) (lower : Schema → Make) (schema : Schema)
    (parts : Parts Make) (context : Context) :
    ofNode environment lower schema parts context =
      match rule? environment lower schema parts context with
      | some rule => filled schema.tag context rule
      | none => unfilled schema.tag context := by
  unfold ofNode outcomeOf
  cases rule? environment lower schema parts context <;> rfl

/-- Nothing but an unknown kind breaks a node off. -/
theorem fault_of_ofNode {environment : Environment} {lower : Schema → Make} {schema : Schema}
    {parts : Parts Make} {context : Context} {session after : Session} {fault : Fault}
    (ended : ofNode environment lower schema parts context session = (.error fault, after)) :
    fault.isUnknownType = true := by
  rw [ofNode_eq] at ended
  split at ended
  · exact fault_of_filled ended
  · exact fault_of_unfilled ended

end Make

/-- With a bound on lazy nodes, a sample is made by the rule of its node, from samples of the
children with the same bound. -/
theorem generateWithin_eq (environment : Environment) (passes : Nat) (schema : Schema) :
    generateWithin environment passes schema =
      Make.ofNode environment (lowerWithin environment passes) schema
        (schema.parts (generateWithin environment passes)) := by
  cases passes with
  | zero | succ => exact Schema.fold_eq _ schema

/-- Nothing but an unknown kind breaks generation off, with any number of passes. -/
theorem generateWithin_failsWith (environment : Environment) (passes : Nat) (schema : Schema)
    (context : Context) : (generateWithin environment passes schema context).FailsWith
      fun fault => fault.isUnknownType = true := by
  rw [generateWithin_eq]
  exact fun _ _ _ => Make.fault_of_ofNode

/-- Nothing but an unknown kind breaks generation off. -/
theorem fault_of_generate {environment : Environment} {schema : Schema} {context : Context}
    {session after : Session} {fault : Fault}
    (ended : generate environment schema context session = (.error fault, after)) :
    fault.isUnknownType = true :=
  generateWithin_failsWith environment context.remaining schema context session fault after ended

theorem generate_failsWith (environment : Environment) (schema : Schema) (context : Context) :
    (generate environment schema context).FailsWith fun fault => fault.isUnknownType = true :=
  fun _ _ _ => fault_of_generate

namespace Correspondence

variable {first second : Environment} (link : Correspondence first second)
variable {schema : Schema} {context : Context}

/-! ### Guarded nodes -/

section Guarded

variable (suits : link.suits schema context) (controlled : schema.isControlled = true)
include suits controlled

/-- What is made one level deeper, if there is one. -/
theorem throughDeeper {α : Type} {empty : Run α} {make other : Context → Run α}
    (nothing : link.same empty empty)
    (each : ∀ below, context.deeper = .ok (some below) →
      link.same (make below) (other (link.twin below))) :
    link.same
      (do match ← Run.lift context.deeper with
          | none => empty
          | some below => make below)
      (do match ← Run.lift (link.twin context).deeper with
          | none => empty
          | some below => other below) := by
  rw [link.deeper suits controlled]
  have ordinary := context.deeper_ordinary
  cases found : context.deeper with
  | error fault =>
    rw [found] at ordinary
    exact link.throw ordinary
  | ok deeper =>
    cases deeper with
    | none => exact nothing
    | some below => exact each below found

theorem guarded (empty : Value) {make other : Make}
    (each : ∀ below, context.deeper = .ok (some below) →
      link.same (make below) (other (link.twin below))) :
    link.same (Make.guarded empty make context) (Make.guarded empty other (link.twin context)) := by
  rw [Make.guarded_eq, Make.guarded_eq]
  exact link.throughDeeper suits controlled (link.pureSame empty) each

end Guarded

/-! ### Nodes -/

section Nodes

variable {left right : Move → Schema → Make}
variable (children : ∀ move child below, schema.Moves move child → context.After move below →
  link.same (left move child below) (right move child (link.twin below)))
variable (suits : link.suits schema context)

include children suits

/-- Objects are filled alike if their fields are. -/
theorem object (kind : schema.kind = .object) :
    link.same (Make.object (schema.partsBy left).fields context)
      (Make.object (schema.partsBy right).fields (link.twin context)) := by
  have controlled : schema.isControlled = true := by rw [Schema.isControlled, kind]
  refine link.guarded suits controlled _ fun below deeper => ?_
  refine link.bindSame (Make.fillFields_same link fun field mem => ?_) fun _ => link.pureSame _
  exact children _ _ _ (.field kind mem) (.field _ deeper)

/-- Arrays are filled alike if their items are. -/
theorem array (kind : schema.kind = .array) :
    link.same (Make.array schema.checks (Make.ofChild (schema.partsBy left).inner) context)
      (Make.array schema.checks (Make.ofChild (schema.partsBy right).inner)
        (link.twin context)) := by
  have controlled : schema.isControlled = true := by rw [Schema.isControlled, kind]
  have isMove : schema.kind.innerMove = .down := by rw [kind]; rfl
  rw [Schema.partsBy_inner left isMove, Schema.partsBy_inner right isMove]
  refine link.guarded suits controlled _ fun below deeper => ?_
  have element := Make.ofChild_same link fun child found =>
    children .down child below (.element (.inl kind) found) (.down deeper)
  exact link.bindSame (Make.items_same link _ element) fun _ => link.pureSame _

/-- Sets are filled alike if their members are. -/
theorem set (kind : schema.kind = .set) :
    link.same (Make.set schema.checks (Make.ofChild (schema.partsBy left).inner) context)
      (Make.set schema.checks (Make.ofChild (schema.partsBy right).inner) (link.twin context)) := by
  have controlled : schema.isControlled = true := by rw [Schema.isControlled, kind]
  have isMove : schema.kind.innerMove = .down := by rw [kind]; rfl
  rw [Schema.partsBy_inner left isMove, Schema.partsBy_inner right isMove]
  refine link.guarded suits controlled _ fun below deeper => ?_
  have element := Make.ofChild_same link fun child found =>
    children .down child below (.element (.inr kind) found) (.down deeper)
  exact link.bindSame (Make.targetSize_same link _ _) fun target =>
    Make.gather_same link element target

/-- Maps and records are filled alike if their keys and values are, and as many are asked for. -/
theorem entries (kind : schema.kind = .map ∨ schema.kind = .record) (size : Context → Value)
    (sameSize : ∀ below, size (link.twin below) = size below) :
    link.same
      (Make.entries size (Make.ofChild (schema.partsBy left).key)
        (Make.ofChild (schema.partsBy left).value) context)
      (Make.entries size (Make.ofChild (schema.partsBy right).key)
        (Make.ofChild (schema.partsBy right).value) (link.twin context)) := by
  have controlled : schema.isControlled = true := by
    rcases kind with kind | kind <;> rw [Schema.isControlled, kind]
  refine link.guarded suits controlled _ fun below deeper => ?_
  have key := Make.ofChild_same link fun child found =>
    children .down child below (.key kind found) (.down deeper)
  have value := Make.ofChild_same link fun child found =>
    children .down child below (.value kind found) (.down deeper)
  rw [sameSize below]
  refine link.bindSame (link.lift (Make.entryTarget_ordinary _)) fun target => ?_
  refine link.bindSame (Make.fill_same link key value _ _ _) fun found => ?_
  split
  · exact link.bindSame (Make.logExhausted_same link _ _ _ _) fun _ => link.pureSame _
  · exact link.pureSame _

theorem restItems (kind : schema.kind = .tuple) :
    link.same (Make.restItems (schema.partsBy left).rest context)
      (Make.restItems (schema.partsBy right).rest (link.twin context)) := by
  cases found : schema.rest with
  | none =>
    simp only [Schema.partsBy, found]
    exact link.pureSame []
  | some child =>
    have controlled : schema.isControlled = true := by
      rw [Schema.isControlled, kind, found]
      rfl
    simp only [Schema.partsBy, found, Option.map_some, Make.restItems_eq]
    refine link.throughDeeper suits controlled (link.pureSame []) fun below deeper => ?_
    exact Make.items_same link [] (children .down child below (.rest kind found) (.down deeper))

/-- Tuples are filled alike if their items are, and what follows them. -/
theorem tuple (kind : schema.kind = .tuple) :
    link.same (Make.tuple (schema.partsBy left).items (schema.partsBy left).rest context)
      (Make.tuple (schema.partsBy right).items (schema.partsBy right).rest (link.twin context)) := by
  have items := Make.members_same link fun child mem =>
    children .along child context (.item (by rw [kind]; rfl) mem) .along
  refine link.bindSame items fun fixed => ?_
  exact link.bindSame (link.restItems children suits kind) fun _ => link.pureSame _

omit suits in
/-- Unions are filled alike, since the same option is picked. -/
theorem union (kind : schema.kind = .union ∨ schema.kind = .discriminatedUnion) :
    link.same (Make.union (schema.partsBy left).items context)
      (Make.union (schema.partsBy right).items (link.twin context)) := by
  have hasItems : schema.kind.hasItems = true := by
    rcases kind with kind | kind <;> rw [kind] <;> rfl
  have either : ∀ child : {child // child ∈ schema.items},
      link.same (left .along child.1 context) (right .along child.1 (link.twin context)) :=
    fun child => children .along child context (.item hasItems child.2) .along
  simp only [Schema.partsBy, Make.union_eq]
  exact link.bindSame (Draw.member_same link _) either

omit suits in
/-- Intersections are filled alike if their parts are. -/
theorem intersection (kind : schema.kind = .intersection) :
    link.same (Make.intersection (schema.partsBy left).items context)
      (Make.intersection (schema.partsBy right).items (link.twin context)) := by
  unfold Make.intersection
  simp only [Schema.partsBy, ← List.map_take]
  refine link.bindSame (Make.members_same link fun child mem => ?_) fun samples => ?_
  · exact children .along child context (.item (by rw [kind]; rfl) (List.mem_of_mem_take mem)) .along
  · split
    · exact link.pureSame _
    · exact link.throw rfl

omit suits in
theorem child (wrapper : schema.kind.isWrapper = true) :
    link.same (Make.ofChild (schema.partsBy left).inner context)
      (Make.ofChild (schema.partsBy right).inner (link.twin context)) := by
  have isMove := Kind.innerMove_along wrapper
  rw [Schema.partsBy_inner left isMove, Schema.partsBy_inner right isMove]
  exact Make.ofChild_same link fun child found =>
    children .along child context (.wrapped wrapper found) .along

omit suits in
theorem inner (wrapper : schema.kind.isWrapper = true) :
    link.same (Make.inner schema.tag (schema.partsBy left).inner context)
      (Make.inner schema.tag (schema.partsBy right).inner (link.twin context)) := by
  have isMove := Kind.innerMove_along wrapper
  rw [Schema.partsBy_inner left isMove, Schema.partsBy_inner right isMove]
  exact Make.inner_same link _ fun child found =>
    children .along child context (.wrapped wrapper found) .along

omit suits in
theorem promise (wrapper : schema.kind.isWrapper = true) :
    link.same (Make.promise (schema.partsBy left).inner context)
      (Make.promise (schema.partsBy right).inner (link.twin context)) :=
  link.bindSame (link.child children wrapper) fun _ =>
    link.bindSame link.fresh fun _ => link.pureSame _

omit suits children in
theorem fallbackValue (fallback : Fallback) :
    link.rules (first.fallbackValue fallback) (second.fallbackValue fallback) := by
  cases fallback with
  | value value =>
    simp only [Environment.fallbackValue]
    split
    · exact link.rule (link.pureSame _)
    · exact link.rule (link.copy value)
  | hook hook => exact link.bare hook

omit suits in
/-- Defaults are filled alike if the same one of the fallback and the wrapped node is picked. -/
theorem default (wrapper : schema.kind.isWrapper = true) :
    link.rules (Make.default first schema.traits.fallback (schema.partsBy left).inner context)
      (Make.default second schema.traits.fallback (schema.partsBy right).inner
        (link.twin context)) := by
  refine link.thenRuleSame (Draw.boolean_same link) fun falls => ?_
  split
  · split
    · exact link.fallbackValue _
    · exact link.rule (link.throw rfl)
  · exact link.rule (link.child children wrapper)

omit suits in
/-- Effects are alike if the functions of the caller are. -/
theorem effects (wrapper : schema.kind.isWrapper = true) :
    link.rules (Make.effects first schema.traits.effect (schema.partsBy left).inner context)
      (Make.effects second schema.traits.effect (schema.partsBy right).inner
        (link.twin context)) := by
  refine link.thenRuleSame (link.child children wrapper) fun made => ?_
  split
  · exact link.onValue _ made
  · exact link.rule (link.pureSame made)

omit children in
/-- Lazy nodes are filled alike if their definitions are. -/
theorem deferred {lower other : Schema → Make} (kind : schema.kind = .lazy)
    (definition : ∀ target below, schema.Follows first.definitions context target below →
      link.same (lower target below) (other target (link.twin below))) :
    link.same (Make.deferred lower (schema.resolve first.definitions) context)
      (Make.deferred other (schema.resolve second.definitions) (link.twin context)) := by
  have controlled : schema.isControlled = true := by rw [Schema.isControlled, kind]
  rw [link.setting.definitions]
  refine link.guarded suits controlled _ fun below deeper => ?_
  cases found : schema.resolve first.definitions with
  | error fault => exact link.unresolved found
  | ok target => exact definition target below ⟨kind, deeper, found⟩

/-! ### Rules -/

variable {lower other : Schema → Make}
variable (definition : ∀ target below, schema.Follows first.definitions context target below →
  link.same (lower target below) (other target (link.twin below)))

include definition

/-- The built-in rules of the two sides are related, or neither has one. -/
theorem builtin? :
    Option.Rel (fun make counterpart => link.rules (make context) (counterpart (link.twin context)))
      (Make.builtin? first lower schema (schema.partsBy left))
      (Make.builtin? second other schema (schema.partsBy right)) := by
  have choices := link.choices
  unfold Make.builtin?
  cases kind : schema.kind with
  | string => exact .some (TextSynthesis.make_rules link suits schema.checks)
  | number => exact .some (link.rule (Make.number_same link _ context))
  | bigint => exact .some (link.rule (Make.number_same link _ context))
  | boolean => exact .some (link.rule (Make.boolean_same link context))
  | date => exact .some (link.rule (Make.date_same link _ context))
  | object => exact .some (link.rule (link.object children suits kind))
  | array => exact .some (link.rule (link.array children suits kind))
  | set => exact .some (link.rule (link.set children suits kind))
  | map =>
    exact .some (link.rule (link.entries children suits (.inl kind) _
      fun below => (choices below).mapEntriesLength))
  | record =>
    exact .some (link.rule (link.entries children suits (.inr kind) _
      fun below => (choices below).recordKeysLength))
  | tuple => exact .some (link.rule (link.tuple children suits kind))
  | union => exact .some (link.rule (link.union children (.inl kind)))
  | discriminatedUnion => exact .some (link.rule (link.union children (.inr kind)))
  | intersection => exact .some (link.rule (link.intersection children kind))
  | enumeration => exact .some (link.rule (Make.oneOf_same link _ context))
  | nativeEnumeration => exact .some (link.rule (Make.oneOf_same link _ context))
  | literal => exact .some (link.rule (Make.constant_same link _ context))
  | optional => exact .some (link.rule (link.inner children (by rw [kind]; rfl)))
  | nullable => exact .some (link.rule (link.inner children (by rw [kind]; rfl)))
  | branded => exact .some (link.rule (link.inner children (by rw [kind]; rfl)))
  | default => exact .some (link.default children (by rw [kind]; rfl))
  | effects => exact .some (link.effects children (by rw [kind]; rfl))
  | function => exact .some (link.rule (Make.function_same link _ suits kind))
  | promise => exact .some (link.rule (link.promise children (by rw [kind]; rfl)))
  | lazy => exact .some (link.rule (link.deferred suits kind definition))
  | void => exact .some (link.rule (Make.constant_same link _ context))
  | undefined => exact .some (link.rule (Make.constant_same link _ context))
  | null => exact .some (link.rule (Make.constant_same link _ context))
  | nan => exact .some (link.rule (Make.nan_same link context))
  | any => exact .none
  | unknown => exact .none
  | other tag => exact .none

/-- The rules of the two sides are related, or neither has one. -/
theorem rule? :
    Option.Rel link.rules (Make.rule? first lower schema (schema.partsBy left) context)
      (Make.rule? second other schema (schema.partsBy right) (link.twin context)) := by
  unfold Make.rule?
  rw [(link.choices context).overrides]
  cases chosen : context.overrides.lookup schema.tag with
  | some hook => exact .some (link.override suits chosen)
  | none =>
    have builtin := link.builtin? children suits definition
    revert builtin
    generalize Make.builtin? first lower schema (schema.partsBy left) = made
    generalize Make.builtin? second other schema (schema.partsBy right) = counterpart
    rintro (related | _)
    · exact .some related
    · exact .none

/-- A node keeps the correspondence if the children that it moves to and its definition do. -/
theorem nodeByMoves :
    link.same (Make.ofNode first lower schema (schema.partsBy left) context)
      (Make.ofNode second other schema (schema.partsBy right) (link.twin context)) := by
  rw [Make.ofNode_eq, Make.ofNode_eq]
  have rule := link.rule? children suits definition
  revert rule
  generalize Make.rule? first lower schema (schema.partsBy left) context = made
  generalize Make.rule? second other schema (schema.partsBy right) (link.twin context) = counterpart
  rintro (related | _)
  · exact link.filled suits related
  · exact link.unfilled suits

end Nodes

/-- A node keeps the correspondence if the children that it fills and its definition do. -/
theorem ofNode {left right lower other : Schema → Make}
    (children : ∀ child below, schema.Fills context child below →
      link.same (left child below) (right child (link.twin below)))
    (suits : link.suits schema context)
    (definition : ∀ target below, schema.Follows first.definitions context target below →
      link.same (lower target below) (other target (link.twin below))) :
    link.same (Make.ofNode first lower schema (schema.parts left) context)
      (Make.ofNode second other schema (schema.parts right) (link.twin context)) := by
  have byMoves : ∀ move child below, schema.Moves move child → context.After move below →
      link.same ((fun _ => left) move child below) ((fun _ => right) move child (link.twin below)) :=
    fun _ child below moves after => children child below (moves.fills after)
  exact link.nodeByMoves byMoves suits definition

/-! ### Generating -/

/-- A fold over a schema keeps the correspondence if the lazy nodes in it do. -/
theorem fold {lower other : Schema → Make} {reached : Schema → Context → Prop}
    (definition : ∀ schema context, reached schema context →
      link.same (lower schema context) (other schema (link.twin context)))
    (follows : ∀ schema context target below, link.suits schema context →
      schema.Follows first.definitions context target below → reached target below) :
    ∀ schema context, link.suits schema context →
      link.same (Schema.fold (Make.ofNode first lower) schema context)
        (Schema.fold (Make.ofNode second other) schema (link.twin context)) := by
  intro schema
  induction schema using Schema.byParts with
  | step schema hypothesis =>
    intro context suits
    rw [Schema.fold_eq, Schema.fold_eq]
    refine link.ofNode (fun child below fills => ?_) suits fun target below followed => ?_
    · exact hypothesis child fills.mem_children below (link.fills suits fills)
    · exact definition target below (follows schema context target below suits followed)

/-- Generation keeps the correspondence, however many lazy nodes may be passed. -/
theorem generateWithin (passes : Nat) :
    ∀ schema context, link.suits schema context →
      link.same (Specimen.generateWithin first passes schema context)
        (Specimen.generateWithin second passes schema (link.twin context)) := by
  induction passes with
  | zero =>
    refine link.fold (fun _ _ (_ : True) => ?_) fun _ _ _ _ _ _ => True.intro
    exact link.throw rfl
  | succ passes hypothesis =>
    exact link.fold hypothesis fun schema context target below suits followed =>
      link.follows suits followed

/-- Generation keeps the correspondence if the contexts of the two sides have equal depths. -/
theorem generate (suits : link.suits schema context)
    (depth : (link.twin context).remaining = context.remaining) :
    link.same (Specimen.generate first schema context)
      (Specimen.generate second schema (link.twin context)) := by
  unfold Specimen.generate
  rw [depth]
  exact link.generateWithin _ schema context suits

end Correspondence

end Specimen
