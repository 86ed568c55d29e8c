/-
**What nodes are filled with.**

Whatever a property of values is, filling a node yields values with the property if its rule does: a
fault on the way leaves the absent value, and on the deepest level there is the empty one. Dates,
and texts that no function of the caller fills, are plain.
-/

import Specimen.Proofs.Collections
import Specimen.Proofs.Depth

namespace Specimen

open Run (Yields Gives)

/-! ### Leaves -/

/-- Moving a date gives a date. -/
theorem Value.isPlain_moved {backwards : Bool} {span : Int} {date result : Value}
    (moved : date.moved backwards span = .ok result) : result.isPlain = true := by
  unfold Value.moved at moved
  split at moved
  · split at moved
    · cases moved
      rfl
    · cases moved
  · split at moved
    · cases moved
      rfl
    · cases moved
  · cases moved

namespace Draw

theorem between_plain (low high : Value) : Yields (between low high) (·.isPlain = true) :=
  Yields.last fun _ => Yields.last fun _ => Yields.lift fun _ => Value.isPlain_moved

theorem soon_plain (reference days : Value) : Yields (soon reference days) (·.isPlain = true) :=
  Yields.last fun _ => Yields.last fun _ => Yields.lift fun _ => Value.isPlain_moved

theorem recent_plain (reference days : Value) : Yields (recent reference days) (·.isPlain = true) :=
  Yields.last fun _ => Yields.last fun _ => Yields.lift fun _ => Value.isPlain_moved

end Draw

namespace TextSynthesis

/-- The function of the caller for a field is one of those in the map of the context. -/
theorem callersFunction_mem {context : Context} {hook : Hook}
    (found : callersFunction? context = .ok (some hook)) :
    ∃ name, (name, hook) ∈ context.stringMap := by
  unfold callersFunction? at found
  split at found
  · cases found
  · split at found
    · cases found
    · split at found
      · next name key =>
        have chosen : context.stringMap.lookup name = some hook := Except.ok.inj found
        exact ⟨name, mem_of_lookup chosen⟩
      · cases found

/-- A text is a text, or what a function of the caller makes for the field. -/
theorem make_yields {property : Value → Prop} {environment : Environment} {context : Context}
    (checks : List Check) (ofText : ∀ text, property (.text text))
    (ofCaller : ∀ entry ∈ context.stringMap, Yields (environment.invokeValue entry.2 .bare) property) :
    Yields (make environment checks context) property := by
  unfold make
  simp only
  split
  · exact Yields.last fun _ => Yields.pure (ofText _)
  · unfold unpatterned
    refine Yields.bind (Yields.lift fun chosen found => found) fun chosen found => ?_
    split
    · obtain ⟨name, mem⟩ := callersFunction_mem found
      exact ofCaller _ mem
    · exact Yields.last fun _ => Yields.last fun _ => Yields.last fun _ => Yields.pure (ofText _)

end TextSynthesis

namespace Make

/-- A date is a date, or nothing. -/
theorem date_plain (environment : Environment) (checks : List Check) (context : Context) :
    Yields (date environment checks context) (·.isPlain = true) := by
  refine Yields.last fun bounds => ?_
  split
  · refine Yields.last fun wrong => ?_
    split
    · exact Yields.last fun _ => Yields.pure rfl
    · exact Draw.between_plain _ _
  · exact Draw.soon_plain _ _
  · exact Draw.recent_plain _ _
  · exact Draw.recent_plain _ _

/-! ### Rules -/

/-- A guarded rule makes the empty value, or what it makes one level deeper. -/
theorem guarded_yields {property : Value → Prop} {empty : Value} {make : Make} {context : Context}
    (ofEmpty : property empty) (inside : ∀ below, context.deeper = .ok (some below) →
      Yields (make below) property) :
    Yields (guarded empty make context) property := by
  rw [guarded_eq]
  refine Yields.bind (Yields.lift fun deeper found => found) fun deeper found => ?_
  cases deeper with
  | none => exact Yields.pure ofEmpty
  | some below => exact inside below found

theorem ofChild_yields {property : Value → Prop} {make : Schema → Make} {child : Option Schema}
    {context : Context} (each : ∀ schema, child = some schema →
      Yields (make schema context) property) :
    Yields (ofChild (child.map make) context) property := by
  cases child with
  | none => exact Yields.throw _
  | some schema => exact each schema rfl

/-- A wrapper yields what it wraps does. -/
theorem inner_yields {property : Value → Prop} {tag : String} {make : Schema → Make}
    {child : Option Schema} {context : Context} (each : ∀ schema, child = some schema →
      Yields (make schema context) property) :
    Yields (inner tag (child.map make) context) property := by
  cases child with
  | none => exact Yields.throw _
  | some schema => exact each schema rfl

/-- Faults are contained as the absent value, so what is filled has the property if the absent value
has it. -/
theorem filled_yields {property : Value → Prop} {tag : String} {context : Context}
    {rule : Run Value} (absent : property .absent) (made : Yields rule property) :
    Yields (filled tag context rule) property := by
  have outcome : Yields (attempt tag context rule) fun outcome => property outcome.value := by
    refine Yields.bind (Yields.caught made) fun result holds => ?_
    cases result with
    | ok value => exact Yields.pure (holds value rfl)
    | error fault =>
      cases fault with
      | unknownType tag => exact Yields.throw _
      | _ => exact Yields.last fun _ => Yields.pure absent
  exact Yields.bind outcome fun _ holds => Yields.pure holds

theorem unfilled_yields {property : Value → Prop} {tag : String} {context : Context}
    (absent : property .absent) : Yields (unfilled tag context) property := by
  have outcome : Yields (withoutRule tag context) fun outcome => property outcome.value := by
    unfold withoutRule
    split
    · exact Yields.throw _
    · exact Yields.last fun _ => Yields.pure absent
  exact Yields.bind outcome fun _ holds => Yields.pure holds

/-- A node that no function of the caller fills yields what its built-in rule yields, or nothing. -/
theorem ofNode_yields {property : Value → Prop} {environment : Environment} {lower : Schema → Make}
    {schema : Schema} {parts : Parts Make} {context : Context} (absent : property .absent)
    (plain : context.overrides = []) (builtin : ∀ rule,
      builtin? environment lower schema parts = some rule → Yields (rule context) property) :
    Yields (ofNode environment lower schema parts context) property := by
  rw [ofNode_eq]
  split
  · next rule found =>
    unfold rule? at found
    rw [plain, List.lookup_nil] at found
    obtain ⟨make, isBuiltin, rfl⟩ := Option.map_eq_some_iff.1 found
    exact filled_yields absent (builtin make isBuiltin)
  · exact unfilled_yields absent

/-- A node gives what its rule gives. -/
theorem filled_gives {property : Value → Prop} {tag : String} {context : Context}
    {rule : Run Value} (made : Gives rule property) : Gives (filled tag context rule) property := by
  intro session
  obtain ⟨value, after, ended, holds⟩ := made session
  exact ⟨value, after, filled_ok ended, holds⟩

section Gives

variable {property : Value → Prop} {environment : Environment} {lower : Schema → Make}
variable {schema : Schema} {parts : Parts Make} {context : Context} {rule : Make}

/-- A node whose tag the caller has no function for is filled by its built-in rule. -/
theorem ofNode_of_lookup (own : context.overrides.lookup schema.tag = none)
    (builtin : builtin? environment lower schema parts = some rule) :
    ofNode environment lower schema parts context = filled schema.tag context (rule context) := by
  have chosen : rule? environment lower schema parts context = some (rule context) := by
    rw [rule?, own, builtin]
    rfl
  rw [ofNode_eq, chosen]

variable (plain : context.overrides = [])
variable (builtin : builtin? environment lower schema parts = some rule)

include plain builtin

/-- A node that no function of the caller fills is filled by its built-in rule. -/
theorem ofNode_of_builtin :
    ofNode environment lower schema parts context = filled schema.tag context (rule context) :=
  ofNode_of_lookup (by rw [plain, List.lookup_nil]) builtin

/-- A node that no function of the caller fills gives what its built-in rule gives. -/
theorem ofNode_gives (made : Gives (rule context) property) :
    Gives (ofNode environment lower schema parts context) property := by
  rw [ofNode_of_builtin plain builtin]
  exact filled_gives made

/-- A node whose built-in rule fails is absent. -/
theorem ofNode_gives_absent {fault : Fault} (ordinary : fault.isUnknownType = false)
    (fails : ∀ session, rule context session = (.error fault, session)) (absent : property .absent) :
    Gives (ofNode environment lower schema parts context) property := by
  rw [ofNode_of_builtin plain builtin]
  exact fun session => ⟨_, _, filled_contained ordinary (fails session), absent⟩

end Gives

end Make

section Builtin

variable {property : Value → Prop} {environment : Environment} {schema : Schema}
variable {context : Context} {rule : Make}

/-- A sample is made by the built-in rule of its node, if the rule does not depend on the children
of the node and the caller has no function for its tag. -/
theorem generate_of_lookup (own : context.overrides.lookup schema.tag = none)
    (builtin : ∀ lower parts, Make.builtin? environment lower schema parts = some rule) :
    generate environment schema context = Make.filled schema.tag context (rule context) := by
  have node : ∃ lower parts, generate environment schema context =
      Make.ofNode environment lower schema parts context :=
    ⟨_, _, congrFun (generateWithin_eq environment context.remaining schema) context⟩
  obtain ⟨lower, parts, same⟩ := node
  rw [same]
  exact Make.ofNode_of_lookup own (builtin lower parts)

/-- A sample of a node whose tag the caller has no function for is made by the built-in rule, given
how samples of the children are made. -/
theorem generate_of_levels {levels : Nat} (has : context.HasLevels levels)
    (own : context.overrides.lookup schema.tag = none)
    (builtin : Make.builtin? environment (generate environment) schema
      (schema.parts (generate environment)) = some rule) :
    generate environment schema context = Make.filled schema.tag context (rule context) := by
  rw [generate_eq has]
  exact Make.ofNode_of_lookup own builtin

/-- If the rule looks at the depth and there is a deeper level, the sample is made there. -/
theorem generate_of_deeper {levels : Nat} {below : Context} {empty : Value} {make : Make}
    (has : context.HasLevels levels) (deeper : context.deeper = .ok (some below))
    (own : context.overrides.lookup schema.tag = none)
    (builtin : Make.builtin? environment (generate environment) schema
      (schema.parts (generate environment)) = some (Make.guarded empty make)) :
    generate environment schema context = Make.filled schema.tag context (make below) := by
  rw [generate_of_levels has own builtin, Make.guarded_eq, deeper, Run.lift_ok, pure_bind]

/-- A sample is what the built-in rule of its node gives, if the rule does not depend on the
children of the node and the caller has no function for its tag. -/
theorem generate_gives_of_lookup (own : context.overrides.lookup schema.tag = none)
    (builtin : ∀ lower parts, Make.builtin? environment lower schema parts = some rule)
    (made : Gives (rule context) property) :
    Gives (generate environment schema context) property := by
  rw [generate_of_lookup own builtin]
  exact Make.filled_gives made

/-- The same, if no function of the caller fills nodes of any tag. -/
theorem generate_gives_of_builtin (plain : context.overrides = [])
    (builtin : ∀ lower parts, Make.builtin? environment lower schema parts = some rule)
    (made : Gives (rule context) property) :
    Gives (generate environment schema context) property :=
  generate_gives_of_lookup (by rw [plain, List.lookup_nil]) builtin made

end Builtin

/-! ### Graded properties -/

/-- A property that values have at a number of levels: plain values at any, and promises, tuples and
merged values where their parts have it. -/
structure Value.IsGraded (property : Nat → Value → Prop) : Prop where
  mono : ∀ {fewer levels value}, fewer ≤ levels → property fewer value → property levels value
  plain : ∀ {levels value}, value.isPlain = true → property levels value
  promise : ∀ {levels settled} identity, property levels settled →
    property levels (.promise identity settled)
  tuple : ∀ {levels items}, (∀ item ∈ items, property levels item) → property levels (.tuple items)
  merge : ∀ {levels left right}, property levels left → property levels right →
    property levels (Make.merge left right)

/-- Lists, sets and dictionaries have the property one level above their parts, and empty ones at
any number of levels. -/
structure Value.Gathers (property : Nat → Value → Prop) : Prop where
  noItems : property 0 (.list [])
  noMembers : property 0 (.set [])
  noEntries : property 0 (.dictionary [])
  list : ∀ {levels items}, (∀ item ∈ items, property levels item) →
    property (levels + 1) (.list items)
  set : ∀ {levels members}, (∀ member ∈ members, property levels member) →
    property (levels + 1) (.set members)
  dictionary : ∀ {levels entries},
    (∀ entry ∈ entries, property levels entry.1 ∧ property levels entry.2) →
    property (levels + 1) (.dictionary entries)

/-- Are nodes of this kind filled with lists, sets or dictionaries? -/
def Kind.isContainer : Kind → Bool
  | .object | .array | .set | .map | .record => true
  | _ => false

/-- The values that the node supplies as a whole have a property. -/
structure Schema.Supplies (environment : Environment) (property : Value → Prop) (schema : Schema) :
    Prop where
  number : schema.kind = .number ∨ schema.kind = .bigint →
    ∀ context, Yields (Make.number schema.checks context) property
  literal : schema.kind = .literal → property schema.traits.literal
  values : schema.kind = .enumeration ∨ schema.kind = .nativeEnumeration →
    ∀ value ∈ schema.traits.values, property value
  fallback : schema.kind = .default → ∀ fallback, schema.traits.fallback = some fallback →
    Yields (environment.fallbackValue fallback) property
  effect : schema.kind = .effects → ∀ hook, schema.traits.effect = some hook →
    ∀ value, Yields (environment.invokeValue hook (.onValue value)) property

/-- The caller fills no nodes of a tag, and text fields with values that have a property. -/
structure Context.Supplies (environment : Environment) (property : Value → Prop)
    (context : Context) : Prop where
  overrides : context.overrides = []
  stringMap : ∀ entry ∈ context.stringMap, Yields (environment.invokeValue entry.2 .bare) property

namespace Make

section Nodes

variable {property : Nat → Value → Prop} (graded : Value.IsGraded property)
variable {make : Schema → Make} {schema : Schema} {context : Context} {levels : Nat}
variable (has : context.HasLevels levels)
variable (children : ∀ child below fewer, schema.Fills context child below →
  below.HasLevels fewer → Yields (make child below) (property fewer))

section Containers

variable (gathers : Value.Gathers property)

include graded has children gathers

/-- An object is one level above its fields. -/
theorem object_graded (kind : schema.kind = .object) :
    Yields (object (schema.parts make).fields context) (property levels) := by
  have none := graded.mono (Nat.zero_le levels) gathers.noEntries
  refine guarded_yields none fun below deeper => ?_
  obtain ⟨fewer, rfl, hasFewer⟩ := has.of_deeper deeper
  have each : ∀ field ∈ (schema.parts make).fields,
      Yields (field.2 (below.forKey (.text field.1))) (property fewer) := by
    intro field mem
    obtain ⟨described, listed, rfl⟩ := List.mem_map.1 mem
    exact children _ _ fewer (.field kind deeper listed) hasFewer
  refine Yields.bind (fillFields_yields each) fun entries related => Yields.pure ?_
  refine gathers.dictionary fun entry mem => ?_
  obtain ⟨field, _, named, holds⟩ := exists_of_forall₂ related entry mem
  rw [named]
  exact ⟨graded.plain rfl, holds⟩

omit graded has gathers in
theorem element_graded (kind : schema.kind = .array ∨ schema.kind = .set) {below : Context}
    {fewer : Nat} (deeper : context.deeper = .ok (some below)) (hasFewer : below.HasLevels fewer) :
    Yields (ofChild (schema.parts make).inner below) (property fewer) :=
  ofChild_yields fun child found => children child below fewer (.element kind deeper found) hasFewer

/-- An array is one level above its items. -/
theorem array_graded (kind : schema.kind = .array) :
    Yields (array schema.checks (ofChild (schema.parts make).inner) context) (property levels) := by
  have none := graded.mono (Nat.zero_le levels) gathers.noItems
  refine guarded_yields none fun below deeper => ?_
  obtain ⟨fewer, rfl, hasFewer⟩ := has.of_deeper deeper
  have element := element_graded children (.inl kind) deeper hasFewer
  exact Yields.bind (items_yields _ element) fun items hold => Yields.pure (gathers.list hold)

omit graded has children in
/-- Members that were gathered make a set or a list one level above them. -/
theorem toValue_graded {found : Gathering}
    (hold : ∀ member ∈ found.members, property levels member) :
    property (levels + 1) found.toValue := by
  unfold Gathering.toValue
  split
  · exact gathers.set fun member mem => hold member (Value.mem_of_mem_distinct mem)
  · exact gathers.list hold

/-- A set is one level above its members. -/
theorem set_graded (kind : schema.kind = .set) :
    Yields (set schema.checks (ofChild (schema.parts make).inner) context) (property levels) := by
  have none := graded.mono (Nat.zero_le levels) gathers.noMembers
  refine guarded_yields none fun below deeper => ?_
  obtain ⟨fewer, rfl, hasFewer⟩ := has.of_deeper deeper
  have element := element_graded children (.inr kind) deeper hasFewer
  refine Yields.last fun target => ?_
  refine Yields.bind (collect_yields element _ _ (List.forall_mem_nil _)) fun found hold => ?_
  split
  · exact Yields.last fun _ => Yields.pure (toValue_graded gathers hold)
  · exact Yields.pure (toValue_graded gathers hold)

/-- A map or a record is one level above its keys and values. -/
theorem entries_graded (kind : schema.kind = .map ∨ schema.kind = .record)
    (size : Context → Value) :
    Yields (entries size (ofChild (schema.parts make).key) (ofChild (schema.parts make).value)
      context) (property levels) := by
  have none := graded.mono (Nat.zero_le levels) gathers.noEntries
  refine guarded_yields none fun below deeper => ?_
  obtain ⟨fewer, rfl, hasFewer⟩ := has.of_deeper deeper
  have key : Yields (ofChild (schema.parts make).key below) (property fewer) :=
    ofChild_yields fun child found => children child below fewer (.key kind deeper found) hasFewer
  have value : Yields (ofChild (schema.parts make).value below) (property fewer) :=
    ofChild_yields fun child found => children child below fewer (.value kind deeper found) hasFewer
  refine Yields.last fun target => ?_
  refine Yields.bind (fill_yields key value _ _ (List.forall_mem_nil _)) fun found hold => ?_
  split
  · exact Yields.last fun _ => Yields.pure (gathers.dictionary hold)
  · exact Yields.pure (gathers.dictionary hold)

end Containers

include graded has children

/-- What follows the items of a tuple is made one level deeper. -/
theorem restItems_graded (kind : schema.kind = .tuple) :
    Yields (restItems (schema.parts make).rest context)
      fun items => ∀ item ∈ items, property levels item := by
  cases found : schema.rest with
  | none =>
    simp only [Schema.parts, found]
    exact Yields.pure (List.forall_mem_nil _)
  | some child =>
    simp only [Schema.parts, found, Option.map_some, restItems_eq]
    refine Yields.bind (Yields.lift fun deeper reached => reached) fun deeper reached => ?_
    cases deeper with
    | none => exact Yields.pure (List.forall_mem_nil _)
    | some below =>
      obtain ⟨fewer, rfl, hasFewer⟩ := has.of_deeper reached
      have element := children child below fewer (.rest kind reached found) hasFewer
      exact (items_yields [] element).mono fun items hold item mem =>
        graded.mono (Nat.le_succ fewer) (hold item mem)

omit graded in
theorem item_graded (kind : schema.kind.hasItems = true) :
    ∀ member ∈ (schema.parts make).items, Yields (member context) (property levels) := by
  intro member mem
  obtain ⟨child, listed, rfl⟩ := List.mem_map.1 mem
  exact children child context levels (.item kind listed) has

/-- A tuple is on the level of its items. -/
theorem tuple_graded (kind : schema.kind = .tuple) :
    Yields (tuple (schema.parts make).items (schema.parts make).rest context)
      (property levels) := by
  have each := item_graded has children (by rw [kind]; rfl)
  refine Yields.bind (members_yields each) fun fixed hold => ?_
  refine Yields.bind (restItems_graded graded has children kind) fun others follow => Yields.pure ?_
  exact graded.tuple (List.forall_mem_append.2 ⟨hold, follow⟩)

omit graded in
/-- A union makes what one of its options makes. -/
theorem union_graded (kind : schema.kind.hasItems = true) :
    Yields (union (schema.parts make).items context) (property levels) :=
  Yields.bind (Draw.member_yields _) (item_graded has children kind)

/-- An intersection merges what its parts make. -/
theorem intersection_graded (kind : schema.kind.hasItems = true) :
    Yields (intersection (schema.parts make).items context) (property levels) := by
  have each := item_graded has children kind
  refine Yields.bind (members_yields fun member mem => each member (List.mem_of_mem_take mem))
    fun samples hold => ?_
  split
  · next left right =>
    exact Yields.pure (graded.merge (hold left (by simp)) (hold right (by simp)))
  · exact Yields.throw _

omit graded in
theorem wrapped_graded (wrapper : schema.kind.isWrapper = true) :
    Yields (ofChild (schema.parts make).inner context) (property levels) :=
  ofChild_yields fun child found => children child context levels (.wrapped wrapper found) has

omit graded in
theorem inner_graded (wrapper : schema.kind.isWrapper = true) :
    Yields (inner schema.tag (schema.parts make).inner context) (property levels) :=
  inner_yields fun child found => children child context levels (.wrapped wrapper found) has

/-- A promise settles to what it wraps. -/
theorem promise_graded (wrapper : schema.kind.isWrapper = true) :
    Yields (promise (schema.parts make).inner context) (property levels) := by
  refine Yields.bind (wrapped_graded has children wrapper) fun settled holds => ?_
  exact Yields.last fun identity => Yields.pure (graded.promise identity holds)

variable {environment : Environment}
variable (supplies : schema.Supplies environment (property 0))

include supplies

/-- A default makes its fallback, or what it wraps. -/
theorem default_graded (kind : schema.kind = .default) :
    Yields (default environment schema.traits.fallback (schema.parts make).inner context)
      (property levels) := by
  refine Yields.last fun falls => ?_
  split
  · split
    · next found fallback =>
      exact (supplies.fallback kind found fallback).mono fun value =>
        graded.mono (Nat.zero_le levels)
    · exact Yields.throw _
  · exact wrapped_graded has children (by rw [kind]; rfl)

/-- An effect makes what the function of the caller makes of a sample. -/
theorem effects_graded (kind : schema.kind = .effects) :
    Yields (effects environment schema.traits.effect (schema.parts make).inner context)
      (property levels) := by
  refine Yields.bind (wrapped_graded has children (by rw [kind]; rfl)) fun made holds => ?_
  split
  · next hook effect =>
    exact (supplies.effect kind hook effect made).mono fun value =>
      graded.mono (Nat.zero_le levels)
  · exact Yields.pure holds

variable {lower : Schema → Make}
variable (definition : ∀ target below fewer,
  schema.Follows environment.definitions context target below → below.HasLevels fewer →
  Yields (lower target below) (property fewer))

omit children supplies in
include definition in
/-- A lazy node makes what its definition makes. -/
theorem deferred_graded (kind : schema.kind = .lazy) :
    Yields (deferred lower (schema.resolve environment.definitions) context)
      (property levels) := by
  refine guarded_yields (graded.plain rfl) fun below deeper => ?_
  obtain ⟨fewer, rfl, hasFewer⟩ := has.of_deeper deeper
  refine Yields.bind (Yields.lift fun target found => found) fun target found => ?_
  exact (definition target below fewer ⟨kind, deeper, found⟩ hasFewer).mono fun value =>
    graded.mono (Nat.le_succ fewer)

variable (gathers : schema.kind.isContainer = true → Value.Gathers property)
variable (choices : context.Supplies environment (property 0))

include definition gathers choices

/-- Every built-in rule makes values with a graded property. -/
theorem builtin_graded {rule : Make}
    (found : builtin? environment lower schema (schema.parts make) = some rule) :
    Yields (rule context) (property levels) := by
  have whole : ∀ {value}, property 0 value → property levels value :=
    graded.mono (Nat.zero_le levels)
  have plain : ∀ {value : Value}, value.isPlain = true → property levels value := graded.plain
  unfold builtin? at found
  cases kind : schema.kind <;> rw [kind] at found <;> cases found
  case string =>
    exact TextSynthesis.make_yields _ (fun text => plain rfl) fun entry mem =>
      (choices.stringMap entry mem).mono fun value => whole
  case number => exact (supplies.number (.inl kind) context).mono fun value => whole
  case bigint => exact (supplies.number (.inr kind) context).mono fun value => whole
  case boolean => exact Yields.last fun _ => Yields.pure (plain rfl)
  case date => exact (date_plain _ _ _).mono fun value => plain
  case object => exact object_graded graded has children (gathers (by rw [kind]; rfl)) kind
  case array => exact array_graded graded has children (gathers (by rw [kind]; rfl)) kind
  case set => exact set_graded graded has children (gathers (by rw [kind]; rfl)) kind
  case map => exact entries_graded graded has children (gathers (by rw [kind]; rfl)) (.inl kind) _
  case record =>
    exact entries_graded graded has children (gathers (by rw [kind]; rfl)) (.inr kind) _
  case tuple => exact tuple_graded graded has children kind
  case union | discriminatedUnion => exact union_graded has children (by rw [kind]; rfl)
  case intersection => exact intersection_graded graded has children (by rw [kind]; rfl)
  case enumeration =>
    exact (Draw.member_yields _).mono fun value mem => whole (supplies.values (.inl kind) value mem)
  case nativeEnumeration =>
    exact (Draw.member_yields _).mono fun value mem => whole (supplies.values (.inr kind) value mem)
  case literal => exact Yields.pure (whole (supplies.literal kind))
  case optional | nullable | branded => exact inner_graded has children (by rw [kind]; rfl)
  case default => exact default_graded graded has children supplies kind
  case effects => exact effects_graded graded has children supplies kind
  case function => exact Yields.last fun _ => Yields.last fun _ => Yields.pure (plain rfl)
  case promise => exact promise_graded graded has children (by rw [kind]; rfl)
  case lazy => exact deferred_graded graded has definition kind
  case void | undefined | null => exact Yields.pure (plain rfl)
  case nan => exact Yields.last fun _ => Yields.pure (plain rfl)

/-- A node is filled with values that have a graded property if what it fills and what it stands for
are. -/
theorem ofNode_graded :
    Yields (ofNode environment lower schema (schema.parts make) context) (property levels) := by
  refine ofNode_yields (graded.plain rfl) choices.overrides fun rule found => ?_
  exact builtin_graded graded has children supplies definition gathers choices found

end Nodes

end Make

/-! ### Generation -/

/-- What a node fills is filled in a context with the same choices. -/
theorem Context.Supplies.fills {environment : Environment} {property : Value → Prop}
    {schema child : Schema} {context below : Context} (choices : context.Supplies environment property)
    (fills : schema.Fills context child below) : below.Supplies environment property := by
  obtain ⟨depth, name, rfl⟩ := fills.context_eq
  exact ⟨choices.overrides, choices.stringMap⟩

/-- A definition is filled in a context with the same choices. -/
theorem Context.Supplies.follows {environment : Environment} {property : Value → Prop}
    {schema target : Schema} {context below : Context}
    (choices : context.Supplies environment property)
    (follows : schema.Follows environment.definitions context target below) :
    below.Supplies environment property := by
  obtain ⟨depth, rfl⟩ := follows.context_eq
  exact ⟨choices.overrides, choices.stringMap⟩

/-- Samples have a graded property at the levels that are left, if the schemas with what they supply
are closed under what is filled; by induction on the calls of nodes. -/
theorem generate_graded {environment : Environment} {property : Nat → Value → Prop}
    (graded : Value.IsGraded property) {fitting : Schema → Prop}
    (supplies : ∀ schema, fitting schema → schema.Supplies environment (property 0))
    (gathers : ∀ schema, fitting schema → schema.kind.isContainer = true → Value.Gathers property)
    (fills : ∀ schema child context below, fitting schema → schema.Fills context child below →
      fitting child)
    (follows : ∀ schema target context below, fitting schema →
      schema.Follows environment.definitions context target below → fitting target)
    (levels : Nat) (schema : Schema) (context : Context) (has : context.HasLevels levels)
    (fits : fitting schema) (choices : context.Supplies environment (property 0)) :
    Yields (generate environment schema context) (property levels) := by
  have every : ∀ left, context.HasLevels left →
      Yields (generate environment schema context) (property left) := by
    revert fits choices
    refine @Schema.byCalls environment.definitions (fun schema context => fitting schema →
      context.Supplies environment (property 0) → ∀ left, context.HasLevels left →
        Yields (generate environment schema context) (property left))
      (fun schema context levels has children definition fits choices left hasLeft => ?_)
      levels schema context has
    rw [generate_eq has schema]
    refine Make.ofNode_graded graded hasLeft (fun child below fewer filled hasFewer => ?_)
      (supplies schema fits) (fun target below fewer followed hasFewer => ?_) (gathers schema fits)
      choices
    · exact children child below filled (fills _ _ _ _ fits filled) (choices.fills filled) fewer
        hasFewer
    · exact definition target below followed (follows _ _ _ _ fits followed)
        (choices.follows followed) fewer hasFewer
  exact every levels has

end Specimen
