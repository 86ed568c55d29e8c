/-
**Correspondences between runs.**

Many facts about generation compare two ways of running it: with and without strictness, with a
function of the caller that fails and one that does not, in contexts of different depth. Each of
them is a relation between runs that the building blocks of generation keep. A `Correspondence` is
such a relation, together with what it asks of the environments and contexts of the two sides; this
module shows that every draw, bound and text keeps it, and `Specimen.Proofs.Congruence` that nodes
do.

The first side runs in a context, the second in its `twin`. The bodies of nodes have a relation of
their own, `rules`, which only has to become the relation of runs once faults are contained.
-/

import Mathlib.Data.List.Forall2
import Specimen.Proofs.Calls
import Specimen.Proofs.PatternFaults

namespace Specimen

/-! ### Replies and contexts -/

/-- Two replies of functions of the caller: the same value, or generators that are related. -/
inductive Reply.Alike (related : Run Value → Run Value → Prop) : Reply → Reply → Prop
  | value (returned : Value) : Reply.Alike related (.value returned) (.value returned)
  | generator {first second : Run Value} (alike : related first second) :
      Reply.Alike related (.generator first) (.generator second)

/-- Two environments that are the same but for the provider and the functions of the caller. -/
structure Environment.SameSetting (first second : Environment) : Prop where
  today : second.today = first.today
  definitions : second.definitions = first.definitions
  words : second.words = first.words
  sample : second.sample = first.sample

theorem Environment.SameSetting.refl (environment : Environment) :
    environment.SameSetting environment := ⟨rfl, rfl, rfl, rfl⟩

/-- Two contexts in which the caller chose the same, depths and strictness apart. -/
structure Context.SameChoices (first second : Context) : Prop where
  keyName : second.keyName = first.keyName
  stringMap : second.stringMap = first.stringMap
  mapper : second.mapper = first.mapper
  resolver : second.resolver = first.resolver
  overrides : second.overrides = first.overrides
  recordKeysLength : second.recordKeysLength = first.recordKeysLength
  mapEntriesLength : second.mapEntriesLength = first.mapEntriesLength
  referenceDate : second.referenceDate = first.referenceDate

theorem Context.SameChoices.refl (context : Context) : context.SameChoices context :=
  ⟨rfl, rfl, rfl, rfl, rfl, rfl, rfl, rfl⟩

namespace Make

/-- The value of a node with a rule: what the rule makes, or absent if it fails. -/
def filled (tag : String) (context : Context) (rule : Run Value) : Run Value := do
  pure (← attempt tag context rule).value

/-- The value of a node without a rule. -/
def unfilled (tag : String) (context : Context) : Run Value := do
  pure (← withoutRule tag context).value

end Make

/-! ### The relation -/

/-- A relation between the runs of two environments that generation keeps. -/
structure Correspondence (first second : Environment) where
  /-- The context of the second side. -/
  twin : Context → Context
  /-- The contexts in which the first side fills a node. -/
  suits : Schema → Context → Prop
  /-- The relation between runs, given the relation between their values. -/
  runs : {α : Type} → (α → α → Prop) → Run α → Run α → Prop
  /-- The relation between the bodies of nodes, before faults are contained. -/
  rules : Run Value → Run Value → Prop
  pure : ∀ {α : Type} {related : α → α → Prop} {left right : α}, related left right →
    runs related (Pure.pure left) (Pure.pure right)
  bind : ∀ {α β : Type} {related : α → α → Prop} {further : β → β → Prop} {left right : Run α}
    {next continued : α → Run β}, runs related left right →
    (∀ value other, related value other → runs further (next value) (continued other)) →
    runs further (left >>= next) (right >>= continued)
  lift : ∀ {α : Type} {result : Except Fault α}, Ordinary result →
    runs Eq (Run.lift result) (Run.lift result)
  draw : ∀ {α : Type} (property : α → Prop) {drawing : Twister → α × Twister},
    (∀ twister, property (drawing twister).1) →
    runs (fun value other => value = other ∧ property value) (Run.draw drawing) (Run.draw drawing)
  log : ∀ (level : LogLevel) (origin : LogOrigin) (message : String), origin ≠ .generation →
    runs Eq (Run.log level origin message) (Run.log level origin message)
  fresh : runs Eq Run.fresh Run.fresh
  copy : ∀ value, runs Eq (Run.copy value) (Run.copy value)
  newFunction : ∀ {schema : Schema} {context : Context} (name : FunctionName) (returns : Option Schema),
    suits schema context → schema.kind = .function →
    runs Eq (Run.newFunction name ⟨returns, context⟩) (Run.newFunction name ⟨returns, twin context⟩)
  setting : first.SameSetting second
  unresolved : ∀ {schema : Schema} {fault : Fault},
    schema.resolve first.definitions = .error fault →
    runs Eq (throw fault : Run Value) (throw fault)
  provider : ∀ call, runs Eq (first.provider call) (second.provider call)
  /-- Functions of the caller that are asked for generators. -/
  resolver : ∀ {schema : Schema} {context : Context} {hook : Hook} (key : Value),
    suits schema context → context.resolver = some hook →
    runs (Reply.Alike (runs Eq)) (first.invoke hook (.onKey key)) (second.invoke hook (.onKey key))
  mapper : ∀ {schema : Schema} {context : Context} {hook : Hook} (key : Value),
    suits schema context → context.mapper = some hook →
    runs (Reply.Alike (runs Eq)) (first.invoke hook (.onKey key)) (second.invoke hook (.onKey key))
  /-- Functions of the caller that make the value of a node. -/
  override : ∀ {schema : Schema} {context : Context} {hook : Hook}, suits schema context →
    context.overrides.lookup schema.tag = some hook →
    rules (first.invokeValue hook (.onNode schema context))
      (second.invokeValue hook (.onNode schema (twin context)))
  bare : ∀ hook, rules (first.invokeValue hook .bare) (second.invokeValue hook .bare)
  onValue : ∀ hook value,
    rules (first.invokeValue hook (.onValue value)) (second.invokeValue hook (.onValue value))
  /-- Bodies of nodes. -/
  rule : ∀ {left right : Run Value}, runs Eq left right → rules left right
  thenRule : ∀ {α : Type} {related : α → α → Prop} {left right : Run α}
    {next continued : α → Run Value}, runs related left right →
    (∀ value other, related value other → rules (next value) (continued other)) →
    rules (left >>= next) (right >>= continued)
  filled : ∀ {schema : Schema} {context : Context} {left right : Run Value}, suits schema context →
    rules left right → runs Eq (Make.filled schema.tag context left)
      (Make.filled schema.tag (twin context) right)
  unfilled : ∀ {schema : Schema} {context : Context}, suits schema context →
    runs Eq (Make.unfilled schema.tag context) (Make.unfilled schema.tag (twin context))
  /-- Contexts. -/
  choices : ∀ context : Context, context.SameChoices (twin context)
  forKey : ∀ (context : Context) (name : Value),
    twin (context.forKey name) = (twin context).forKey name
  deeper : ∀ {schema : Schema} {context : Context}, suits schema context →
    schema.isControlled = true → (twin context).deeper = context.deeper.map (Option.map twin)
  fills : ∀ {schema child : Schema} {context below : Context}, suits schema context →
    schema.Fills context child below → suits child below
  follows : ∀ {schema target : Schema} {context below : Context}, suits schema context →
    schema.Follows first.definitions context target below → suits target below

namespace Correspondence

variable {first second : Environment} (link : Correspondence first second) {α β : Type}

/-! ### Sequences and lists -/

/-- Two runs that are related and give the same value. -/
abbrev same (left right : Run α) : Prop := link.runs Eq left right

theorem pureSame (value : α) : link.same (Pure.pure value) (Pure.pure value) := link.pure rfl

/-- Runs that go on with the same value. -/
theorem bindSame {further : β → β → Prop} {left right : Run α} {next continued : α → Run β}
    (begun : link.same left right)
    (goesOn : ∀ value, link.runs further (next value) (continued value)) :
    link.runs further (left >>= next) (right >>= continued) :=
  link.bind begun fun value _ equal => equal ▸ goesOn value

/-- Bodies of nodes that go on with the same value. -/
theorem thenRuleSame {left right : Run α} {next continued : α → Run Value}
    (begun : link.same left right) (goesOn : ∀ value, link.rules (next value) (continued value)) :
    link.rules (left >>= next) (right >>= continued) :=
  link.thenRule begun fun value _ equal => equal ▸ goesOn value

theorem throw {fault : Fault} (known : fault.isUnknownType = false) :
    link.same (throw fault : Run α) (throw fault) :=
  link.lift (show Ordinary (.error fault : Except Fault α) from known)

/-- Steps for each item correspond if every step does. -/
theorem mapM {Item : Type} {items : List Item} {left right : Item → Run α}
    (each : ∀ item ∈ items, link.same (left item) (right item)) :
    link.same (items.mapM left) (items.mapM right) := by
  induction items with
  | nil => exact link.pureSame []
  | cons item rest hypothesis =>
    rw [List.mapM_cons, List.mapM_cons]
    refine link.bindSame (each item List.mem_cons_self) fun value => ?_
    refine link.bindSame (hypothesis fun other mem => each other (List.mem_cons_of_mem _ mem))
      fun values => ?_
    exact link.pureSame _

/-- A draw that may have nothing to draw. -/
theorem attemptDraw {drawing : Twister → Except Fault α × Twister}
    (ordinary : ∀ twister, Ordinary (drawing twister).1) :
    link.same (Run.attemptDraw drawing) (Run.attemptDraw drawing) := by
  refine link.bind (link.draw Ordinary ordinary) fun value other ⟨equal, known⟩ => ?_
  exact equal ▸ link.lift known

theorem drawSame (drawing : Twister → α × Twister) :
    link.same (Run.draw drawing) (Run.draw drawing) := by
  rw [← bind_pure (Run.draw drawing)]
  refine link.bind (link.draw (fun _ => True) fun _ => True.intro) fun value other equal => ?_
  exact link.pure equal.1

end Correspondence

/-! ### Draws -/

namespace Draw

variable {first second : Environment} (link : Correspondence first second) {α : Type}

/-- Integers are drawn alike on both sides. -/
theorem integer_same (low high : Value) : link.same (integer low high) (integer low high) := by
  refine link.bindSame (link.lift (Value.increment_ordinary _)) fun stop => ?_
  refine link.bindSame (link.lift (Value.toIndex_ordinary _)) fun least => ?_
  refine link.bindSame (link.lift (Value.toIndex_ordinary _)) fun beyond => ?_
  exact link.attemptDraw fun twister => Twister.between_ordinary _ _ twister

theorem uniform_same (low high : Value) : link.same (uniform low high) (uniform low high) := by
  refine link.bindSame (link.lift (Value.gap_ordinary _ _)) fun gap => ?_
  refine link.bindSame (link.drawSame _) fun fraction => ?_
  exact link.lift (Value.through_ordinary _ _ _)

theorem boolean_same : link.same boolean boolean :=
  link.bindSame (link.drawSame _) fun _ => link.pureSame _

theorem place_same (count : Nat) : link.same (place count) (place count) := by
  unfold place
  by_cases none : count = 0
  · simp only [none, if_true]
    exact link.bindSame (link.throw rfl) fun _ => link.drawSame _
  · simp only [none, if_false]
    exact link.drawSame _

/-- Members are picked alike on both sides. -/
theorem member_same (members : List α) : link.same (member members) (member members) := by
  refine link.bindSame (place_same link _) fun index => ?_
  split
  · exact link.pureSame _
  · exact link.throw rfl

theorem lettersOf_same (count : Nat) : link.same (lettersOf count) (lettersOf count) := by
  induction count with
  | zero => exact link.pureSame []
  | succ count hypothesis =>
    exact link.bindSame (member_same link _) fun letter => link.bindSame hypothesis fun others =>
      link.pureSame _

theorem alpha_same (length : Value) : link.same (alpha length) (alpha length) := by
  refine link.bindSame (link.lift (Value.compares_ordinary _ _ _)) fun positive => ?_
  split
  · split
    · exact link.bindSame (lettersOf_same link _) fun found => link.pureSame _
    · exact link.throw rfl
  · exact link.pureSame _

/-- Words are made up alike on both sides. -/
theorem madeUpWord_same (length : Value) :
    link.same (madeUpWord first length) (madeUpWord second length) := by
  unfold madeUpWord
  split
  · exact link.throw rfl
  · split
    · exact link.throw rfl
    · exact link.provider _

/-- Words are drawn alike from what both environments offer. -/
theorem word_same (length : Value) : link.same (word first length) (word second length) := by
  unfold word
  split
  · exact link.provider _
  · refine link.bindSame (link.lift (Value.compares_ordinary _ _ _)) fun small => ?_
    split
    · exact link.pureSame _
    · have words : second.wordsOfLength length = first.wordsOfLength length :=
        congrArg (List.filter _) link.setting.words
      simp only [words]
      split
      · exact madeUpWord_same link length
      · exact link.bindSame (member_same link _) fun found => link.pureSame _

/-- A pattern is sampled with the same draw on both sides. -/
theorem fromPattern_same (pattern limit : Value) :
    link.same (fromPattern first pattern limit) (fromPattern second pattern limit) := by
  have texts : second.sampleText = first.sampleText := by
    unfold Environment.sampleText
    rw [link.setting.sample]
  unfold fromPattern
  rw [texts]
  refine link.bindSame (link.drawSame _) fun seed => ?_
  split
  · exact link.bindSame (link.lift (readPattern_ordinary _)) fun nodes =>
      link.lift (first.sampleText_ordinary _ _ _)
  · exact link.throw rfl

theorem span_same (seconds : Value) : link.same (span seconds) (span seconds) := by
  refine link.bindSame (uniform_same link _ _) fun drawn => ?_
  refine link.bindSame (link.lift (Value.toBinary64_ordinary _)) fun number => ?_
  exact link.lift (spanOfSeconds_ordinary _)

theorem between_same (low high : Value) : link.same (between low high) (between low high) := by
  refine link.bindSame (link.lift (Value.spanBetween_ordinary _ _)) fun size => ?_
  refine link.bindSame (span_same link _) fun way => ?_
  exact link.lift (Value.later_ordinary _ _)

theorem soon_same (reference days : Value) :
    link.same (soon reference days) (soon reference days) := by
  refine link.bindSame (link.lift (Value.daysInSeconds_ordinary _)) fun seconds => ?_
  exact link.bindSame (span_same link _) fun way => link.lift (Value.later_ordinary _ _)

theorem recent_same (reference days : Value) :
    link.same (recent reference days) (recent reference days) := by
  refine link.bindSame (link.lift (Value.daysInSeconds_ordinary _)) fun seconds => ?_
  exact link.bindSame (span_same link _) fun way => link.lift (Value.earlier_ordinary _ _)

end Draw

end Specimen
