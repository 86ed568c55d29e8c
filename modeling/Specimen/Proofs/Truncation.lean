/-
**What is cut off may be missing.**

On the deepest level a lazy node is absent, a list is empty, and so is an object. An optional node
has no issue with the first, a list without bounds none with the second; but an object may lack a
field that it must have. Where no such object stands on the deepest level, the samples of schemas
that refer to each other through optional nodes alone are valid, however deep they may go
(`generate_truncated_valid`).
-/

import Specimen.Factory
import Specimen.Proofs.Validity

namespace Specimen

open Run (Gives)

/-! ### Nodes on the deepest level -/

namespace Schema

/-- A schema of texts, booleans, lists and objects without bounds, and of optional nodes, in which
lazy nodes stand directly under optional ones. -/
inductive IsSeverable : Schema → Prop
  | text {schema : Schema} (kind : schema.kind = .string) (free : schema.checks = []) :
      IsSeverable schema
  | boolean {schema : Schema} (kind : schema.kind = .boolean) : IsSeverable schema
  | list {schema element : Schema} (kind : schema.kind = .array) (free : schema.checks = [])
      (found : schema.inner = some element) (each : IsSeverable element) : IsSeverable schema
  | object {schema : Schema} (kind : schema.kind = .object)
      (distinct : ((schema.fields.getD []).map (·.1)).Nodup)
      (each : ∀ field ∈ schema.fields.getD [], IsSeverable field.2) : IsSeverable schema
  | optional {schema child : Schema} (kind : schema.kind = .optional)
      (found : schema.inner = some child) (inside : IsSeverable child) : IsSeverable schema
  | reference {schema child : Schema} (kind : schema.kind = .optional)
      (found : schema.inner = some child) (isLazy : child.kind = .lazy) : IsSeverable schema

/-- A node is on a way into the schema, behind so many nodes that look at the depth. -/
inductive Reaches (definitions : Definitions) : Schema → Nat → Schema → Prop
  | here (schema : Schema) : Reaches definitions schema 0 schema
  | alongside {schema child node : Schema} {depth : Nat} (mem : child ∈ schema.alongside)
      (further : Reaches definitions child depth node) : Reaches definitions schema depth node
  | nested {schema child node : Schema} {depth : Nat} (mem : child ∈ schema.nested)
      (further : Reaches definitions child depth node) : Reaches definitions schema (depth + 1) node
  | definition {schema target node : Schema} {depth : Nat}
      (stands : schema.StandsFor definitions target)
      (further : Reaches definitions target depth node) :
      Reaches definitions schema (depth + 1) node

/-- An object is what it should be without any field. -/
def NeedsNoField (schema : Schema) : Prop :=
  schema.kind = .object → ∀ field ∈ schema.fields.getD [], field.2.kind = .optional

/-- No object that must have a field is so far into the schema. -/
def NeedsNoFieldAt (definitions : Definitions) (depth : Nat) (schema : Schema) : Prop :=
  ∀ node, schema.Reaches definitions depth node → node.NeedsNoField

variable {definitions : Definitions} {schema child target : Schema} {depth : Nat}

/-- A lazy node is not severable itself. -/
theorem IsSeverable.kind_ne_lazy (severable : schema.IsSeverable) : schema.kind ≠ .lazy := by
  cases severable with
  | text kind | boolean kind | list kind | object kind | optional kind | reference kind =>
    rw [kind]
    decide

namespace NeedsNoFieldAt

/-- What is on the same level needs no field at the same depth. -/
theorem alongside (least : schema.NeedsNoFieldAt definitions depth) (mem : child ∈ schema.alongside) :
    child.NeedsNoFieldAt definitions depth := fun node further => least node (.alongside mem further)

/-- What is a level deeper needs no field at one depth less. -/
theorem nested (least : schema.NeedsNoFieldAt definitions (depth + 1)) (mem : child ∈ schema.nested) :
    child.NeedsNoFieldAt definitions depth := fun node further => least node (.nested mem further)

theorem definition (least : schema.NeedsNoFieldAt definitions (depth + 1))
    (stands : schema.StandsFor definitions target) : target.NeedsNoFieldAt definitions depth :=
  fun node further => least node (.definition stands further)

end NeedsNoFieldAt

end Schema

/-! ### Contexts without functions of the caller -/

/-- The caller has chosen no functions, and what is filled is no field or one with a name. -/
structure Context.IsUnaided (environment : Environment) (reference : Moment) (context : Context) :
    Prop where
  overrides : context.overrides = []
  stringMap : context.stringMap = []
  mapper : context.mapper = none
  resolver : context.resolver = none
  named : context.keyName.isTruthy = true → ∃ name, context.keyName = .text name
  reference : environment.referenceDate context = .moment reference

namespace Context.IsUnaided

variable {environment : Environment} {reference : Moment} {context below : Context}
variable (unaided : context.IsUnaided environment reference)

include unaided

theorem fills {schema child : Schema} (fills : schema.Fills context child below) :
    below.IsUnaided environment reference := by
  have deeper : ∀ next, context.deeper = .ok (some next) → next.IsUnaided environment reference := by
    intro next isDeeper
    rw [Context.eq_of_deeper isDeeper]
    exact ⟨unaided.overrides, unaided.stringMap, unaided.mapper, unaided.resolver, unaided.named,
      unaided.reference⟩
  cases fills with
  | field kind isDeeper mem =>
    have here := deeper _ isDeeper
    exact ⟨here.overrides, here.stringMap, here.mapper, here.resolver, fun _ => ⟨_, rfl⟩,
      here.reference⟩
  | element kind isDeeper | key kind isDeeper | value kind isDeeper | rest kind isDeeper =>
    exact deeper below isDeeper
  | item | wrapped => exact unaided

theorem follows {definitions : Schema.Definitions} {schema target : Schema}
    (follows : schema.Follows definitions context target below) :
    below.IsUnaided environment reference := by
  rw [Context.eq_of_deeper follows.deeper]
  exact ⟨unaided.overrides, unaided.stringMap, unaided.mapper, unaided.resolver, unaided.named,
    unaided.reference⟩

end Context.IsUnaided

/-! ### Samples of nodes -/

namespace Schema

/-- Validation has no issue with the value. -/
def Accepts (environment : Environment) (schema : Schema) (value : Value) : Prop :=
  Judge.Accepts (validate environment.definitions schema) value

/-- A lazy node may be absent, and any other sample is accepted. -/
def IsMissingOrFine (environment : Environment) (schema : Schema) (value : Value) : Prop :=
  schema.kind = .lazy ∧ value = .absent ∨ schema.Accepts environment value

variable {environment : Environment} {schema : Schema} {context : Context} {levels : Nat}

theorem IsMissingOrFine.accepted {value : Value} (fine : schema.IsMissingOrFine environment value)
    (notLazy : schema.kind ≠ .lazy) : schema.Accepts environment value :=
  fine.resolve_left fun missing => notLazy missing.1

variable (has : context.HasLevels levels) (plain : context.overrides = [])

include has plain

/-- A sample is accepted if the rule of the node makes values that its judge accepts. -/
theorem fine_of_made {judge : Judge} {rule : Make}
    (made : Gives (rule context) fun value => judge.Accepts value ∧ value ≠ .absent)
    (builtin : Make.builtin? environment (generate environment) schema
      (schema.parts (generate environment)) = some rule)
    (asks : Judge.ofKind environment.definitions (validate environment.definitions) schema
      (schema.parts (validate environment.definitions)) = judge) :
    Gives (generate environment schema context) (schema.IsMissingOrFine environment) := by
  rw [generate_eq has]
  exact (Make.ofNode_gives plain builtin made).mono fun value ⟨accepted, present⟩ =>
    .inr (validate_accepts (.inl present) (asks ▸ accepted))

/-- A text without checks is fine. -/
theorem text_fine (kind : schema.kind = .string) (free : schema.checks = [])
    (unmapped : context.stringMap = []) (picks : context.Picks environment)
    (words : environment.HasWords) :
    Gives (generate environment schema context) (schema.IsMissingOrFine environment) := by
  have sizes : Check.Sizes schema.checks 0 none := free ▸ .free
  have text := TextSynthesis.make_gives sizes unmapped picks.named
    (TextSynthesis.rawText_gives words picks)
  have made : Gives (TextSynthesis.make environment schema.checks context) fun value =>
      (Judge.string schema.checks).Accepts value ∧ value ≠ .absent :=
    text.mono fun value ⟨text, isText, between⟩ => isText ▸ ⟨Judge.string_accepts sizes between, nofun⟩
  exact fine_of_made has plain made (by rw [Make.builtin?, kind]) (by rw [Judge.ofKind, kind])

theorem boolean_fine (kind : schema.kind = .boolean) :
    Gives (generate environment schema context) (schema.IsMissingOrFine environment) := by
  have made : Gives (Make.boolean context) fun value =>
      Judge.boolean.Accepts value ∧ value ≠ .absent :=
    Draw.boolean_gives.bind fun drawn _ => Gives.pure ⟨fun path => rfl, nofun⟩
  exact fine_of_made has plain made (by rw [Make.builtin?, kind]) (by rw [Judge.ofKind, kind])

/-- On the deepest level a list is empty, and any list of samples of its elements is accepted. -/
theorem list_fine (kind : schema.kind = .array) (free : schema.checks = []) {element : Schema}
    (found : schema.inner = some element) (each : ∀ below, context.deeper = .ok (some below) →
      Gives (generate environment element below) (element.Accepts environment)) :
    Gives (generate environment schema context) (schema.IsMissingOrFine environment) := by
  have sizes : Check.Sizes schema.checks 0 none := free ▸ .free
  have made : Gives (Make.array schema.checks
      (Make.ofChild (schema.parts (generate environment)).inner) context) fun value =>
        (Judge.array schema.checks (Judge.ofChild
          (schema.parts (validate environment.definitions)).inner)).Accepts value ∧
            value ≠ .absent := by
    cases levels with
    | zero =>
      rw [Make.array, Make.guarded_eq, has.deeper_zero]
      refine Gives.pure ⟨Judge.array_accepts sizes ?_ (List.forall_mem_nil _), nofun⟩
      exact ⟨Nat.zero_le _, nofun⟩
    | succ fewer =>
      obtain ⟨below, deeper, _⟩ := has.deeper_succ
      exact Make.array_gives (fun _ _ accepted => accepted) deeper sizes found (each below deeper)
  exact fine_of_made has plain made (by rw [Make.builtin?, kind]) (by rw [Judge.ofKind, kind])

/-- On the deepest level an object is empty, which is accepted if it needs no field. -/
theorem object_fine (kind : schema.kind = .object)
    (distinct : ((schema.fields.getD []).map (·.1)).Nodup)
    (least : levels = 0 → schema.NeedsNoField)
    (each : ∀ field ∈ schema.fields.getD [], ∀ below, context.deeper = .ok (some below) →
      Gives (generate environment field.2 (below.forKey (.text field.1)))
        (field.2.Accepts environment)) :
    Gives (generate environment schema context) (schema.IsMissingOrFine environment) := by
  have made : Gives (Make.object (schema.parts (generate environment)).fields context) fun value =>
      (Judge.object (schema.parts (validate environment.definitions)).fields).Accepts value ∧
        value ≠ .absent := by
    cases levels with
    | zero =>
      rw [Make.object, Make.guarded_eq, has.deeper_zero]
      refine Gives.pure ⟨Judge.object_accepts fun field mem => ?_, by simp⟩
      obtain ⟨described, listed, rfl⟩ := List.mem_map.1 mem
      have isOptional := least rfl kind described listed
      refine validate_accepts (.inr (by rw [isOptional]; rfl)) ?_
      rw [Judge.ofKind, isOptional]
      exact Judge.optional_accepts fun present => absurd rfl present
    | succ fewer =>
      obtain ⟨below, deeper, _⟩ := has.deeper_succ
      refine (Make.object_gives deeper fun field mem => each field mem below deeper).mono ?_
      rintro _ ⟨entries, rfl, named⟩
      exact ⟨Judge.object_accepts_entries named distinct, by simp⟩
  exact fine_of_made has plain made (by rw [Make.builtin?, kind]) (by rw [Judge.ofKind, kind])

/-- An optional node may be missing, or it is what it wraps. -/
theorem optional_fine (kind : schema.kind = .optional) {child : Schema}
    (found : schema.inner = some child)
    (inside : Gives (generate environment child context) (child.IsMissingOrFine environment)) :
    Gives (generate environment schema context) (schema.IsMissingOrFine environment) := by
  have made : Gives (Make.inner schema.tag (schema.parts (generate environment)).inner context)
      (child.IsMissingOrFine environment) := by
    simp only [parts, found, Option.map_some]
    exact inside
  rw [generate_eq has]
  refine (Make.ofNode_gives plain (by rw [Make.builtin?, kind]) made).mono fun value fine => .inr ?_
  refine validate_accepts (.inr (by rw [kind]; rfl)) ?_
  rw [Judge.ofKind, kind]
  simp only [parts, found, Option.map_some]
  exact Judge.optional_accepts fun present => fine.resolve_left fun missing => present missing.2

/-- A lazy node is absent on the deepest level, and where it stands for nothing. -/
theorem lazy_fine (kind : schema.kind = .lazy)
    (defined : ∀ fault, schema.resolve environment.definitions = .error fault →
      fault.isUnknownType = false)
    (definition : ∀ target below, schema.Follows environment.definitions context target below →
      Gives (generate environment target below) (target.Accepts environment)) :
    Gives (generate environment schema context) (schema.IsMissingOrFine environment) := by
  have builtin : Make.builtin? environment (generate environment) schema
      (schema.parts (generate environment)) = some (Make.deferred (generate environment)
        (schema.resolve environment.definitions)) := by rw [Make.builtin?, kind]
  rw [generate_eq has]
  cases levels with
  | zero =>
    refine Make.ofNode_gives plain builtin ?_
    rw [Make.deferred, Make.guarded_eq, has.deeper_zero]
    exact Gives.pure (.inl ⟨kind, rfl⟩)
  | succ fewer =>
    obtain ⟨below, deeper, _⟩ := has.deeper_succ
    cases found : schema.resolve environment.definitions with
    | error fault =>
      rw [found] at builtin
      refine Make.ofNode_gives_absent plain builtin (defined fault found) (fun session => ?_)
        (.inl ⟨kind, rfl⟩)
      rw [Make.deferred, Make.guarded_eq, deeper]
      rfl
    | ok target =>
      rw [found] at builtin
      refine Make.ofNode_gives plain builtin (Make.guarded_gives deeper ?_)
      refine (definition target below ⟨kind, deeper, found⟩).mono fun value accepted => .inr ?_
      refine validate_accepts (.inr (by rw [kind]; rfl)) fun path => ?_
      rw [Judge.ofKind, kind]
      simp only [Judge.deferred, found]
      exact accepted path

omit has plain

/-! ### Samples of schemas -/

/-- Definitions are severable schemas. -/
def Definitions.AreSeverable (definitions : Definitions) : Prop :=
  ∀ name found, (name, found) ∈ definitions → ∃ target : Schema, found = .ok target ∧ target.IsSeverable

namespace Definitions.AreSeverable

variable {definitions : Definitions} (severable : definitions.AreSeverable)

include severable

theorem ordinary {fault : Fault} (found : schema.resolve definitions = .error fault) :
    fault.isUnknownType = false := by
  refine fault_ordinary (fun name definition mem => ?_) found
  obtain ⟨target, rfl, _⟩ := severable name definition mem
  exact True.intro

theorem target {target : Schema} (found : schema.resolve definitions = .ok target) :
    target.IsSeverable := by
  obtain ⟨name, mem⟩ := resolve_mem found
  obtain ⟨other, same, isSeverable⟩ := severable name _ mem
  exact Except.ok.inj same ▸ isSeverable

end Definitions.AreSeverable

/-- Where no object on the deepest level needs a field, a sample of a severable schema is accepted,
and one of a lazy node is accepted or absent. -/
theorem generate_fine {reference : Moment} (words : environment.HasWords)
    (answers : environment.AnswersFields reference) (late : microsPerDay ≤ reference.wall)
    (valid : reference.wall < Moment.limit) (severable : environment.definitions.AreSeverable)
    (suits : schema.kind = .lazy ∨ schema.IsSeverable)
    (unaided : context.IsUnaided environment reference) (has : context.HasLevels levels)
    (least : schema.NeedsNoFieldAt environment.definitions levels) :
    Gives (generate environment schema context) (schema.IsMissingOrFine environment) := by
  have every : ∀ left, context.HasLevels left →
      schema.NeedsNoFieldAt environment.definitions left →
        Gives (generate environment schema context) (schema.IsMissingOrFine environment) := by
    revert suits unaided
    refine @byCalls environment.definitions (fun schema context =>
      (schema.kind = .lazy ∨ schema.IsSeverable) → context.IsUnaided environment reference →
        ∀ left, context.HasLevels left → schema.NeedsNoFieldAt environment.definitions left →
          Gives (generate environment schema context) (schema.IsMissingOrFine environment))
      (fun schema context levels _ children definition suits unaided left has least => ?_)
      levels schema context has
    have inside : ∀ child below, (child.kind = .lazy ∨ child.IsSeverable) →
        schema.Fills context child below → child ∈ schema.judged →
          Gives (generate environment child below) (child.IsMissingOrFine environment) := by
      intro child below suits fills judged
      have hypothesis := children child below fills suits (unaided.fills fills)
      rcases fills.alongside_or_nested judged has with ⟨mem, same⟩ | ⟨mem, fewer, rfl, hasFewer⟩
      · exact hypothesis left same (least.alongside mem)
      · exact hypothesis fewer hasFewer (least.nested mem)
    have accepted : ∀ child below, child.IsSeverable → schema.Fills context child below →
        child ∈ schema.judged → Gives (generate environment child below) (child.Accepts environment) :=
      fun child below isSeverable fills judged =>
        (inside child below (.inr isSeverable) fills judged).mono fun value fine =>
          fine.accepted isSeverable.kind_ne_lazy
    have wrapped : schema.kind = .optional → ∀ {child}, schema.inner = some child →
        (child.kind = .lazy ∨ child.IsSeverable) →
          Gives (generate environment schema context) (schema.IsMissingOrFine environment) := by
      intro kind child found suits
      refine optional_fine has unaided.overrides kind found
        (inside child context suits (.wrapped (by rw [kind]; rfl) found) ?_)
      rw [judged, kind, found]
      exact List.mem_singleton_self _
    rcases suits with kind | isSeverable
    · refine lazy_fine has unaided.overrides kind (fun fault => severable.ordinary)
        fun target below follows => ?_
      obtain ⟨fewer, rfl, hasFewer⟩ := has.of_deeper follows.deeper
      have isSeverable := severable.target follows.found
      exact (definition target below follows (.inr isSeverable) (unaided.follows follows) fewer hasFewer
        (least.definition ⟨kind, follows.found⟩)).mono fun value fine =>
          fine.accepted isSeverable.kind_ne_lazy
    · cases isSeverable with
      | text kind free =>
        exact text_fine has unaided.overrides kind free unaided.stringMap (answers.picks
          unaided.reference late valid unaided.mapper unaided.resolver unaided.named) words
      | boolean kind => exact boolean_fine has unaided.overrides kind
      | list kind free found each =>
        refine list_fine has unaided.overrides kind free found fun below deeper => ?_
        refine accepted _ below each (.element (.inl kind) deeper found) ?_
        rw [judged, kind, found]
        exact List.mem_singleton_self _
      | object kind distinct each =>
        refine object_fine has unaided.overrides kind distinct
          (fun none => least schema (none ▸ .here schema)) fun field mem below deeper => ?_
        refine accepted field.2 _ (each field mem) (.field kind deeper mem) ?_
        rw [judged, kind]
        exact List.mem_map_of_mem mem
      | optional kind found within => exact wrapped kind found (.inr within)
      | reference kind found isLazy => exact wrapped kind found (.inl isLazy)
  exact every levels has least

end Schema

/-! ### Factories -/

/-- A factory without overrides creates what is generated, if that is accepted. -/
theorem Factory.create_gives {environment : Environment} {factory : Factory} {attributes : Value}
    (noCallback : factory.callback = none) (noLayers : factory.layers = [])
    (known : Context.unknownNames factory.settings = []) (none : attributes.isTruthy = false)
    (made : Gives (generate environment factory.schema (.ofSettings .null factory.settings))
      (factory.schema.Accepts environment)) :
    Gives (factory.create environment attributes) (factory.schema.Accepts environment) := by
  have standing : factory.standing environment = pure (.dictionary []) := by
    unfold Factory.standing
    rw [noCallback, noLayers]
    rfl
  have raw : Gives (factory.raw environment attributes) (factory.schema.Accepts environment) := by
    unfold Factory.raw Factory.sample
    rw [sample_eq known, standing]
    refine (made.bind fun value accepted => Gives.pure accepted).bind fun value accepted => ?_
    unfold overlay
    rw [none]
    exact Gives.pure accepted
  refine raw.bind fun value accepted => ?_
  have parsed : safeParse environment.definitions factory.schema value = .ok (.accepted value) := by
    unfold safeParse
    rw [accepted []]
    rfl
  rw [parsed]
  exact Gives.pure accepted

/-- **Samples that are cut short are valid.** Where no object on the deepest level needs a field, a
severable schema has a sample in every session, with which validation has no issue, and a factory
for the schema creates one. -/
theorem generate_truncated_valid (environment : Environment) (words : environment.HasWords)
    (reference : Moment) (answers : environment.AnswersFields reference)
    (late : microsPerDay ≤ reference.wall) (valid : reference.wall < Moment.limit)
    (severable : environment.definitions.AreSeverable) (schema : Schema)
    (isSeverable : schema.IsSeverable) (context : Context)
    (unaided : context.IsUnaided environment reference) (levels : Nat)
    (has : context.HasLevels levels)
    (least : schema.NeedsNoFieldAt environment.definitions levels) :
    (∀ session, ∃ value after, generate environment schema context session = (.ok value, after) ∧
        ∀ path, validate environment.definitions schema value path = .ok []) ∧
      ∀ (factory : Factory) (attributes : Value), factory.schema = schema →
        factory.callback = none → factory.layers = [] → Context.unknownNames factory.settings = [] →
        Context.ofSettings .null factory.settings = context → attributes.isTruthy = false →
        ∀ session, ∃ value after,
          factory.create environment attributes session = (.ok value, after) ∧
            ∀ path, validate environment.definitions schema value path = .ok [] := by
  have made : Gives (generate environment schema context) (schema.Accepts environment) :=
    (Schema.generate_fine words answers late valid severable (.inr isSeverable) unaided has least).mono
      fun value fine => fine.accepted isSeverable.kind_ne_lazy
  refine ⟨made, ?_⟩
  rintro factory attributes rfl noCallback noLayers known rfl none
  exact Factory.create_gives noCallback noLayers known none made

/-- Links of a chain: a mark, and the next link if there is one. -/
def chainLink : Schema :=
  .object [("mark", .boolean), ("next", (Schema.lazy "link").optional)]

/-- The links of the chain itself are an even number of levels into it. -/
theorem chainLink_reaches {schema node : Schema} {depth : Nat}
    (reaches : schema.Reaches [("link", .ok chainLink)] depth node) (isObject : node.kind = .object) :
    (schema = chainLink → depth % 2 = 0) ∧ schema ≠ .boolean ∧
      (schema = .lazy "link" ∨ schema = (Schema.lazy "link").optional → depth % 2 = 1) := by
  induction reaches with
  | here schema =>
    refine ⟨fun _ => rfl, ?_, ?_⟩
    · rintro rfl
      cases isObject
    · rintro (rfl | rfl) <;> cases isObject
  | @alongside schema child node depth mem further hypothesis =>
    obtain ⟨_, _, odd⟩ := hypothesis isObject
    refine ⟨?_, ?_, ?_⟩
    · rintro rfl
      cases mem
    · rintro rfl
      cases mem
    · rintro (rfl | rfl)
      · cases mem
      · exact odd (.inl (List.mem_singleton.1 mem))
  | @nested schema child node depth mem further hypothesis =>
    obtain ⟨_, other, odd⟩ := hypothesis isObject
    refine ⟨?_, ?_, ?_⟩
    · rintro rfl
      have isChild : child = .boolean ∨ child = (Schema.lazy "link").optional := by
        simpa [Schema.nested, chainLink, Schema.object, Schema.kind, Schema.fields, Schema.putField]
          using mem
      have := odd (.inr (isChild.resolve_left other))
      omega
    · rintro rfl
      cases mem
    · rintro (rfl | rfl) <;> cases mem
  | @definition schema target node depth stands further hypothesis =>
    obtain ⟨even, _, _⟩ := hypothesis isObject
    refine ⟨?_, ?_, ?_⟩
    · rintro rfl
      cases stands.kind
    · rintro rfl
      cases stands.kind
    · rintro (rfl | rfl)
      · have found := stands.found
        cases found
        have := even rfl
        omega
      · cases stands.kind

/-- A chain of links that is cut off at the third level is valid, since links are optional. -/
theorem chainLink_truncated_valid :
    ∃ value after, generate (.numbered [("link", .ok chainLink)]) chainLink { maxDepth := .int 3 }
        .ofHighBits = (.ok value, after) ∧
      ∀ path, validate [("link", .ok chainLink)] chainLink value path = .ok [] := by
  have isSeverable : chainLink.IsSeverable := by
    refine .object rfl (by decide) (List.forall_mem_cons.2 ⟨.boolean rfl, ?_⟩)
    exact List.forall_mem_singleton.2 (.reference rfl rfl rfl)
  have severable : Schema.Definitions.AreSeverable [("link", .ok chainLink)] := by
    intro name found mem
    cases List.mem_singleton.1 mem
    exact ⟨chainLink, rfl, isSeverable⟩
  have least : chainLink.NeedsNoFieldAt [("link", .ok chainLink)] 3 := by
    intro node reaches isObject
    have even := (chainLink_reaches reaches isObject).1 rfl
    cases even
  exact (generate_truncated_valid (.numbered [("link", .ok chainLink)])
    (Environment.numbered_hasWords _) Environment.someDay (Environment.numbered_answersFields _)
    (by decide) (by decide) severable chainLink isSeverable { maxDepth := .int 3 }
    ⟨rfl, rfl, rfl, rfl, nofun, rfl⟩ 3 ⟨0, 3, rfl, rfl, rfl⟩ least).1 .ofHighBits

/-- With one level less, the second link of the chain is cut off to an object without a mark. -/
theorem chainLink_truncated_not_valid :
    ¬ ∃ value after, generate (.numbered [("link", .ok chainLink)]) chainLink { maxDepth := .int 2 }
        .ofHighBits = (.ok value, after) ∧
      ∀ path, validate [("link", .ok chainLink)] chainLink value path = .ok [] := by
  rintro ⟨value, after, made, accepted⟩
  have issues : (generate (.numbered [("link", .ok chainLink)]) chainLink { maxDepth := .int 2 }
      .ofHighBits).1.toOption.map (fun value =>
        (validate [("link", .ok chainLink)] chainLink value []).toOption.map List.isEmpty) =
      some (some false) := by decide +kernel
  rw [made] at issues
  have none : (validate [("link", .ok chainLink)] chainLink value []).toOption.map List.isEmpty =
      some true := by rw [accepted []]; rfl
  rw [Except.toOption, Option.map_some, none] at issues
  cases issues

end Specimen
