/-
**What comes later changes nothing before it.**

Fields and items are filled one after another, and so are the samples of a batch. None of them is
filled with a look at those that follow. Of two objects from the same session, of which one has more
fields than the other one at the end, the longer one starts with the entries of the shorter one; so
do tuples with more items and batches with more samples.

* `generate_object_append` and `generate_tuple_append` are about whatever comes out, if something
  does. Nothing does if an unknown kind breaks generation off.
* `generate_lenient` says that nothing breaks it off, as long as no function of the caller does and
  nobody asks to be told of unknown kinds.

Both together are `generate_prefix`.
-/

import Specimen.CommandLine
import Specimen.Factory
import Specimen.Proofs.Validity

namespace Specimen

open Run (Gives)

/-! ### Lists of runs -/

namespace Run

variable {α β : Type}

/-- A run over two lists that gives results is one over the first list and then one over the
second. -/
theorem mapM_append_ok {step : α → Run β} {first second : List α} {session last : Session}
    {results : List β} (ended : (first ++ second).mapM step session = (.ok results, last)) :
    ∃ made others middle, results = made ++ others ∧
      first.mapM step session = (.ok made, middle) ∧
        second.mapM step middle = (.ok others, last) := by
  rw [List.mapM_append] at ended
  obtain ⟨made, middle, before, ended⟩ := bind_eq_ok ended
  obtain ⟨others, after, behind, ended⟩ := bind_eq_ok ended
  cases ended
  exact ⟨made, others, middle, rfl, before, behind⟩

end Run

namespace Make

/-- A node that is filled with a list of parts. -/
def listed {Part : Type} (wrap : List Part → Value) (parts : Run (List Part)) : Run Value := do
  pure (wrap (← parts))

/-- A node with more parts is filled with the parts of the node without them, and then with the
others. -/
theorem filled_listed_append {Part Item : Type} {wrap : List Item → Value} {step : Part → Run Item}
    {related : Part → Item → Prop} {first second : List Part} {tag : String} {context : Context}
    {session after : Session} {value : Value}
    (fails : ∀ part, (step part).FailsWith fun fault => fault.isUnknownType = true)
    (yields : ∀ part, Run.Yields (step part) (related part))
    (ended : filled tag context (listed wrap ((first ++ second).mapM step)) session =
      (.ok value, after)) :
    ∃ made others middle, List.Forall₂ related first made ∧ List.Forall₂ related second others ∧
      filled tag context (listed wrap (first.mapM step)) session = (.ok (wrap made), middle) ∧
        value = wrap (made ++ others) := by
  rcases parts : (first ++ second).mapM step session with ⟨result, last⟩
  have unknown : ∀ fault, result = .error fault → fault.isUnknownType = true := by
    rintro fault rfl
    exact Run.FailsWith.mapM (fun part _ => fails part) session fault last parts
  rw [listed, filled_map parts unknown] at ended
  cases result with
  | error fault => cases ended
  | ok results =>
    cases ended
    obtain ⟨made, others, middle, rfl, before, behind⟩ := Run.mapM_append_ok parts
    refine ⟨made, others, middle, ?_, ?_, ?_, rfl⟩
    · exact Run.Yields.mapM (fun part _ => yields part) session made middle before
    · exact Run.Yields.mapM (fun part _ => yields part) middle others after behind
    · rw [listed, filled_map before nofun]
      rfl

/-- So many copies and then some more. -/
theorem copies_add (make : Run Value) (first second : Nat) :
    copies make (first + second) = (do
      let made ← copies make first
      pure (made ++ (← copies make second))) := by
  induction first with
  | zero =>
    rw [Nat.zero_add, copies, pure_bind]
    exact (bind_pure _).symm
  | succ first hypothesis =>
    rw [Nat.succ_add, copies, copies, hypothesis]
    simp only [bind_assoc, pure_bind, List.cons_append]

/-- Fewer copies are the first ones of more. -/
theorem copies_take {make : Run Value} {fewer count : Nat} (within : fewer ≤ count)
    {session after : Session} {made : List Value}
    (ended : copies make count session = (.ok made, after)) :
    ∃ middle, copies make fewer session = (.ok (made.take fewer), middle) := by
  obtain ⟨more, rfl⟩ := Nat.exists_eq_add_of_le within
  rw [copies_add] at ended
  obtain ⟨first, middle, before, ended⟩ := Run.bind_eq_ok ended
  obtain ⟨others, last, _, ended⟩ := Run.bind_eq_ok ended
  cases ended
  have enough : first.length = fewer := by
    have ends := copies_ends make fewer session
    rw [before] at ends
    cases ends with
    | all _ enough => exact enough
  refine ⟨middle, ?_⟩
  rw [before, ← enough, List.take_left]

end Make

/-! ### Objects and tuples -/

namespace Schema

/-- The object with further fields after its own. -/
def withMoreFields (schema : Schema) (more : List (String × Schema)) : Schema :=
  match schema with
  | .node kind traits fields inner key value rest arguments items =>
    .node kind traits (some (fields.getD [] ++ more)) inner key value rest arguments items

/-- The tuple with further items after its own. -/
def withMoreItems (schema : Schema) (more : List Schema) : Schema :=
  match schema with
  | .node kind traits fields inner key value rest arguments items =>
    .node kind traits fields inner key value rest arguments (items ++ more)

variable (schema : Schema)

theorem withMoreFields_kind (more : List (String × Schema)) :
    (schema.withMoreFields more).kind = schema.kind := by
  cases schema
  rfl

theorem withMoreFields_fields (more : List (String × Schema)) :
    (schema.withMoreFields more).fields.getD [] = schema.fields.getD [] ++ more := by
  cases schema
  rfl

theorem withMoreItems_kind (more : List Schema) :
    (schema.withMoreItems more).kind = schema.kind := by
  cases schema
  rfl

theorem withMoreItems_rest (more : List Schema) :
    (schema.withMoreItems more).rest = schema.rest := by
  cases schema
  rfl

theorem withMoreItems_items (more : List Schema) :
    (schema.withMoreItems more).items = schema.items ++ more := by
  cases schema
  rfl

/-- The names of fields, as keys of a dictionary. -/
def names (fields : List (String × Schema)) : List Value := fields.map fun field => .text field.1

theorem map_fst_eq_names {fields : List (String × Schema)} {entries : List (Value × Value)}
    (each : List.Forall₂ (fun field entry => .text field.1 = entry.1) fields entries) :
    entries.map (·.1) = names fields := by
  have same : List.Forall₂ Eq (names fields) (entries.map (·.1)) :=
    List.forall₂_map_left_iff.2 (List.forall₂_map_right_iff.2 each)
  rw [List.forall₂_eq_eq_eq] at same
  exact same.symm

end Schema

section Generation

variable {environment : Environment} {context : Context} {schema : Schema}

/-- Fills a field with a bound on lazy nodes. -/
def fillField (environment : Environment) (passes : Nat) (below : Context)
    (field : String × Schema) : Run (Value × Value) := do
  pure (.text field.1,
    ← generateWithin environment passes field.2 (below.forKey (.text field.1)))

/-- An object is filled with its fields, one after another. -/
theorem generate_object_listed (kind : schema.kind = .object)
    (own : context.overrides.lookup schema.tag = none) {below : Context}
    (deeper : context.deeper = .ok (some below)) :
    generate environment schema context = Make.filled schema.tag context
      (Make.listed .dictionary ((schema.fields.getD []).mapM
        (fillField environment context.remaining below))) := by
  have rule : Make.builtin? environment (lowerWithin environment context.remaining) schema
      (schema.parts (generateWithin environment context.remaining)) =
      some (Make.object ((schema.fields.getD []).map fun field =>
        (field.1, generateWithin environment context.remaining field.2))) := by
    rw [Make.builtin?, kind]
    rfl
  rw [generate, generateWithin_eq, Make.ofNode_of_lookup own rule, Make.object, Make.guarded_eq,
    deeper, Run.lift_ok, pure_bind]
  simp only [Make.fillFields, List.mapM_map]
  rfl

/-- A tuple without a rest is filled with its items, one after another. -/
theorem generate_tuple_listed (kind : schema.kind = .tuple) (closed : schema.rest = none)
    (own : context.overrides.lookup schema.tag = none) :
    generate environment schema context = Make.filled schema.tag context
      (Make.listed .tuple (schema.items.mapM fun item =>
        generateWithin environment context.remaining item context)) := by
  have rule : Make.builtin? environment (lowerWithin environment context.remaining) schema
      (schema.parts (generateWithin environment context.remaining)) =
      some (Make.tuple (schema.items.map (generateWithin environment context.remaining)) none) := by
    rw [Make.builtin?, kind, Schema.parts, closed]
    rfl
  rw [generate, generateWithin_eq, Make.ofNode_of_lookup own rule, Make.tuple, List.mapM_map]
  simp only [Make.restItems, pure_bind, List.append_nil]
  rfl

/-- An object with further fields starts with the entries that it has without them. -/
theorem generate_object_append (kind : schema.kind = .object)
    (own : context.overrides.lookup schema.tag = none) {below : Context}
    (deeper : context.deeper = .ok (some below)) {more : List (String × Schema)}
    {session after : Session} {value : Value}
    (ended : generate environment (schema.withMoreFields more) context session =
      (.ok value, after)) :
    ∃ entries others middle, entries.map (·.1) = Schema.names (schema.fields.getD []) ∧
      others.map (·.1) = Schema.names more ∧
      generate environment schema context session = (.ok (.dictionary entries), middle) ∧
        value = .dictionary (entries ++ others) := by
  have tag : (schema.withMoreFields more).tag = schema.tag :=
    congrArg Kind.tag (schema.withMoreFields_kind more)
  have kindToo : (schema.withMoreFields more).kind = .object :=
    (schema.withMoreFields_kind more).trans kind
  rw [generate_object_listed kindToo (tag ▸ own) deeper, schema.withMoreFields_fields, tag] at ended
  have fails : ∀ field, (fillField environment context.remaining below field).FailsWith
      fun fault => fault.isUnknownType = true :=
    fun field => (generateWithin_failsWith environment _ field.2 _).bind fun made => .pure _
  have yields : ∀ field, Run.Yields (fillField environment context.remaining below field)
      fun entry => .text field.1 = entry.1 :=
    fun field => .last fun made => .pure rfl
  rw [generate_object_listed kind own deeper]
  obtain ⟨entries, others, middle, named, namedToo, made, isValue⟩ :=
    Make.filled_listed_append fails yields ended
  exact ⟨entries, others, middle, Schema.map_fst_eq_names named, Schema.map_fst_eq_names namedToo,
    made, isValue⟩

/-- A tuple with further items starts with the items that it has without them. -/
theorem generate_tuple_append (kind : schema.kind = .tuple) (closed : schema.rest = none)
    (own : context.overrides.lookup schema.tag = none) {more : List Schema}
    {session after : Session} {value : Value}
    (ended : generate environment (schema.withMoreItems more) context session =
      (.ok value, after)) :
    ∃ items others middle, items.length = schema.items.length ∧ others.length = more.length ∧
      generate environment schema context session = (.ok (.tuple items), middle) ∧
        value = .tuple (items ++ others) := by
  have tag : (schema.withMoreItems more).tag = schema.tag :=
    congrArg Kind.tag (schema.withMoreItems_kind more)
  have kindToo : (schema.withMoreItems more).kind = .tuple :=
    (schema.withMoreItems_kind more).trans kind
  have closedToo : (schema.withMoreItems more).rest = none :=
    (schema.withMoreItems_rest more).trans closed
  rw [generate_tuple_listed kindToo closedToo (tag ▸ own), schema.withMoreItems_items, tag] at ended
  rw [generate_tuple_listed kind closed own]
  obtain ⟨items, others, middle, each, eachToo, made, isValue⟩ := Make.filled_listed_append
    (fun item => generateWithin_failsWith environment _ item _) (fun _ => .trivial _) ended
  exact ⟨items, others, middle, each.length_eq.symm, eachToo.length_eq.symm, made, isValue⟩

/-! ### Batches -/

/-- A batch is made of copies of a sample. -/
theorem CommandLine.batch_eq_copies (schema : Schema) (settings : Settings) (count : Nat) :
    batch environment schema settings count =
      Make.copies (sample environment schema .null settings) count := by
  induction count with
  | zero => rfl
  | succ count hypothesis => rw [batch, Make.copies, hypothesis]

theorem Factory.createMany_eq_copies (factory : Factory) (attributes : Value) (count : Nat) :
    factory.createMany environment attributes count =
      Make.copies (factory.create environment attributes) count := by
  induction count with
  | zero => rfl
  | succ count hypothesis => rw [createMany, Make.copies, hypothesis]

end Generation

/-! ### Lenient runs -/

/-- Never failing with an unknown kind, where functions of the caller may fill the nodes of a tag.
-/
def Correspondence.tolerant {environment : Environment} (ordinary : environment.IsOrdinary) :
    Correspondence environment environment :=
  { Correspondence.ordinary ordinary with
    suits _ context := context.throwOnUnknownType.isTruthy = false
    newFunction name _ _ _ := .of_gives (Gives.newFunction name _) fun value _ => ⟨value, rfl⟩
    resolver key _ _ := ordinary.reply _ (.onKey key)
    mapper key _ _ := ordinary.reply _ (.onKey key)
    override _ _ := ordinary.invokeValue _ _
    filled _ rules := Make.filled_ordinary rules
    unfilled lenient := .of_gives (Make.unfilled_gives lenient) fun value _ => ⟨value, rfl⟩
    deeper _ _ := Context.deeper_id _
    fills := @Context.lenient_fills
    follows := @Context.lenient_follows environment }

/-- A lenient generation gives a value, also where functions of the caller fill nodes of a tag. -/
theorem generate_lenient {environment : Environment} (ordinary : environment.IsOrdinary)
    (schema : Schema) {context : Context}
    (lenient : context.throwOnUnknownType.isTruthy = false) :
    Gives (generate environment schema context) fun _ => True := by
  have suits : (Correspondence.tolerant ordinary).suits schema context := lenient
  have complete : (generate environment schema context).HasCounterpart Eq :=
    (Correspondence.tolerant ordinary).generate suits rfl
  exact complete.1.gives (generate_failsWith environment schema context)

/-! ### Prefixes -/

/-- **What comes later changes nothing before it.** In a lenient run in which nothing fails with an
unknown kind, an object gives a dictionary that starts with the entries it has without its last
fields, a tuple without a rest starts with the items it has without its last ones, and a batch
starts with the samples of a smaller batch; and so do the samples that a factory makes, if it makes
them all. -/
theorem generate_prefix {environment : Environment} (ordinary : environment.IsOrdinary)
    (session : Session) :
    (∀ schema more context below, context.throwOnUnknownType.isTruthy = false →
      schema.kind = .object → context.overrides.lookup schema.tag = none →
      context.deeper = .ok (some below) →
      ∃ entries others middle after,
        entries.map (·.1) = Schema.names (schema.fields.getD []) ∧
        others.map (·.1) = Schema.names more ∧
        generate environment schema context session = (.ok (.dictionary entries), middle) ∧
        generate environment (schema.withMoreFields more) context session =
          (.ok (.dictionary (entries ++ others)), after)) ∧
    (∀ schema more context, context.throwOnUnknownType.isTruthy = false →
      schema.kind = .tuple → schema.rest = none → context.overrides.lookup schema.tag = none →
      ∃ items others middle after,
        items.length = schema.items.length ∧ others.length = more.length ∧
        generate environment schema context session = (.ok (.tuple items), middle) ∧
        generate environment (schema.withMoreItems more) context session =
          (.ok (.tuple (items ++ others)), after)) ∧
    (∀ schema settings fewer count, Context.unknownNames settings = [] →
      (Context.ofSettings .null settings).throwOnUnknownType.isTruthy = false → fewer ≤ count →
      ∃ samples middle after, samples.length = count ∧
        CommandLine.batch environment schema settings count session = (.ok samples, after) ∧
        CommandLine.batch environment schema settings fewer session =
          (.ok (samples.take fewer), middle)) ∧
    ∀ factory attributes fewer count made after, fewer ≤ count →
      Factory.createMany environment factory attributes count session = (.ok made, after) →
      ∃ middle, Factory.createMany environment factory attributes fewer session =
        (.ok (made.take fewer), middle) := by
  refine ⟨?_, ?_, ?_, ?_⟩
  · intro schema more context below lenient kind own deeper
    obtain ⟨value, after, ended, _⟩ :=
      generate_lenient ordinary (schema.withMoreFields more) lenient session
    obtain ⟨entries, others, middle, named, namedToo, made, rfl⟩ :=
      generate_object_append kind own deeper ended
    exact ⟨entries, others, middle, after, named, namedToo, made, ended⟩
  · intro schema more context lenient kind closed own
    obtain ⟨value, after, ended, _⟩ :=
      generate_lenient ordinary (schema.withMoreItems more) lenient session
    obtain ⟨items, others, middle, enough, enoughToo, made, rfl⟩ :=
      generate_tuple_append kind closed own ended
    exact ⟨items, others, middle, after, enough, enoughToo, made, ended⟩
  · intro schema settings fewer count known lenient within
    rw [CommandLine.batch_eq_copies, CommandLine.batch_eq_copies, sample_eq known]
    obtain ⟨samples, after, ended, enough, _⟩ :=
      Make.copies_gives (generate_lenient ordinary schema lenient) count session
    obtain ⟨middle, begun⟩ := Make.copies_take within ended
    exact ⟨samples, middle, after, enough, ended, begun⟩
  · intro factory attributes fewer count made after within ended
    rw [Factory.createMany_eq_copies] at ended ⊢
    exact Make.copies_take within ended

/-- A ticket that is paid for or not. -/
def ticket : Schema := .object [("paid", .boolean)]

/-- A ticket begins like one with a seat, a tuple of one item like one of two, and two samples like
three; two copies of a constant begin with one. -/
theorem ticket_prefix :
    (∃ entries others middle after, entries.map (·.1) = [.text "paid"] ∧
      others.map (·.1) = [.text "seat"] ∧
      generate (.numbered []) ticket {} .ofHighBits = (.ok (.dictionary entries), middle) ∧
      generate (.numbered []) (ticket.withMoreFields [("seat", .number)]) {} .ofHighBits =
        (.ok (.dictionary (entries ++ others)), after)) ∧
    (∃ items others middle after, items.length = 1 ∧ others.length = 1 ∧
      generate (.numbered []) (.tuple [.boolean] none) {} .ofHighBits =
        (.ok (.tuple items), middle) ∧
      generate (.numbered []) ((Schema.tuple [.boolean] none).withMoreItems [.number]) {}
        .ofHighBits = (.ok (.tuple (items ++ others)), after)) ∧
    (∃ samples middle after, samples.length = 3 ∧
      CommandLine.batch (.numbered []) ticket [] 3 .ofHighBits = (.ok samples, after) ∧
      CommandLine.batch (.numbered []) ticket [] 2 .ofHighBits =
        (.ok (samples.take 2), middle)) ∧
    ∃ middle, Factory.createMany (.numbered [])
        ⟨.literal (.int 1), none, [], .null, [], Session.ofHighBits.source⟩ (.dictionary []) 1
        .ofHighBits = (.ok [.int 1], middle) := by
  have ordinary : (Environment.numbered []).IsOrdinary := Environment.numbered_isOrdinary nofun
  obtain ⟨objects, tuples, batches, factories⟩ := generate_prefix ordinary .ofHighBits
  have known : Context.unknownNames [] = [] := by
    unfold Context.unknownNames
    simp
  refine ⟨?_, ?_, ?_, ?_⟩
  · exact objects ticket [("seat", .number)] {} { currentDepth := .int 1 } rfl rfl rfl rfl
  · exact tuples (.tuple [.boolean] none) [.number] {} rfl rfl rfl rfl
  · exact batches ticket [] 2 3 known rfl (by decide)
  · refine factories _ _ 1 2 [.int 1, .int 1] .ofHighBits (by decide) ?_
    have one : generate (.numbered []) (.literal (.int 1)) (Context.ofSettings .null []) =
        Make.filled (Schema.literal (.int 1)).tag {} (Make.constant (.int 1) {}) :=
      generate_of_lookup rfl fun _ _ => rfl
    simp only [Factory.createMany, Factory.create, Factory.raw, Factory.sample, sample_eq known,
      one]
    rfl

/-- A function of the caller that fills nodes with the number of their fields. -/
def Environment.tallying : Environment :=
  { numbered [] with
    invoke _ invocation :=
      match invocation with
      | .onNode schema _ => pure (.value (.dictionary
          [(.text "fields", .int (schema.fields.getD []).length)]))
      | _ => pure (.value .null) }

/-- An unknown kind that a function of the caller fails with in a later field, be it one that is
asked for a generator, for a text or for the value of a node, leaves nothing of the object; and a
function of the caller that fills the object itself may look at all of its fields. -/
theorem generate_not_prefix :
    ((generate (.ofStock [] [.fail (.unknownType "mystery")]) ticket { resolver := some ⟨0⟩ }
        .ofHighBits).1.toOption.isSome = true ∧
      (generate (.ofStock [] [.fail (.unknownType "mystery")])
        (ticket.withMoreFields [("seat", .string)]) { resolver := some ⟨0⟩ }
        .ofHighBits).1.toOption.isSome = false) ∧
    ((generate (.ofStock [] [.fail (.unknownType "mystery")])
        (ticket.withMoreFields [("seat", .string)]) { stringMap := [("seat", ⟨0⟩)] }
        .ofHighBits).1.toOption.isSome = false ∧
      (generate (.ofStock [] [.fail (.unknownType "mystery")])
        (ticket.withMoreFields [("seat", Schema.null.transform ⟨0⟩)]) {}
        .ofHighBits).1.toOption.isSome = false) ∧
    ∃ entries others : List (Value × Value), ¬ entries <+: others ∧
      (generate .tallying ticket { overrides := [("object", ⟨0⟩)] } .ofHighBits).1 =
        .ok (.dictionary entries) ∧
      (generate .tallying (ticket.withMoreFields [("seat", .string)])
        { overrides := [("object", ⟨0⟩)] } .ofHighBits).1 = .ok (.dictionary others) := by
  refine ⟨⟨by decide +kernel, by decide +kernel⟩, ⟨by decide +kernel, by decide +kernel⟩,
    [(.text "fields", .int 1)], [(.text "fields", .int 2)], ?_, ?_, ?_⟩
  · rintro ⟨more, same⟩
    cases same
  · rw [generate, generateWithin_eq]
    rfl
  · rw [generate, generateWithin_eq]
    rfl

end Specimen
