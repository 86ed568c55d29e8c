/-
**Written samples still conform.**

A sample that a schema accepts is accepted once it has been written as JSON and read again, as far
as the schema has no sets and compares with JSON values alone. The exception are checks that fail
instead of answering: a tuple becomes a list, and a judge that refused the tuple for its type may
look into the list. So validation has no issue with what was written, but it may fail
(`validate_rendered`), unless there are no tuples.
-/

import Specimen.Proofs.NestingBound
import Specimen.Proofs.Rendering
import Specimen.Proofs.Unfolding

namespace Specimen

/-! ### Judgements of rendered values -/

/-- One judgement carries over to another one: that has no issues if the first has none, and where
it should always answer, it does so if the first does. -/
structure Carries (always : Prop) (before after : Except Fault (List Issue)) : Prop where
  silent : before = .ok [] → ∀ issues, after = .ok issues → issues = []
  answers : always → ∀ issues, before = .ok issues → ∃ others, after = .ok others

namespace Carries

variable {always : Prop} {before after : Except Fault (List Issue)}

theorem refl (result : Except Fault (List Issue)) : Carries always result result where
  silent accepted issues found := by
    rw [accepted] at found
    exact (Except.ok.inj found).symm
  answers _ issues found := ⟨issues, found⟩

theorem refused (refuses : before ≠ .ok []) (answered : always → ∃ issues, after = .ok issues) :
    Carries always before after where
  silent accepted := absurd accepted refuses
  answers isAlways _ _ := answered isAlways

theorem accepted (accepts : after = .ok []) : Carries always before after where
  silent _ issues found := by
    rw [accepts] at found
    exact (Except.ok.inj found).symm
  answers _ _ _ := ⟨[], accepts⟩

theorem reported (first : ∃ issue, before = .ok [issue]) (second : ∃ issue, after = .ok [issue]) :
    Carries always before after := by
  obtain ⟨issue, found⟩ := first
  obtain ⟨other, later⟩ := second
  refine .refused ?_ fun _ => ⟨[other], later⟩
  rw [found]
  exact nofun

theorem failed {fault : Fault} (fails : before = .error fault) : Carries always before after where
  silent accepted := by
    rw [fails] at accepted
    cases accepted
  answers _ issues found := by
    rw [fails] at found
    cases found

/-- Issues that are found one after another are found again. -/
theorem append {first second : Except Fault (List Issue)} (carries : Carries always before after)
    (others : Carries always first second) :
    Carries always (do pure ((← before) ++ (← first))) (do pure ((← after) ++ (← second))) := by
  cases earlier : before with
  | error fault => exact .failed rfl
  | ok issues =>
    cases next : first with
    | error fault => exact .failed rfl
    | ok more =>
      refine ⟨fun accepted found answered => ?_, fun isAlways found answered => ?_⟩
      · obtain ⟨rfl, rfl⟩ := List.append_eq_nil_iff.1 (Except.ok.inj accepted)
        cases later : after with
        | error fault =>
          rw [later] at answered
          cases answered
        | ok here =>
          cases last : second with
          | error fault =>
            rw [later, last] at answered
            cases answered
          | ok there =>
            rw [later, last, carries.silent earlier here later, others.silent next there last]
              at answered
            exact (Except.ok.inj answered).symm
      · obtain ⟨here, later⟩ := carries.answers isAlways issues earlier
        obtain ⟨there, last⟩ := others.answers isAlways more next
        exact ⟨here ++ there, by rw [later, last]; rfl⟩

theorem prepend (issues : List Issue) (carries : Carries always before after) :
    Carries always (do pure (issues ++ (← before))) (do pure (issues ++ (← after))) :=
  (refl (.ok issues)).append carries

end Carries

namespace Judge

variable {Subject : Type} {judge : Subject → Except Fault (List Issue)} {subjects : List Subject}

/-- Judgements that are gathered carry over if each of the later ones is carried over from one of
the first. -/
theorem gather_carries {always : Prop} {Other : Type} {later : Other → Except Fault (List Issue)}
    {others : List Other} (each : ∀ other ∈ others, ∃ subject ∈ subjects,
      Carries always (judge subject) (later other)) :
    Carries always (gather judge subjects) (gather later others) where
  silent accepted issues found := by
    have silent : ∀ other ∈ others, later other = .ok [] := by
      intro other mem
      obtain ⟨subject, listed, carries⟩ := each other mem
      obtain ⟨here, answered⟩ := gather_answers_iff.1 ⟨issues, found⟩ other mem
      rw [answered, carries.silent (gather_accepts_iff.1 accepted subject listed) here answered]
    rw [gather_accepts_iff.2 silent] at found
    exact (Except.ok.inj found).symm
  answers isAlways issues found := by
    refine gather_answers_iff.2 fun other mem => ?_
    obtain ⟨subject, listed, carries⟩ := each other mem
    obtain ⟨here, answered⟩ := gather_answers_iff.1 ⟨issues, found⟩ subject listed
    exact carries.answers isAlways here answered

/-! ### Judges of rendered values -/

/-- The verdict of the first judge on a value carries over to that of the second judge on what is
read back of the value. It always does so with an answer if there are no tuples. -/
def Carries (tuples : Bool) (before after : Judge) (subject : Value) : Prop :=
  ∀ path, Specimen.Carries (tuples = false) (before subject path) (after subject.rendered path)

end Judge

namespace Judge

variable {tuples : Bool} {subject : Value}

/-- A judge that refuses lists, tuples and dictionaries carries over to itself. -/
theorem leaf_carries {judge : Judge} (plain : subject.IsMember tuples)
    (refuses : ∀ value path, value.isCollection = true → ∃ issue, judge value path = .ok [issue]) :
    Carries tuples judge judge subject := by
  intro path
  cases plain.shape with
  | single _ same =>
    rw [same]
    exact .refl _
  | list _ same | tuple _ _ same | dictionary _ _ _ same =>
    rw [same]
    exact .reported (refuses _ path rfl) (refuses _ path rfl)

/-- A judge that compares with JSON values carries over to itself. -/
theorem compared_carries {judge : Judge} (plain : subject.IsMember tuples)
    (answers : ∀ value path, ∃ issues, judge value path = .ok issues)
    (same : ∀ path, judge subject path = .ok [] →
      ∃ json, subject.same (Value.ofJson json) = true) : Carries tuples judge judge subject := by
  intro path
  by_cases absent : subject = .absent
  · rw [absent]
    exact .refl _
  by_cases accepted : judge subject path = .ok []
  · obtain ⟨json, isSame⟩ := same path accepted
    rw [(plain absent).rendered_of_same isSame]
    exact .refl _
  · exact .refused accepted fun _ => answers _ path

/-! ### Collections -/

section Collections

variable {before after : Schema → Judge}

/-- Judges of children carry over, on whatever a value may contain. -/
abbrev CarryOver (tuples : Bool) (before after : Schema → Judge) (children : List Schema) : Prop :=
  ∀ child ∈ children, ∀ part : Value, part.IsMember tuples →
    Carries tuples (before child) (after child) part

theorem ofChild_carries {child : Option Schema} (each : CarryOver tuples before after child.toList)
    {part : Value} (plain : part.IsMember tuples) :
    Carries tuples (ofChild (child.map before)) (ofChild (child.map after)) part := by
  cases child with
  | none => exact fun path => .failed rfl
  | some schema => exact each schema (List.mem_singleton_self _) part plain

theorem object_carries {fields : List (String × Schema)}
    (each : CarryOver tuples before after (fields.map (·.2))) (plain : subject.IsMember tuples) :
    Carries tuples (object (fields.map fun field => (field.1, before field.2)))
      (object (fields.map fun field => (field.1, after field.2))) subject := by
  intro path
  cases plain.shape with
  | single single same =>
    rw [same]
    cases subject <;> first | exact .reported ⟨_, rfl⟩ ⟨_, rfl⟩ | cases single
  | list _ same | tuple _ _ same =>
    rw [same]
    exact .reported ⟨_, rfl⟩ ⟨_, rfl⟩
  | @dictionary entries distinct texts members same =>
    rw [same]
    refine gather_carries fun other mem => ?_
    obtain ⟨field, listed, rfl⟩ := List.mem_map.1 mem
    refine ⟨(field.1, before field.2), List.mem_map_of_mem listed, ?_⟩
    have part : ((Value.field? entries field.1).getD .absent).IsMember tuples := by
      intro present
      cases found : Value.field? entries field.1 with
      | none =>
        rw [found] at present
        exact absurd rfl present
      | some value =>
        rw [found] at present
        obtain ⟨entry, isEntry, rfl⟩ := Option.map_eq_some_iff.1 found
        exact members entry (List.mem_of_find?_eq_some isEntry) present
    simp only [Value.field_rendered distinct texts]
    exact each field.2 (List.mem_map_of_mem listed) _ part _

/-- Items that are judged by their places carry over if each of them does. -/
theorem items_carry {first second : Nat → Judge} {items : List Value}
    (each : ∀ item ∈ items, ∀ place, Carries tuples (first place) (second place) item)
    (path : Path) : Specimen.Carries (tuples = false)
      (gather (fun item => first item.2 item.1 (path ++ [.position item.2])) items.zipIdx)
      (gather (fun item => second item.2 item.1 (path ++ [.position item.2]))
        (items.map Value.rendered).zipIdx) := by
  refine gather_carries fun other mem => ?_
  rw [List.zipIdx_map, List.mem_map] at mem
  obtain ⟨item, listed, rfl⟩ := mem
  exact ⟨item, listed, each item.1 (List.fst_mem_of_mem_zipIdx listed) item.2 _⟩

theorem array_carries (checks : List Check) {child : Option Schema}
    (each : CarryOver tuples before after child.toList) (plain : subject.IsMember tuples) :
    Carries tuples (array checks (ofChild (child.map before)))
      (array checks (ofChild (child.map after))) subject := by
  intro path
  cases plain.shape with
  | single single same =>
    rw [same]
    cases subject <;> first | exact .reported ⟨_, rfl⟩ ⟨_, rfl⟩ | cases single
  | dictionary _ _ _ same =>
    rw [same]
    exact .reported ⟨_, rfl⟩ ⟨_, rfl⟩
  | tuple allowed =>
    refine .refused nofun fun none => ?_
    rw [allowed] at none
    cases none
  | @list items members same =>
    rw [same]
    have element : ∀ item ∈ items, ∀ _ : Nat,
        Carries tuples (ofChild (child.map before)) (ofChild (child.map after)) item :=
      fun item mem _ => ofChild_carries each fun _ => members item mem
    unfold array
    simp only [List.length_map]
    exact (items_carry element path).prepend _

theorem mapping_carries (tag : String) {key value : Option Schema}
    (keys : CarryOver tuples before after key.toList)
    (values : CarryOver tuples before after value.toList) (plain : subject.IsMember tuples) :
    Carries tuples (mapping tag (ofChild (key.map before)) (ofChild (value.map before)))
      (mapping tag (ofChild (key.map after)) (ofChild (value.map after))) subject := by
  intro path
  cases plain.shape with
  | single single same =>
    rw [same]
    cases subject <;> first | exact .reported ⟨_, rfl⟩ ⟨_, rfl⟩ | cases single
  | list _ same | tuple _ _ same =>
    rw [same]
    exact .reported ⟨_, rfl⟩ ⟨_, rfl⟩
  | @dictionary entries distinct texts members same =>
    rw [same]
    refine gather_carries fun other mem => ?_
    obtain ⟨⟨entryKey, entryValue⟩, listed, found⟩ := List.mem_filterMap.1 mem
    refine ⟨(entryKey, entryValue), listed, ?_⟩
    unfold Value.renderedEntry at found
    split at found
    · cases found
    · cases found
      obtain ⟨name, isName⟩ := texts _ listed
      simp only at isName
      subst isName
      exact (ofChild_carries keys (fun _ => .text name) (path ++ [.name name])).append
        (ofChild_carries values (members _ listed) (path ++ [.name name]))

theorem tuple_carries {items : List Schema} {rest : Option Schema}
    (each : CarryOver tuples before after items) (following : CarryOver tuples before after rest.toList)
    (plain : subject.IsMember tuples) :
    Carries tuples (tuple (items.map before) (rest.map before))
      (tuple (items.map after) (rest.map after)) subject := by
  have place : ∀ item : Value, item.IsPortable tuples → ∀ place : Nat, Carries tuples
      ((items.map before)[place]?.getD (ofChild (rest.map before)))
      ((items.map after)[place]?.getD (ofChild (rest.map after))) item := by
    intro item portable place
    rw [List.getElem?_map, List.getElem?_map]
    cases found : items[place]? with
    | none => exact ofChild_carries following fun _ => portable
    | some child => exact each child (List.mem_of_getElem? found) item fun _ => portable
  have counted : ∀ members : List Value, (∀ item ∈ members, item.IsPortable tuples) → ∀ path,
      Specimen.Carries (tuples = false) (tuple (items.map before) (rest.map before) (.list members) path)
        (tuple (items.map after) (rest.map after) (.list (members.map Value.rendered)) path) := by
    intro members portable path
    unfold tuple
    simp only [positions?, List.length_map, Option.isNone_map]
    split
    · exact .reported ⟨_, rfl⟩ ⟨_, rfl⟩
    · exact items_carry (fun item mem => place item (portable item mem)) path
  intro path
  cases plain.shape with
  | single single same =>
    rw [same]
    cases subject <;> first | exact .reported ⟨_, rfl⟩ ⟨_, rfl⟩ | cases single
  | dictionary _ _ _ same =>
    rw [same]
    exact .reported ⟨_, rfl⟩ ⟨_, rfl⟩
  | list members same | tuple _ members same =>
    rw [same]
    exact counted _ members path

end Collections

/-! ### Combinations -/

section Combinations

variable {before after : Schema → Judge} {options : List Schema}
variable (each : ∀ option ∈ options, Carries tuples (before option) (after option) subject)

include each

/-- An option that accepts a value does not refuse what is read back of it. -/
theorem anyAccepts_silent (path : Path)
    (accepted : anyAccepts (options.map before) subject path = .ok true) {answer : Bool}
    (found : anyAccepts (options.map after) subject.rendered path = .ok answer) : answer = true := by
  induction options with
  | nil => cases accepted
  | cons first rest hypothesis =>
    rw [List.forall_mem_cons] at each
    rw [List.map_cons, anyAccepts] at accepted found
    cases earlier : before first subject path with
    | error fault =>
      rw [earlier] at accepted
      cases accepted
    | ok issues =>
      cases later : after first subject.rendered path with
      | error fault =>
        rw [later] at found
        cases found
      | ok others =>
        rw [earlier] at accepted
        rw [later] at found
        cases others with
        | nil =>
          cases found
          rfl
        | cons issue more =>
          cases issues with
          | nil => cases (each.1 path).silent earlier _ later
          | cons => exact hypothesis each.2 accepted found

theorem anyAccepts_carries (none : tuples = false) (path : Path) {answer : Bool}
    (found : anyAccepts (options.map before) subject path = .ok answer) :
    ∃ other, anyAccepts (options.map after) subject.rendered path = .ok other := by
  induction options with
  | nil => exact ⟨_, rfl⟩
  | cons first rest hypothesis =>
    rw [List.forall_mem_cons] at each
    rw [List.map_cons, anyAccepts] at found ⊢
    cases earlier : before first subject path with
    | error fault =>
      rw [earlier] at found
      cases found
    | ok issues =>
      obtain ⟨others, later⟩ := (each.1 path).answers none issues earlier
      rw [earlier] at found
      rw [later]
      cases others with
      | nil => exact ⟨true, rfl⟩
      | cons issue more =>
        cases issues with
        | nil => cases (each.1 path).silent earlier _ later
        | cons => exact hypothesis each.2 found

theorem union_carries : Carries tuples (union (options.map before)) (union (options.map after))
    subject := by
  intro path
  refine ⟨fun accepted issues found => ?_, fun none issues found => ?_⟩
  · cases earlier : anyAccepts (options.map before) subject path with
    | error fault =>
      rw [union, earlier] at accepted
      cases accepted
    | ok answer =>
      cases answer with
      | false =>
        rw [union, earlier] at accepted
        cases accepted
      | true =>
        cases later : anyAccepts (options.map after) subject.rendered path with
        | error fault =>
          rw [union, later] at found
          cases found
        | ok other =>
          rw [union, later, anyAccepts_silent each path earlier later] at found
          cases found
          rfl
  · cases earlier : anyAccepts (options.map before) subject path with
    | error fault =>
      rw [union, earlier] at found
      cases found
    | ok answer =>
      obtain ⟨other, later⟩ := anyAccepts_carries each none path earlier
      rw [union, later]
      cases other <;> exact ⟨_, rfl⟩

theorem intersection_carries : Carries tuples (intersection (options.map before))
    (intersection (options.map after)) subject := by
  intro path
  refine gather_carries fun other mem => ?_
  obtain ⟨option, listed, rfl⟩ := List.mem_map.1 mem
  exact ⟨before option, List.mem_map_of_mem listed, each option listed path⟩

end Combinations

end Judge

/-! ### Comparisons and wrappers -/

namespace Judge

variable {tuples : Bool} {subject : Value}

theorem oneOf_carries {values : List Value} (plain : subject.IsMember tuples)
    (json : ∀ value ∈ values, ∃ json, value = Value.ofJson json) :
    Carries tuples (oneOf values) (oneOf values) subject := by
  refine compared_carries plain (fun value path => ?_) fun path accepted => ?_
  · unfold oneOf
    simp only
    split <;> exact ⟨_, rfl⟩
  · have direct : memberValue subject = subject := by
      by_cases absent : subject = .absent
      · rw [absent]
        rfl
      · cases plain absent <;> rfl
    rw [oneOf, direct] at accepted
    split at accepted
    · next mem =>
      obtain ⟨value, listed, same⟩ := List.any_eq_true.1 mem
      obtain ⟨json, rfl⟩ := json value listed
      exact ⟨json, same⟩
    · cases accepted

theorem literal_carries {expected : Value} (plain : subject.IsMember tuples)
    (json : ∃ json, expected = Value.ofJson json) :
    Carries tuples (literal expected) (literal expected) subject := by
  refine compared_carries plain (fun value path => ?_) fun path accepted => ?_
  · unfold literal
    split <;> exact ⟨_, rfl⟩
  · obtain ⟨json, rfl⟩ := json
    unfold literal at accepted
    split at accepted
    · next equal =>
      rw [Bool.and_eq_true, Value.equals, Bool.and_eq_true] at equal
      exact ⟨json, equal.1.2⟩
    · cases accepted

variable {before after : Judge} (carries : Carries tuples before after subject)
variable (plain : subject.IsMember tuples)

include carries plain

theorem optional_carries : Carries tuples (optional before) (optional after) subject := by
  intro path
  unfold optional
  rw [plain.isAbsent_rendered]
  split
  · exact .accepted rfl
  · exact carries path

theorem nullable_carries : Carries tuples (nullable before) (nullable after) subject := by
  intro path
  unfold nullable
  rw [plain.isNull_rendered]
  split
  · exact .accepted rfl
  · exact carries path

end Judge

/-! ### Nodes -/

namespace Schema

/-- The node is no set, and it compares with JSON values alone. -/
structure IsIndifferent (schema : Schema) : Prop where
  notSet : schema.kind ≠ .set
  literal : schema.kind = .literal → ∃ json, schema.traits.literal = Value.ofJson json
  values : schema.kind = .enumeration ∨ schema.kind = .nativeEnumeration →
    ∀ value ∈ schema.traits.values, ∃ json, value = Value.ofJson json

end Schema

namespace Judge

variable {definitions : Schema.Definitions} {lower later before after : Schema → Judge}
variable {schema : Schema} {tuples : Bool} {subject : Value}

/-- The judge of a node carries over if those of its children do, and what it stands for. -/
theorem ofNode_carries (indifferent : schema.IsIndifferent)
    (children : CarryOver tuples before after schema.judged)
    (definition : ∀ target, schema.StandsFor definitions target →
      Carries tuples (lower target) (later target) subject)
    (plain : subject.IsMember tuples) :
    Carries tuples (ofNode definitions lower schema (schema.parts before))
      (ofNode definitions later schema (schema.parts after)) subject := by
  have ofKind : Carries tuples (ofKind definitions lower schema (schema.parts before))
      (ofKind definitions later schema (schema.parts after)) subject := by
    unfold Judge.ofKind
    unfold Schema.judged at children
    cases kind : schema.kind <;> simp only [kind] at children ⊢
    case string | number | bigint | boolean | date | function | promise | void | undefined | null | nan =>
      refine leaf_carries plain fun value path collection => ?_
      cases value <;> first | exact ⟨_, rfl⟩ | cases collection
    case any | unknown | effects | other => exact fun path => .accepted rfl
    case object => exact object_carries children plain
    case array => exact array_carries _ children plain
    case set => exact absurd kind indifferent.notSet
    case map | record =>
      exact mapping_carries _ (fun child mem => children child (List.mem_append_left _ mem))
        (fun child mem => children child (List.mem_append_right _ mem)) plain
    case tuple =>
      exact tuple_carries (fun child mem => children child (List.mem_append_left _ mem))
        (fun child mem => children child (List.mem_append_right _ mem)) plain
    case union | discriminatedUnion =>
      exact union_carries fun option mem => children option mem subject plain
    case intersection => exact intersection_carries fun option mem => children option mem subject plain
    case enumeration => exact oneOf_carries plain (indifferent.values (.inl kind))
    case nativeEnumeration => exact oneOf_carries plain (indifferent.values (.inr kind))
    case literal => exact literal_carries plain (indifferent.literal kind)
    case optional | default => exact optional_carries (ofChild_carries children plain) plain
    case nullable => exact nullable_carries (ofChild_carries children plain) plain
    case branded => exact ofChild_carries children plain
    case lazy =>
      intro path
      unfold deferred
      cases found : schema.resolve definitions with
      | error fault => exact .failed rfl
      | ok target => exact definition target ⟨kind, found⟩ path
  intro path
  unfold ofNode
  rw [plain.isAbsent_rendered]
  split
  · exact .reported ⟨_, rfl⟩ ⟨_, rfl⟩
  · exact ofKind path

end Judge

/-! ### Validation -/

namespace Schema

variable {definitions : Definitions} {schema : Schema} {tuples : Bool}

/-- A validation that passes so many lazy nodes carries over to any validation of what is read back.
-/
theorem validateWithin_carries (defined : ∀ name target, (name, .ok target) ∈ definitions →
      target.Everywhere IsIndifferent) (passes : Nat) (indifferent : schema.Everywhere IsIndifferent)
    {subject : Value} (plain : subject.IsMember tuples) :
    Judge.Carries tuples (validateWithin definitions passes schema) (validate definitions schema)
      subject := by
  have fold : ∀ lower : Schema → Judge, (∀ target : Schema, target.Everywhere IsIndifferent →
      ∀ part : Value, part.IsMember tuples →
        Judge.Carries tuples (lower target) (validate definitions target) part) →
      ∀ schema : Schema, schema.Everywhere IsIndifferent → ∀ part : Value, part.IsMember tuples →
        Judge.Carries tuples (Schema.fold (Judge.ofNode definitions lower) schema)
          (validate definitions schema) part := by
    intro lower definition schema
    induction schema using Schema.byParts with
    | step schema hypothesis =>
      intro indifferent part plain
      rw [fold_eq, validate_eq]
      refine Judge.ofNode_carries indifferent.here (fun child mem piece member => ?_)
        (fun target stands => ?_) plain
      · have listed := mem_children_of_judged mem
        exact hypothesis child listed (indifferent.inside child listed) piece member
      · obtain ⟨name, mem⟩ := resolve_mem stands.found
        exact definition target (defined name target mem) part plain
  induction passes generalizing schema subject with
  | zero => exact fold _ (fun _ _ _ _ path => .failed rfl) schema indifferent subject plain
  | succ passes hypothesis =>
    exact fold _ (fun target indifferent part plain => hypothesis indifferent plain) schema
      indifferent subject plain

end Schema

end Specimen
