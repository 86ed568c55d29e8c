/-
**What a judge asks its children.**

The judge of a node asks judges of some of its children, about the value itself or about a part of
it, and the judge of a lazy node asks that of a definition. It makes no other use of them: where one
family of judges gives the verdicts of another one, as far as it gives any, so do the judges of
nodes that are made from them (`Judge.ofNode_approximates`).
-/

import Specimen.Validation

namespace Specimen

/-! ### Parts of values -/

namespace Value

/-- What a judge finds in a value: the members of a collection, the keys and values of a dictionary.
-/
def contents : Value → List Value
  | .list items => items
  | .tuple items => items
  | .set members _ => members
  | .dictionary entries => entries.flatMap fun entry => [entry.1, entry.2]
  | _ => []

theorem mem_contents_dictionary {entries : List (Value × Value)} {entry : Value × Value}
    (mem : entry ∈ entries) : entry.1 ∈ (Value.dictionary entries).contents ∧
      entry.2 ∈ (Value.dictionary entries).contents := by
  have both : ∀ part ∈ [entry.1, entry.2], part ∈ (Value.dictionary entries).contents :=
    fun part listed => List.mem_flatMap.2 ⟨entry, mem, listed⟩
  exact ⟨both _ (by simp), both _ (by simp)⟩

/-- What judges of children may be asked about: what is in the value, and the absent value for what
a dictionary lacks. -/
inductive Offers (subject : Value) : Value → Prop
  | content {part : Value} (mem : part ∈ subject.contents) : Offers subject part
  | lacking {entries : List (Value × Value)} (isDictionary : subject = .dictionary entries) :
      Offers subject .absent

/-- A field of a dictionary is one of its values, or it is lacking. -/
theorem offers_field (entries : List (Value × Value)) (name : String) :
    (Value.dictionary entries).Offers ((field? entries name).getD .absent) := by
  unfold field? lookup?
  cases found : entries.find? fun entry => (Value.text name).same entry.1 with
  | none => exact .lacking rfl
  | some entry => exact .content (mem_contents_dictionary (List.mem_of_find?_eq_some found)).2

/-- An item is no deeper than all items are. -/
theorem depth_le_items {item : Value} {items : List Value} (mem : item ∈ items) :
    item.depth ≤ depthItems items := by
  induction items with
  | nil => cases mem
  | cons first rest hypothesis =>
    rw [depthItems]
    rcases List.mem_cons.1 mem with rfl | later
    · exact Nat.le_max_left ..
    · exact Nat.le_trans (hypothesis later) (Nat.le_max_right ..)

theorem depth_le_entries {entry : Value × Value} {entries : List (Value × Value)}
    (mem : entry ∈ entries) :
    entry.1.depth ≤ depthEntries entries ∧ entry.2.depth ≤ depthEntries entries := by
  induction entries with
  | nil => cases mem
  | cons first rest hypothesis =>
    obtain ⟨key, value⟩ := first
    rw [depthEntries]
    rcases List.mem_cons.1 mem with rfl | later
    · show key.depth ≤ _ ∧ value.depth ≤ _
      exact ⟨by omega, by omega⟩
    · obtain ⟨ofKey, ofValue⟩ := hypothesis later
      exact ⟨by omega, by omega⟩

/-- The parts of a value are less deep. -/
theorem Offers.depth_lt {subject part : Value} (offers : subject.Offers part) :
    part.depth < subject.depth := by
  cases offers with
  | content mem =>
    cases subject with
    | list _ | tuple _ | set _ _ => exact Nat.lt_succ_of_le (depth_le_items mem)
    | dictionary entries =>
      obtain ⟨entry, listed, isPart⟩ := List.mem_flatMap.1 mem
      obtain ⟨ofKey, ofValue⟩ := depth_le_entries listed
      have both : ∀ part ∈ [entry.1, entry.2], part.depth ≤ depthEntries entries :=
        List.forall_mem_cons.2 ⟨ofKey, List.forall_mem_singleton.2 ofValue⟩
      exact Nat.lt_succ_of_le (both part isPart)
    | _ => cases mem
  | lacking isDictionary =>
    rw [isDictionary]
    exact Nat.succ_pos _

end Value

/-! ### What judges look at -/

namespace Schema

/-- The children that a judge looks at. -/
def judged (schema : Schema) : List Schema :=
  match schema.kind with
  | .object => (schema.fields.getD []).map (·.2)
  | .array | .set | .optional | .nullable | .default | .branded => schema.inner.toList
  | .map | .record => schema.key.toList ++ schema.value.toList
  | .tuple => schema.items ++ schema.rest.toList
  | .union | .discriminatedUnion | .intersection => schema.items
  | _ => []

/-- The children that are asked about the value itself. -/
def handed (schema : Schema) : List Schema :=
  match schema.kind with
  | .optional | .nullable | .default | .branded => schema.inner.toList
  | .union | .discriminatedUnion | .intersection => schema.items
  | _ => []

/-- A lazy node stands for a definition. -/
structure StandsFor (definitions : Definitions) (schema target : Schema) : Prop where
  kind : schema.kind = .lazy
  found : schema.resolve definitions = .ok target

/-- What is handed the value itself is judged. -/
theorem mem_judged_of_handed {schema child : Schema} (mem : child ∈ schema.handed) :
    child ∈ schema.judged := by
  unfold handed at mem
  unfold judged
  cases kind : schema.kind <;> rw [kind] at mem <;> first | exact mem | cases mem

/-- What is judged is a child. -/
theorem mem_children_of_judged {schema child : Schema} (mem : child ∈ schema.judged) :
    child ∈ schema.children := by
  unfold judged at mem
  unfold children
  cases kind : schema.kind <;> simp only [kind, List.mem_append] at mem ⊢
  case map | record | tuple => rcases mem with mem | mem <;> simp only [mem, true_or, or_true]
  case object | array | set | optional | nullable | default | branded | union | discriminatedUnion
    | intersection => simp only [mem, true_or, or_true]
  all_goals cases mem

end Schema

namespace Judge

/-! ### Approximation -/

/-- The first result is that of a walk that was cut short, or else it is the second one. -/
def Approximates {α : Type} (first second : Except Fault α) : Prop :=
  first = .error .endlessReference ∨ first = second

namespace Approximates

variable {α β : Type}

theorem refl (result : Except Fault α) : Approximates result result := .inr rfl

theorem trans {first second third : Except Fault α} (left : Approximates first second)
    (right : Approximates second third) : Approximates first third := by
  rcases left with cut | rfl
  · exact .inl cut
  · exact right

theorem antisymm {first second : Except Fault α} (left : Approximates first second)
    (right : Approximates second first) : first = second := by
  rcases left with cut | same
  · rcases right with cutToo | same
    · rw [cut, cutToo]
    · exact same.symm
  · exact same

/-- A result that is not cut short is the other one. -/
theorem eq {first second : Except Fault α} (approximates : Approximates first second)
    (whole : first ≠ .error .endlessReference) : first = second :=
  approximates.resolve_left whole

/-- Approximations can be composed step by step. -/
theorem bind {first second : Except Fault α} {next other : α → Except Fault β}
    (begun : Approximates first second) (goesOn : ∀ value, Approximates (next value) (other value)) :
    Approximates (first >>= next) (second >>= other) := by
  rcases begun with rfl | rfl
  · exact .inl rfl
  · cases first with
    | ok value => exact goesOn value
    | error fault => exact .refl _

/-- The rest of a judgement is the same on both sides. -/
theorem andThen {first second : Except Fault α} (begun : Approximates first second)
    (next : α → Except Fault β) : Approximates (first >>= next) (second >>= next) :=
  begun.bind fun _ => .refl _

end Approximates

/-- Gathering over changed subjects is gathering with a changed judge. -/
theorem gather_map {Subject Other : Type} (judge : Other → Except Fault (List Issue))
    (change : Subject → Other) (subjects : List Subject) :
    gather judge (subjects.map change) = gather (fun subject => judge (change subject)) subjects := by
  unfold gather
  rw [List.mapM_map]
  rfl

/-- The issues of the first come before those of the others. -/
theorem gather_cons {Subject : Type} (judge : Subject → Except Fault (List Issue)) (first : Subject)
    (rest : List Subject) :
    gather judge (first :: rest) = (do pure ((← judge first) ++ (← gather judge rest))) := by
  unfold gather
  rw [List.mapM_cons]
  cases judge first with
  | error fault => rfl
  | ok issues => cases rest.mapM judge <;> rfl

/-- Two judgements one after another are silent if both are. -/
theorem append_accepts_iff {first second : Except Fault (List Issue)} :
    (do pure ((← first) ++ (← second)) : Except Fault (List Issue)) = .ok [] ↔
      first = .ok [] ∧ second = .ok [] := by
  cases first with
  | error fault => exact iff_of_false nofun fun both => nomatch both.1
  | ok issues =>
    cases second with
    | error fault => exact iff_of_false nofun fun both => nomatch both.2
    | ok others =>
      rw [Except.ok.injEq, Except.ok.injEq, ← List.append_eq_nil_iff]
      exact ⟨Except.ok.inj, congrArg Except.ok⟩

/-- Two judgements one after another give an answer if both do. -/
theorem append_answers_iff {first second : Except Fault (List Issue)} :
    (∃ issues, (do pure ((← first) ++ (← second)) : Except Fault (List Issue)) = .ok issues) ↔
      (∃ issues, first = .ok issues) ∧ ∃ issues, second = .ok issues := by
  cases first with
  | error fault => exact iff_of_false (fun answered => nomatch answered) fun both => nomatch both.1
  | ok issues =>
    cases second with
    | error fault => exact iff_of_false (fun answered => nomatch answered) fun both => nomatch both.2
    | ok others => exact iff_of_true ⟨_, rfl⟩ ⟨⟨_, rfl⟩, _, rfl⟩

section Gather

variable {Subject : Type} {judge : Subject → Except Fault (List Issue)} {subjects : List Subject}

/-- There is no issue among those that are gathered exactly if no subject has one. -/
theorem gather_accepts_iff :
    gather judge subjects = .ok [] ↔ ∀ subject ∈ subjects, judge subject = .ok [] := by
  induction subjects with
  | nil => exact iff_of_true rfl (List.forall_mem_nil _)
  | cons first rest hypothesis =>
    rw [gather_cons, append_accepts_iff, hypothesis, List.forall_mem_cons]

/-- Gathering has a result exactly if every judgement has one. -/
theorem gather_answers_iff : (∃ issues, gather judge subjects = .ok issues) ↔
    ∀ subject ∈ subjects, ∃ issues, judge subject = .ok issues := by
  induction subjects with
  | nil => exact iff_of_true ⟨[], rfl⟩ (List.forall_mem_nil _)
  | cons first rest hypothesis =>
    rw [gather_cons, append_answers_iff, hypothesis, List.forall_mem_cons]

end Gather

/-- Gathering approximates if every judgement does. -/
theorem gather_approximates {Subject : Type} {judge other : Subject → Except Fault (List Issue)}
    {subjects : List Subject}
    (each : ∀ subject ∈ subjects, Approximates (judge subject) (other subject)) :
    Approximates (gather judge subjects) (gather other subjects) := by
  have answers : Approximates (subjects.mapM judge) (subjects.mapM other) := by
    induction subjects with
    | nil => exact .refl _
    | cons first rest hypothesis =>
      rw [List.forall_mem_cons] at each
      rw [List.mapM_cons, List.mapM_cons]
      exact each.1.bind fun issues => (hypothesis each.2).andThen _
  exact answers.andThen _

/-! ### Judges of nodes -/

section Nodes

variable {left right : Schema → Judge} {subject : Value} {path : Path}

theorem child_approximates {child : Option Schema}
    (each : ∀ schema ∈ child.toList, Approximates (left schema subject path)
      (right schema subject path)) :
    Approximates (ofChild (child.map left) subject path) (ofChild (child.map right) subject path) := by
  cases child with
  | none => exact .refl _
  | some schema => exact each schema (List.mem_singleton_self _)

/-- The judge of an object approximates another if the judges of its fields do on what it offers. -/
theorem object_approximates {fields : List (String × Schema)}
    (each : ∀ field ∈ fields, ∀ part place, subject.Offers part →
      Approximates (left field.2 part place) (right field.2 part place)) :
    Approximates (object (fields.map fun field => (field.1, left field.2)) subject path)
      (object (fields.map fun field => (field.1, right field.2)) subject path) := by
  cases subject with
  | dictionary entries =>
    simp only [object, gather_map]
    exact gather_approximates fun field mem =>
      each field mem _ _ (Value.offers_field entries field.1)
  | _ => exact .refl _

variable {element other : Judge}

theorem array_approximates {checks : List Check} (each : ∀ part place, subject.Offers part →
      Approximates (element part place) (other part place)) :
    Approximates (array checks element subject path) (array checks other subject path) := by
  cases subject with
  | list items =>
    refine Approximates.andThen (gather_approximates fun item mem => ?_) _
    exact each item.1 _ (.content (List.fst_mem_of_mem_zipIdx mem))
  | _ => exact .refl _

/-- The judge of a set approximates another if the judge of its members does on what it offers. -/
theorem set_approximates {checks : List Check} (each : ∀ part place, subject.Offers part →
      Approximates (element part place) (other part place)) :
    Approximates (set checks element subject path) (set checks other subject path) := by
  cases subject with
  | list items =>
    unfold set
    simp only
    split
    · exact (gather_approximates fun member mem => each member path (.content mem)).andThen _
    · exact .refl _
  | set members frozen =>
    have each : ∀ member ∈ members, Approximates (element member path) (other member path) :=
      fun member mem => each member path (.content mem)
    exact (gather_approximates each).andThen _
  | _ => exact .refl _

theorem mapping_approximates {tag : String} {key otherKey value otherValue : Judge}
    (each : ∀ part place, subject.Offers part →
      Approximates (key part place) (otherKey part place) ∧
        Approximates (value part place) (otherValue part place)) :
    Approximates (mapping tag key value subject path)
      (mapping tag otherKey otherValue subject path) := by
  cases subject with
  | dictionary entries =>
    refine gather_approximates fun entry mem => ?_
    obtain ⟨ofKey, ofValue⟩ := Value.mem_contents_dictionary mem
    exact (each entry.1 _ (.content ofKey)).1.bind fun issues =>
      (each entry.2 _ (.content ofValue)).2.andThen _
  | _ => exact .refl _

/-- What has positions are the contents of a list or a tuple. -/
theorem positions_eq {subject : Value} {subjects : List Value}
    (found : positions? subject = some subjects) : subjects = subject.contents := by
  cases subject with
  | list items | tuple items =>
    cases found
    rfl
  | _ => cases found

/-- The judge of a tuple approximates another if the judges of its items do, and that of the rest.
-/
theorem tuple_approximates {items : List Schema} {rest : Option Schema}
    (each : ∀ child ∈ items ++ rest.toList, ∀ part place, subject.Offers part →
      Approximates (left child part place) (right child part place)) :
    Approximates (tuple (items.map left) (rest.map left) subject path)
      (tuple (items.map right) (rest.map right) subject path) := by
  unfold tuple
  cases found : positions? subject with
  | none => exact .refl _
  | some subjects =>
    simp only [List.length_map, Option.isNone_map]
    split
    · exact .refl _
    · refine gather_approximates fun item mem => ?_
      have offers : subject.Offers item.1 :=
        .content (positions_eq found ▸ List.fst_mem_of_mem_zipIdx mem)
      simp only [List.getElem?_map]
      cases judged : items[item.2]? with
      | some child =>
        exact each child (List.mem_append_left _ (List.mem_of_getElem? judged)) _ _ offers
      | none =>
        exact child_approximates fun child mem =>
          each child (List.mem_append_right _ mem) _ _ offers

/-- Whether an option accepts is approximated if every option is. -/
theorem anyAccepts_approximates {options : List Schema}
    (each : ∀ option ∈ options, Approximates (left option subject path)
      (right option subject path)) :
    Approximates (anyAccepts (options.map left) subject path)
      (anyAccepts (options.map right) subject path) := by
  induction options with
  | nil => exact .refl _
  | cons first others hypothesis =>
    rw [List.forall_mem_cons] at each
    rw [List.map_cons, List.map_cons, anyAccepts, anyAccepts]
    refine each.1.bind fun issues => ?_
    split
    · exact .refl _
    · exact hypothesis each.2

variable [Format.LocationRules]
variable {definitions : Schema.Definitions} {lower lowerOther : Schema → Judge} {schema : Schema}

/-- The judge of a node approximates another one if the judges of its children do, as far as they
are asked, and those of the definition that it stands for. -/
theorem ofNode_approximates
    (handed : ∀ child ∈ schema.handed,
      Approximates (left child subject path) (right child subject path))
    (parts : ∀ child ∈ schema.judged, ∀ part place, subject.Offers part →
      Approximates (left child part place) (right child part place))
    (definition : ∀ target, schema.StandsFor definitions target →
      Approximates (lower target subject path) (lowerOther target subject path)) :
    Approximates (ofNode definitions lower schema (schema.parts left) subject path)
      (ofNode definitions lowerOther schema (schema.parts right) subject path) := by
  have ofKind : Approximates (ofKind definitions lower schema (schema.parts left) subject path)
      (ofKind definitions lowerOther schema (schema.parts right) subject path) := by
    unfold Schema.handed at handed
    unfold Schema.judged at parts
    unfold Judge.ofKind Schema.parts
    cases kind : schema.kind <;> simp only [kind] at handed parts ⊢
    case object =>
      exact object_approximates fun field mem => parts field.2 (List.mem_map_of_mem mem)
    case array =>
      exact array_approximates fun part place offers =>
        child_approximates fun child mem => parts child mem part place offers
    case set =>
      exact set_approximates fun part place offers =>
        child_approximates fun child mem => parts child mem part place offers
    case map | record =>
      exact mapping_approximates fun part place offers =>
        ⟨child_approximates fun child mem =>
            parts child (List.mem_append_left _ mem) part place offers,
          child_approximates fun child mem =>
            parts child (List.mem_append_right _ mem) part place offers⟩
    case tuple => exact tuple_approximates parts
    case union | discriminatedUnion =>
      exact (anyAccepts_approximates handed).andThen _
    case intersection =>
      simp only [intersection, gather_map]
      exact gather_approximates handed
    case optional | default =>
      unfold optional
      split
      · exact .refl _
      · exact child_approximates handed
    case nullable =>
      unfold nullable
      split
      · exact .refl _
      · exact child_approximates handed
    case branded => exact child_approximates handed
    case lazy =>
      unfold deferred
      cases found : schema.resolve definitions with
      | ok target => exact definition target ⟨kind, found⟩
      | error fault => exact .refl _
    all_goals exact .refl _
  unfold ofNode
  split
  · exact .refl _
  · exact ofKind

end Nodes

end Judge

end Specimen
