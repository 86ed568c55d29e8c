/-
**Where issues are.**

An issue comes with the path to its place. Paths are relative: judged at a path, a value has the
issues that it has at its root, in the same order and with the same messages, and the path stands in
front of each (`Judge.IsRelative`). For a node this follows from its children, since a judge does
nothing with its path but to make it longer and to report it.

A path is also a way into the value (`Value.Leads`): names are looked up in dictionaries, where only
the last one may be missing, and positions are positions of lists or tuples. This is so as long as
no set or mapping is looked into (`Schema.IsStepwise`): members of sets are told of at the path of
the set, and keys that are not texts have no names. Both together are `validate_paths`.
-/

import Specimen.Proofs.Totality

namespace Specimen

/-! ### Issues below a path -/

/-- The issue with a path in front of its own. -/
def Issue.under (start : Path) (issue : Issue) : Issue := ⟨start ++ issue.path, issue.message⟩

namespace Judge

/-- The result with a path in front of the path of each issue. -/
def under (start : Path) (result : Except Fault (List Issue)) : Except Fault (List Issue) :=
  result.map (List.map (Issue.under start))

/-- The judge says of a value at a path what it says at the end of the path, and where that is. -/
def IsRelative (judge : Judge) : Prop :=
  ∀ subject start path, judge subject (start ++ path) = under start (judge subject path)

section Results

variable (start path : Path)

/-- Issues of the node itself are moved below a path like those that follow them. -/
theorem under_prepend (issues : List Issue) (result : Except Fault (List Issue)) :
    under start (do pure (issues ++ (← result))) =
      (do pure (issues.map (Issue.under start) ++ (← under start result))) := by
  cases result with
  | error fault => rfl
  | ok others => exact congrArg Except.ok List.map_append

/-- Two results are moved below a path one after the other. -/
theorem under_append (first second : Except Fault (List Issue)) :
    under start (do pure ((← first) ++ (← second))) =
      (do pure ((← under start first) ++ (← under start second))) := by
  cases first with
  | error fault => rfl
  | ok issues => exact under_prepend start issues second

/-- Results that are gathered have the path in front if each of them has. -/
theorem gather_under {Subject : Type} {judge later : Subject → Except Fault (List Issue)}
    {subjects : List Subject}
    (each : ∀ subject ∈ subjects, later subject = under start (judge subject)) :
    gather later subjects = under start (gather judge subjects) := by
  induction subjects with
  | nil => rfl
  | cons first rest hypothesis =>
    rw [List.forall_mem_cons] at each
    rw [gather_cons, gather_cons, each.1, hypothesis each.2, under_append]

/-- The issues of bounds stand at the path that they are asked for. -/
theorem boundIssues_under (checks : List Check) (noun : String) (measured : Value) :
    boundIssues checks noun measured (start ++ path) =
      (boundIssues checks noun measured path).map (Issue.under start) := by
  unfold boundIssues
  rw [List.map_map]
  rfl

end Results

/-! ### Judges are relative -/

section Relative

variable {checks : List Check} {element key value : Judge}

/-- The judge of a child is relative if that of the schema is. -/
theorem child_relative {child : Option Schema} {meaning : Schema → Judge}
    (each : ∀ schema ∈ child.toList, (meaning schema).IsRelative) :
    (ofChild (child.map meaning)).IsRelative := by
  cases child with
  | none => exact fun _ _ _ => rfl
  | some schema => exact each schema (List.mem_singleton_self _)

theorem string_relative (checks : List Check) : (string checks).IsRelative := by
  intro subject start path
  cases subject with
  | text text =>
    unfold string
    simp only
    cases checks.mapM (formatMessage text) with
    | error fault => rfl
    | ok messages =>
      refine congrArg Except.ok ?_
      rw [boundIssues_under, List.map_append, List.map_map]
      rfl
  | _ => rfl

theorem numberIssues_relative (checks : List Check) :
    IsRelative fun subject path => numberIssues checks subject path := by
  intro subject start path
  unfold numberIssues
  simp only [boundIssues_under]
  split
  · cases isWhole subject with
    | error fault => rfl
    | ok whole =>
      cases whole with
      | true => rfl
      | false =>
        refine congrArg Except.ok ?_
        rw [List.map_append]
        rfl
  · rfl

theorem number_relative (checks : List Check) : (number checks).IsRelative := by
  intro subject start path
  cases subject with
  | int value => exact numberIssues_relative checks _ start path
  | float value =>
    unfold number
    simp only
    split
    · rfl
    · exact numberIssues_relative checks _ start path
  | _ => rfl

theorem bigint_relative (checks : List Check) : (bigint checks).IsRelative := by
  intro subject start path
  cases subject with
  | int value => exact congrArg Except.ok (boundIssues_under start path checks _ _)
  | _ => rfl

theorem date_relative (checks : List Check) : (date checks).IsRelative := by
  intro subject start path
  cases subject with
  | moment value => exact congrArg Except.ok (boundIssues_under start path checks _ _)
  | _ => rfl

/-- A judge that accepts or else reports one issue is relative. -/
theorem ite_relative (accepts : Value → Bool) (message : Value → String) :
    IsRelative fun subject path =>
      if accepts subject then .ok [] else report path (message subject) := by
  intro subject start path
  by_cases accepted : accepts subject = true
  · simp only [accepted, if_true]
    rfl
  · simp only [accepted, Bool.false_eq_true, if_false]
    rfl

/-! ### Judges of parts -/

theorem object_relative {fields : List (String × Judge)}
    (each : ∀ field ∈ fields, field.2.IsRelative) : (object fields).IsRelative := by
  intro subject start path
  cases subject with
  | dictionary entries =>
    refine gather_under start fun field mem => ?_
    rw [List.append_assoc]
    exact each field mem _ start _
  | _ => rfl

theorem array_relative (relative : element.IsRelative) : (array checks element).IsRelative := by
  intro subject start path
  cases subject with
  | list items =>
    unfold array
    simp only
    rw [under_prepend, boundIssues_under, gather_under start fun item mem => ?_]
    rw [List.append_assoc]
    exact relative item.1 start _
  | _ => rfl

/-- The issues of members are moved with the path of the set. -/
theorem memberIssues_relative (relative : element.IsRelative) (members : List Value)
    (start path : Path) :
    memberIssues checks element members (start ++ path) =
      under start (memberIssues checks element members path) := by
  unfold memberIssues
  rw [under_prepend, boundIssues_under,
    gather_under start fun member _ => relative member start path]

theorem set_relative (relative : element.IsRelative) : (set checks element).IsRelative := by
  intro subject start path
  cases subject with
  | list items =>
    unfold set
    simp only
    split
    · exact memberIssues_relative relative items start path
    · rfl
  | set members => exact memberIssues_relative relative members start path
  | _ => rfl

theorem mapping_relative {tag : String} (ofKey : key.IsRelative) (ofValue : value.IsRelative) :
    (mapping tag key value).IsRelative := by
  intro subject start path
  cases subject with
  | dictionary entries =>
    refine gather_under start fun entry _ => ?_
    simp only
    rw [List.append_assoc, ofKey, ofValue, under_append]
  | _ => rfl

theorem tuple_relative {items : List Judge} {rest : Option Judge}
    (each : ∀ judge ∈ items, judge.IsRelative)
    (following : ∀ judge, rest = some judge → judge.IsRelative) :
    (tuple items rest).IsRelative := by
  intro subject start path
  unfold tuple
  split
  · rfl
  · split
    · rfl
    · refine gather_under start fun item _ => ?_
      rw [List.append_assoc]
      cases found : items[item.2]? with
      | some judge => exact each judge (List.mem_of_getElem? found) item.1 start _
      | none =>
        cases rest with
        | none => rfl
        | some judge => exact following judge rfl item.1 start _

/-! ### Judges of the whole -/

/-- Whether an option accepts the value does not depend on the path. -/
theorem anyAccepts_under {options : List Judge} (each : ∀ option ∈ options, option.IsRelative)
    (subject : Value) (start path : Path) :
    anyAccepts options subject (start ++ path) = anyAccepts options subject path := by
  induction options with
  | nil => rfl
  | cons first others hypothesis =>
    rw [List.forall_mem_cons] at each
    rw [anyAccepts, anyAccepts, each.1, hypothesis each.2]
    cases first subject path with
    | error fault => rfl
    | ok issues => cases issues <;> rfl

theorem union_relative {options : List Judge} (each : ∀ option ∈ options, option.IsRelative) :
    (union options).IsRelative := by
  intro subject start path
  unfold union
  rw [anyAccepts_under each]
  cases anyAccepts options subject path with
  | error fault => rfl
  | ok accepted => cases accepted <;> rfl

theorem intersection_relative {judges : List Judge} (each : ∀ judge ∈ judges, judge.IsRelative) :
    (intersection judges).IsRelative :=
  fun subject start path => gather_under start fun judge mem => each judge mem subject start path

theorem optional_relative {inner : Judge} (relative : inner.IsRelative) :
    (optional inner).IsRelative := by
  intro subject start path
  unfold optional
  split
  · rfl
  · exact relative subject start path

theorem nullable_relative {inner : Judge} (relative : inner.IsRelative) :
    (nullable inner).IsRelative := by
  intro subject start path
  unfold nullable
  split
  · rfl
  · exact relative subject start path

end Relative

/-! ### Nodes -/

section Nodes

variable {definitions : Schema.Definitions} {lower meaning : Schema → Judge} {schema : Schema}

/-- The judge of a node is relative if the judges of its children are, and that of the definition
that it stands for. -/
theorem ofNode_relative (each : ∀ child ∈ schema.judged, (meaning child).IsRelative)
    (definition : ∀ target, schema.StandsFor definitions target → (lower target).IsRelative) :
    (ofNode definitions lower schema (schema.parts meaning)).IsRelative := by
  have ofKind : (ofKind definitions lower schema (schema.parts meaning)).IsRelative := by
    unfold Schema.judged at each
    unfold Judge.ofKind Schema.parts
    cases kind : schema.kind <;> simp only [kind] at each ⊢
    case string => exact string_relative _
    case number => exact number_relative _
    case bigint => exact bigint_relative _
    case date => exact date_relative _
    case boolean | promise =>
      intro subject start path
      cases subject <;> rfl
    case object =>
      refine object_relative fun field mem => ?_
      obtain ⟨described, listed, rfl⟩ := List.mem_map.1 mem
      exact each described.2 (List.mem_map_of_mem listed)
    case array => exact array_relative (child_relative each)
    case set => exact set_relative (child_relative each)
    case map | record =>
      exact mapping_relative
        (child_relative fun child mem => each child (List.mem_append_left _ mem))
        (child_relative fun child mem => each child (List.mem_append_right _ mem))
    case tuple =>
      refine tuple_relative ?_ ?_
      · exact List.forall_mem_map.2 fun child mem => each child (List.mem_append_left _ mem)
      · intro judge found
        obtain ⟨child, isRest, rfl⟩ := Option.map_eq_some_iff.1 found
        exact each child (List.mem_append_right _ (Option.mem_toList.2 isRest))
    case union | discriminatedUnion => exact union_relative (List.forall_mem_map.2 each)
    case intersection => exact intersection_relative (List.forall_mem_map.2 each)
    case enumeration | nativeEnumeration => exact ite_relative _ _
    case literal => exact ite_relative _ _
    case optional | default => exact optional_relative (child_relative each)
    case nullable => exact nullable_relative (child_relative each)
    case branded => exact child_relative each
    case function | null | nan => exact ite_relative _ _
    case void | undefined => exact ite_relative _ _
    case lazy =>
      intro subject start path
      unfold deferred
      cases found : schema.resolve definitions with
      | ok target => exact definition target ⟨kind, found⟩ subject start path
      | error fault => rfl
    all_goals exact fun _ _ _ => rfl
  intro subject start path
  unfold ofNode
  split
  · rfl
  · exact ofKind subject start path

end Nodes

end Judge

/-! ### Validation is relative -/

/-- Validation with any number of passes is relative; by induction on the passes, and on the schema
below. -/
theorem validateWithin_relative (definitions : Schema.Definitions) (passes : Nat)
    (schema : Schema) : (validateWithin definitions passes schema).IsRelative := by
  induction passes generalizing schema with
  | zero =>
    induction schema using Schema.byParts with
    | step schema hypothesis =>
      rw [validateWithin_eq]
      exact Judge.ofNode_relative
        (fun child mem => hypothesis child (Schema.mem_children_of_judged mem))
        fun _ _ _ _ _ => rfl
  | succ passes fewer =>
    induction schema using Schema.byParts with
    | step schema hypothesis =>
      rw [validateWithin_eq]
      exact Judge.ofNode_relative
        (fun child mem => hypothesis child (Schema.mem_children_of_judged mem))
        fun target _ => fewer target

/-! ### Ways into values -/

namespace Value

/-- The path can be followed in the value: each name is that of a field of a dictionary, where only
the last field may be lacking, and each position is one of a list or tuple. -/
inductive Leads : Value → Path → Prop
  | here {subject : Value} : Leads subject []
  | field {entries : List (Value × Value)} {name : String} {part : Value} {path : Path}
      (found : field? entries name = some part) (further : Leads part path) :
      Leads (.dictionary entries) (.name name :: path)
  | lacking {entries : List (Value × Value)} {name : String} (lacks : field? entries name = none) :
      Leads (.dictionary entries) [.name name]
  | item {subject part : Value} {items : List Value} {place : Nat} {path : Path}
      (isList : Judge.positions? subject = some items) (found : items[place]? = some part)
      (further : Leads part path) : Leads subject (.position place :: path)

/-- There is no way into an absent value but the empty one. -/
theorem leads_absent {path : Path} (leads : absent.Leads path) : path = [] := by
  cases leads with
  | here => rfl
  | item isList _ _ => cases isList

end Value

namespace Judge

/-- The issues of a result at a path, if it has any, are at places to which the rest of their paths
leads in the value. -/
def Places (start : Path) (subject : Value) (result : Except Fault (List Issue)) : Prop :=
  ∀ issues, result = .ok issues → ∀ issue ∈ issues,
    ∃ way, issue.path = start ++ way ∧ subject.Leads way

/-- The judge places its issues in the value that it judges. -/
def Locates (judge : Judge) : Prop := ∀ subject path, Places path subject (judge subject path)

namespace Places

variable {path : Path} {subject : Value}

theorem error (fault : Fault) : Places path subject (.error fault) := nofun

/-- Issues of the value itself are placed in it. -/
theorem here {issues : List Issue} (each : ∀ issue ∈ issues, issue.path = path) :
    Places path subject (.ok issues) := by
  rintro _ ⟨⟩ issue mem
  exact ⟨[], by rw [each issue mem, List.append_nil], .here⟩

theorem silent : Places path subject (.ok []) := here (List.forall_mem_nil _)

theorem report (message : String) : Places path subject (report path message) :=
  here (List.forall_mem_singleton.2 rfl)

/-- Two results place their issues if each of them does. -/
theorem append {first second : Except Fault (List Issue)} (left : Places path subject first)
    (right : Places path subject second) :
    Places path subject (do pure ((← first) ++ (← second))) := by
  cases first with
  | error fault => exact error fault
  | ok issues =>
    cases second with
    | error fault => exact error fault
    | ok others =>
      rintro _ ⟨⟩ issue mem
      rcases List.mem_append.1 mem with mem | mem
      · exact left issues rfl issue mem
      · exact right others rfl issue mem

/-- Issues at the path itself may stand before others. -/
theorem prepend {issues : List Issue} {result : Except Fault (List Issue)}
    (each : ∀ issue ∈ issues, issue.path = path) (others : Places path subject result) :
    Places path subject (do pure (issues ++ (← result))) :=
  append (here each) others

/-- Results that are gathered place their issues if each of them does. -/
theorem gather {Subject : Type} {judge : Subject → Except Fault (List Issue)}
    {subjects : List Subject} (each : ∀ other ∈ subjects, Places path subject (judge other)) :
    Places path subject (gather judge subjects) := by
  induction subjects with
  | nil => exact silent
  | cons first rest hypothesis =>
    rw [List.forall_mem_cons] at each
    rw [gather_cons]
    exact append each.1 (hypothesis each.2)

/-- What is placed in a part is placed in the value, one step further. -/
theorem below {part : Value} {step : Step} {result : Except Fault (List Issue)}
    (leads : ∀ way, part.Leads way → subject.Leads (step :: way))
    (inside : Places (path ++ [step]) part result) : Places path subject result := by
  intro issues found issue mem
  obtain ⟨way, isPath, further⟩ := inside issues found issue mem
  exact ⟨step :: way, by rw [isPath, List.append_assoc]; rfl, leads way further⟩

end Places

/-- The issues of bounds stand at the path of the node. -/
theorem boundIssues_path {checks : List Check} {noun : String} {measured : Value} {path : Path} :
    ∀ issue ∈ boundIssues checks noun measured path, issue.path = path := by
  intro issue mem
  obtain ⟨message, _, rfl⟩ := List.mem_map.1 mem
  rfl

section Locates

variable {checks : List Check} {element : Judge}

/-- The judge of a child locates its issues if that of the schema does. -/
theorem child_locates {child : Option Schema} {meaning : Schema → Judge}
    (each : ∀ schema ∈ child.toList, (meaning schema).Locates) :
    (ofChild (child.map meaning)).Locates := by
  cases child with
  | none => exact fun _ _ => .error _
  | some schema => exact each schema (List.mem_singleton_self _)

theorem string_locates (checks : List Check) : (string checks).Locates := by
  intro subject path
  cases subject with
  | text text =>
    unfold string
    simp only
    cases checks.mapM (formatMessage text) with
    | error fault => exact .error fault
    | ok messages =>
      refine .here fun issue mem => ?_
      rcases List.mem_append.1 mem with mem | mem
      · exact boundIssues_path issue mem
      · obtain ⟨message, _, rfl⟩ := List.mem_map.1 mem
        rfl
  | _ => exact .report _

theorem numberIssues_places (checks : List Check) (number : Value) (path : Path) :
    Places path number (numberIssues checks number path) := by
  unfold numberIssues
  simp only
  split
  · cases isWhole number with
    | error fault => exact .error fault
    | ok whole =>
      cases whole with
      | true => exact .here boundIssues_path
      | false =>
        refine .here fun issue mem => ?_
        rcases List.mem_append.1 mem with mem | mem
        · exact boundIssues_path issue mem
        · rw [List.mem_singleton.1 mem]
  · exact .here boundIssues_path

theorem number_locates (checks : List Check) : (number checks).Locates := by
  intro subject path
  cases subject with
  | int value => exact numberIssues_places checks _ path
  | float value =>
    unfold number
    simp only
    split
    · exact .report _
    · exact numberIssues_places checks _ path
  | _ => exact .report _

/-- A judge that accepts or else reports one issue locates it. -/
theorem ite_locates (accepts : Value → Bool) (message : Value → String) :
    Locates fun subject path =>
      if accepts subject then .ok [] else Judge.report path (message subject) := by
  intro subject path
  by_cases accepted : accepts subject = true
  · simp only [accepted, if_true]
    exact .silent
  · simp only [accepted, Bool.false_eq_true, if_false]
    exact .report _

theorem object_locates {fields : List (String × Judge)} (each : ∀ field ∈ fields, field.2.Locates) :
    (object fields).Locates := by
  intro subject path
  cases subject with
  | dictionary entries =>
    refine .gather fun field mem => ?_
    refine .below (fun way leads => ?_) (each field mem _ _)
    cases found : Value.field? entries field.1 with
    | some part =>
      rw [found] at leads
      exact .field found leads
    | none =>
      rw [found] at leads
      rw [Value.leads_absent leads]
      exact .lacking found
  | _ => exact .report _

/-- The issues of items stand at their positions. -/
theorem positions_places (judge : Value × Nat → Judge) {subject : Value} {items : List Value}
    {path : Path} (isList : positions? subject = some items)
    (each : ∀ item ∈ items.zipIdx, (judge item).Locates) :
    Places path subject
      (gather (fun item => judge item item.1 (path ++ [.position item.2])) items.zipIdx) :=
  .gather fun item mem => .below
    (fun _ leads => .item isList (List.mem_zipIdx_iff_getElem?.1 mem) leads) (each item mem _ _)

theorem array_locates (locates : element.Locates) : (array checks element).Locates := by
  intro subject path
  cases subject with
  | list items =>
    exact .prepend boundIssues_path (positions_places (fun _ => element) rfl fun _ _ => locates)
  | _ => exact .report _

theorem tuple_locates {items : List Judge} {rest : Option Judge}
    (each : ∀ judge ∈ items, judge.Locates)
    (following : ∀ judge, rest = some judge → judge.Locates) : (tuple items rest).Locates := by
  intro subject path
  unfold tuple
  cases isList : positions? subject with
  | none => exact .report _
  | some subjects =>
    simp only
    split
    · exact .report _
    · refine positions_places (fun item => items[item.2]?.getD (ofChild rest)) isList
        fun item _ => ?_
      cases found : items[item.2]? with
      | some judge => exact each judge (List.mem_of_getElem? found)
      | none =>
        cases rest with
        | none => exact fun _ _ => .error _
        | some judge => exact following judge rfl

/-- A union tells of the value as a whole, whatever its options find in it. -/
theorem union_locates (options : List Judge) : (union options).Locates := by
  intro subject path
  unfold union
  cases anyAccepts options subject path with
  | error fault => exact .error fault
  | ok accepted =>
    cases accepted with
    | true => exact .silent
    | false => exact .report _

theorem optional_locates (locates : element.Locates) : (optional element).Locates := by
  intro subject path
  unfold optional
  split
  · exact .silent
  · exact locates subject path

theorem nullable_locates (locates : element.Locates) : (nullable element).Locates := by
  intro subject path
  unfold nullable
  split
  · exact .silent
  · exact locates subject path

end Locates

end Judge

namespace Schema

/-- The judge of the node goes into a value by names of fields and by positions alone. -/
def IsStepwise (schema : Schema) : Prop :=
  schema.kind ≠ .set ∧ schema.kind ≠ .map ∧ schema.kind ≠ .record

instance (schema : Schema) : Decidable schema.IsStepwise :=
  inferInstanceAs (Decidable (_ ∧ _))

end Schema

/-! ### Paths of issues -/

open Judge Schema

variable {definitions : Definitions}

/-- The judge of a node that goes into values stepwise locates issues if the judges of its children
do, and that of the definition that it stands for. -/
theorem Judge.ofNode_locates {lower meaning : Schema → Judge} {schema : Schema}
    (stepwise : schema.IsStepwise) (each : ∀ child ∈ schema.judged, (meaning child).Locates)
    (definition : ∀ target, schema.StandsFor definitions target → (lower target).Locates) :
    (ofNode definitions lower schema (schema.parts meaning)).Locates := by
  have ofKind : (ofKind definitions lower schema (schema.parts meaning)).Locates := by
    obtain ⟨noSet, noMap, noRecord⟩ := stepwise
    unfold judged at each
    unfold Judge.ofKind parts
    cases kind : schema.kind <;> simp only [kind] at each ⊢
    case set => exact absurd kind noSet
    case map => exact absurd kind noMap
    case record => exact absurd kind noRecord
    case string => exact string_locates _
    case number => exact number_locates _
    case bigint | date =>
      intro subject path
      cases subject <;> first | exact .here boundIssues_path | exact .report _
    case boolean | promise =>
      intro subject path
      cases subject <;> first | exact .silent | exact .report _
    case object =>
      refine object_locates fun field mem => ?_
      obtain ⟨described, listed, rfl⟩ := List.mem_map.1 mem
      exact each described.2 (List.mem_map_of_mem listed)
    case array => exact array_locates (child_locates each)
    case tuple =>
      refine tuple_locates ?_ ?_
      · exact List.forall_mem_map.2 fun child mem => each child (List.mem_append_left _ mem)
      · intro judge found
        obtain ⟨child, isRest, rfl⟩ := Option.map_eq_some_iff.1 found
        exact each child (List.mem_append_right _ (Option.mem_toList.2 isRest))
    case union | discriminatedUnion => exact union_locates _
    case intersection =>
      exact fun subject path => .gather fun judge mem =>
        List.forall_mem_map.2 each judge mem subject path
    case enumeration | nativeEnumeration => exact ite_locates _ _
    case literal => exact ite_locates _ _
    case optional | default => exact optional_locates (child_locates each)
    case nullable => exact nullable_locates (child_locates each)
    case branded => exact child_locates each
    case function | null | nan => exact ite_locates _ _
    case void | undefined => exact ite_locates _ _
    case lazy =>
      intro subject path
      unfold deferred
      cases found : schema.resolve definitions with
      | ok target => exact definition target ⟨kind, found⟩ subject path
      | error fault => exact .error fault
    all_goals exact fun _ _ => .silent
  intro subject path
  unfold ofNode
  split
  · exact .report _
  · exact ofKind subject path

/-- Validation locates its issues in the value if no set, map or record is on the way. -/
theorem validateWithin_locates (passes : Nat) {schema : Schema}
    (stepwise : schema.Throughout definitions Judges IsStepwise) :
    (validateWithin definitions passes schema).Locates := by
  induction passes generalizing schema with
  | zero =>
    induction schema using byParts with
    | step schema hypothesis =>
      rw [validateWithin_eq]
      exact ofNode_locates stepwise.here
        (fun child mem => hypothesis child (mem_children_of_judged mem) (stepwise.child mem))
        fun _ _ _ _ => .error _
  | succ passes fewer =>
    induction schema using byParts with
    | step schema hypothesis =>
      rw [validateWithin_eq]
      exact ofNode_locates stepwise.here
        (fun child mem => hypothesis child (mem_children_of_judged mem) (stepwise.child mem))
        fun target stands => fewer (stepwise.definition stands)

/-- **Paths of issues are relative, and lead into the value.** At a path, a value has the issues
that it has at its root, with the path in front of each. If no set or mapping is looked into, the
path of each issue at the root can be followed in the value. -/
theorem validate_paths (definitions : Definitions) (schema : Schema) (subject : Value) :
    (∀ path, validate definitions schema subject path =
      Judge.under path (validate definitions schema subject [])) ∧
    (schema.Throughout definitions Judges IsStepwise → ∀ issues,
      validate definitions schema subject [] = .ok issues →
        ∀ issue ∈ issues, subject.Leads issue.path) := by
  constructor
  · intro path
    have relative := validateWithin_relative definitions (passLimit definitions subject) schema
      subject path []
    rw [List.append_nil] at relative
    exact relative
  · intro stepwise issues found issue mem
    have locates := validateWithin_locates (passLimit definitions subject) stepwise
    obtain ⟨way, isPath, leads⟩ := locates subject [] issues found issue mem
    exact isPath ▸ leads

/-- Branches of a tree, with a label and smaller branches. -/
def branch : Schema := .object [("label", .string), ("branches", .array (.lazy "branch"))]

/-- A branch that bears two others: one has no label, and the other one has a number for it. -/
def crooked : Value := .dictionary [(.text "label", .text "stem"), (.text "branches", .list
  [.dictionary [(.text "branches", .list [])],
    .dictionary [(.text "label", .int 5), (.text "branches", .list [])]])]

/-- In a branch that bears two wrong ones each issue is at the field it is about, below any path,
and the way to the second field can be followed. -/
theorem crooked_paths :
    validate [("branch", .ok branch)] branch crooked [] =
      .ok [⟨[.name "branches", .position 0, .name "label"], "Required"⟩,
        ⟨[.name "branches", .position 1, .name "label"], "Expected string, received int"⟩] ∧
    (∀ path, validate [("branch", .ok branch)] branch crooked path =
      Judge.under path (validate [("branch", .ok branch)] branch crooked [])) ∧
    crooked.Leads [.name "branches", .position 1, .name "label"] := by
  have stepwise : branch.Everywhere IsStepwise :=
    .intro (by decide) (List.forall_mem_cons.2 ⟨.intro (by decide) (List.forall_mem_nil _),
      List.forall_mem_singleton.2 (.intro (by decide) (List.forall_mem_singleton.2
        (.intro (by decide) (List.forall_mem_nil _))))⟩)
  have only : ∀ name target, (name, .ok target) ∈ [("branch", (.ok branch : Except Fault Schema))] →
      target.Everywhere IsStepwise := by
    intro name target mem
    cases List.mem_singleton.1 mem
    exact stepwise
  have found : validate [("branch", .ok branch)] branch crooked [] =
      .ok [⟨[.name "branches", .position 0, .name "label"], "Required"⟩,
        ⟨[.name "branches", .position 1, .name "label"], "Expected string, received int"⟩] := by
    rfl
  obtain ⟨relative, leads⟩ := validate_paths [("branch", .ok branch)] branch crooked
  exact ⟨found, relative, leads (stepwise.throughout only) _ found _ (.tail _ (.head _))⟩

end Specimen
