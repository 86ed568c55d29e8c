/-
**Checks are a conjunction.**

The checks of a node are read in several loops: one for bounds, one for the formats of texts, and
one that asks whether a number has to be whole. What they say together is what each of them says
alone. Whether a node answers, and whether it accepts, is a question to each of its checks
(`Judge.IsConjunction`).

Hence neither the order of checks matters nor how often one is declared, and a further check never
lets a value pass that did not pass without it. This is `checks_conjunction`.
-/

import Specimen.Proofs.Unfolding

namespace Specimen

/-! ### Properties of each check -/

/-- The property of lists of checks is one of each of the checks, besides something that does not
depend on them. -/
def Check.IsOfEach (holds : List Check → Prop) : Prop :=
  ∃ (always : Prop) (each : Check → Prop),
    ∀ checks, holds checks ↔ always ∧ ∀ check ∈ checks, each check

namespace Check.IsOfEach

variable {holds other : List Check → Prop}

/-- What does not depend on the checks is of each. -/
theorem const (always : Prop) : IsOfEach fun _ => always :=
  ⟨always, fun _ => True, fun _ => ⟨fun is => ⟨is, fun _ _ => True.intro⟩, And.left⟩⟩

theorem of_each (each : Check → Prop)
    (same : ∀ checks, holds checks ↔ ∀ check ∈ checks, each check) : IsOfEach holds :=
  ⟨True, each, fun checks => (same checks).trans (iff_of_eq (true_and _)).symm⟩

theorem congr (ofEach : IsOfEach holds) (same : ∀ checks, other checks ↔ holds checks) :
    IsOfEach other := by
  obtain ⟨always, each, isBoth⟩ := ofEach
  exact ⟨always, each, fun checks => (same checks).trans (isBoth checks)⟩

/-- Two properties of each check are one. -/
theorem and (left : IsOfEach holds) (right : IsOfEach other) :
    IsOfEach fun checks => holds checks ∧ other checks := by
  obtain ⟨always, each, isHolds⟩ := left
  obtain ⟨alsoAlways, alsoEach, isOther⟩ := right
  refine ⟨always ∧ alsoAlways, fun check => each check ∧ alsoEach check, fun checks => ?_⟩
  show holds checks ∧ other checks ↔ _
  rw [isHolds, isOther, and_and_and_comm]
  refine and_congr_right fun _ => ?_
  rw [← forall_and]
  exact forall_congr' fun check => forall_and.symm

/-- A property of each check holds of two lists of checks if it holds of both. -/
theorem append (ofEach : IsOfEach holds) (first second : List Check) :
    holds (first ++ second) ↔ holds first ∧ holds second := by
  obtain ⟨always, each, isBoth⟩ := ofEach
  rw [isBoth, isBoth, isBoth, List.forall_mem_append, and_and_and_comm, and_self_iff]

/-- Lists with the same members have the property or have it not, in whatever order the members
are and however often. -/
theorem of_members (ofEach : IsOfEach holds) {first second : List Check}
    (same : ∀ check, check ∈ first ↔ check ∈ second) : holds first ↔ holds second := by
  obtain ⟨always, each, isBoth⟩ := ofEach
  rw [isBoth, isBoth]
  exact and_congr_right fun _ => forall_congr' fun check => imp_congr_left (same check)

end Check.IsOfEach

/-! ### Results by checks -/

namespace Judge

/-- Whether there is an answer, and whether there is one without issues, is a question to each of
the checks. -/
structure IsConjunction (result : List Check → Except Fault (List Issue)) : Prop where
  answers : Check.IsOfEach fun checks => ∃ issues, result checks = .ok issues
  accepts : Check.IsOfEach fun checks => result checks = .ok []

namespace IsConjunction

variable {result other : List Check → Except Fault (List Issue)}

theorem const (result : Except Fault (List Issue)) : IsConjunction fun _ => result :=
  ⟨.const _, .const _⟩

/-- Issues that are found for each of the checks. -/
theorem gather (judge : Check → Except Fault (List Issue)) : IsConjunction (gather judge) :=
  ⟨.of_each _ fun _ => gather_answers_iff, .of_each _ fun _ => gather_accepts_iff⟩

theorem append (first : IsConjunction result) (second : IsConjunction other) :
    IsConjunction fun checks => do pure ((← result checks) ++ (← other checks)) where
  answers := (first.answers.and second.answers).congr fun _ => append_answers_iff
  accepts := (first.accepts.and second.accepts).congr fun _ => append_accepts_iff

/-- Something that is looked into if one of the checks asks for it. -/
theorem ifAny (asks : Check → Bool) (result : Except Fault (List Issue)) :
    IsConjunction fun checks => if checks.any asks then result else .ok [] := by
  have each (holds : Except Fault (List Issue) → Prop) (unasked : holds (.ok [])) :
      Check.IsOfEach fun checks => holds (if checks.any asks then result else .ok []) := by
    refine .of_each (fun check => asks check = true → holds result) fun checks => ?_
    by_cases asked : checks.any asks = true
    · rw [if_pos asked]
      obtain ⟨check, mem, isAsked⟩ := List.any_eq_true.1 asked
      exact ⟨fun is _ _ _ => is, fun every => every check mem isAsked⟩
    · rw [if_neg asked]
      refine iff_of_true unasked fun check mem isAsked => absurd ?_ asked
      exact List.any_eq_true.2 ⟨check, mem, isAsked⟩
  exact ⟨each (fun found => ∃ issues, found = .ok issues) ⟨[], rfl⟩, each (· = .ok []) rfl⟩

end IsConjunction

section Judges

variable (subject : Value) (path : Path)

/-- The issues of bounds are those of each check, one after another. -/
theorem bounds_conjunction (noun : String) (measured : Value) :
    IsConjunction fun checks => .ok (boundIssues checks noun measured path) where
  answers := (Check.IsOfEach.const True).congr fun _ => iff_of_true ⟨_, rfl⟩ True.intro
  accepts := by
    refine .of_each (fun check => boundMessage noun measured check = none) fun checks => ?_
    rw [Except.ok.injEq, boundIssues, List.map_eq_nil_iff, List.filterMap_eq_nil_iff]

/-- The issue, if any, of a check on the form of a text. -/
def formatIssues (text : String) (path : Path) (check : Check) : Except Fault (List Issue) := do
  pure ((← formatMessage text check).toList.map fun message => ⟨path, message⟩)

/-- The issues of a text are those of its length and those of its form. -/
theorem string_eq_append (checks : List Check) (text : String) :
    string checks (.text text) path = (do
      let bounds ← .ok (boundIssues checks "length" (.int text.length) path)
      pure (bounds ++ (← gather (formatIssues text path) checks))) := by
  have formats : gather (formatIssues text path) checks = (do
      pure ((← checks.mapM (formatMessage text)).reduceOption.map fun message =>
        ⟨path, message⟩)) := by
    induction checks with
    | nil => rfl
    | cons first rest hypothesis =>
      rw [gather_cons, hypothesis, List.mapM_cons, formatIssues]
      cases formatMessage text first with
      | error fault => rfl
      | ok message =>
        cases rest.mapM (formatMessage text) with
        | error fault => rfl
        | ok messages => cases message <;> rfl
  rw [formats]
  unfold string
  simp only
  cases checks.mapM (formatMessage text) <;> rfl

/-- A text is judged check by check. -/
theorem string_conjunction : IsConjunction fun checks => string checks subject path := by
  cases subject with
  | text text =>
    simp only [string_eq_append]
    exact (bounds_conjunction path _ _).append (.gather _)
  | _ => exact .const _

/-- The issue, if any, of a number that should be whole. -/
def fractionIssues (number : Value) (path : Path) : Except Fault (List Issue) := do
  pure (if ← isWhole number then [] else [⟨path, "Expected integer"⟩])

/-- The issues of a number are those of its bounds and that of its fraction, if a check asks for
it. -/
theorem numberIssues_eq_append (checks : List Check) (number : Value) :
    numberIssues checks number path = (do
      let bounds ← .ok (boundIssues checks "value" number path)
      let fraction ← ite (checks.any fun check => check.name == Check.integer.name)
        (fractionIssues number path) (.ok [])
      pure (bounds ++ fraction)) := by
  unfold numberIssues fractionIssues
  by_cases asked : (checks.any fun check => check.name == Check.integer.name) = true
  · simp only [if_pos asked]
    cases isWhole number with
    | error fault => rfl
    | ok whole =>
      cases whole with
      | true => exact congrArg Except.ok (List.append_nil _).symm
      | false => rfl
  · simp only [if_neg asked]
    exact congrArg Except.ok (List.append_nil _).symm

theorem numberIssues_conjunction (number : Value) :
    IsConjunction fun checks => numberIssues checks number path := by
  simp only [numberIssues_eq_append]
  exact (bounds_conjunction path _ _).append (.ifAny _ _)

/-- A number is judged check by check, and whether it is whole is asked once. -/
theorem number_conjunction : IsConjunction fun checks => number checks subject path := by
  cases subject with
  | int value => exact numberIssues_conjunction path _
  | float value =>
    unfold number
    simp only
    split
    · exact .const _
    · exact numberIssues_conjunction path _
  | _ => exact .const _

theorem bigint_conjunction : IsConjunction fun checks => bigint checks subject path := by
  cases subject with
  | int value => exact bounds_conjunction path _ _
  | _ => exact .const _

/-- A date is judged check by check. -/
theorem date_conjunction : IsConjunction fun checks => date checks subject path := by
  cases subject with
  | moment value => exact bounds_conjunction path _ _
  | _ => exact .const _

/-- The length of a list is judged check by check, before its items. -/
theorem array_conjunction (element : Judge) :
    IsConjunction fun checks => array checks element subject path := by
  cases subject with
  | list items => exact (bounds_conjunction path _ _).append (.const _)
  | _ => exact .const _

theorem memberIssues_conjunction (element : Judge) (members : List Value) :
    IsConjunction fun checks => memberIssues checks element members path :=
  (bounds_conjunction path _ _).append (.const _)

/-- The size of a set is judged check by check, before its members. -/
theorem set_conjunction (element : Judge) :
    IsConjunction fun checks => set checks element subject path := by
  cases subject with
  | list items =>
    unfold set
    simp only
    split
    · exact memberIssues_conjunction path element items
    · exact .const _
  | set members => exact memberIssues_conjunction path element members
  | _ => exact .const _

end Judges

end Judge

/-! ### Nodes -/

namespace Schema

/-- The node with other checks. -/
def withChecks (schema : Schema) (checks : List Check) : Schema :=
  schema.setTraits { schema.traits with checks := checks }

theorem withChecks_self (schema : Schema) : schema.withChecks schema.checks = schema := by
  cases schema
  rfl

end Schema

/-- Whatever a node is, its checks are a conjunction to its judge. -/
theorem Judge.ofNode_conjunction (definitions : Schema.Definitions) (lower : Schema → Judge)
    (schema : Schema) (parts : Parts Judge) (subject : Value) (path : Path) :
    IsConjunction fun checks =>
      ofNode definitions lower (schema.withChecks checks) parts subject path := by
  obtain ⟨kind, traits, fields, inner, key, value, rest, arguments, items⟩ := schema
  let node (checks : List Check) : Schema :=
    .node kind { traits with checks := checks } fields inner key value rest arguments items
  have ofKind : IsConjunction fun checks =>
      ofKind definitions lower (node checks) parts subject path := by
    cases kind with
    | string => exact string_conjunction subject path
    | number => exact number_conjunction subject path
    | bigint => exact bigint_conjunction subject path
    | date => exact date_conjunction subject path
    | array => exact array_conjunction subject path _
    | set => exact set_conjunction subject path _
    | _ => exact .const (Judge.ofKind definitions lower (node []) parts subject path)
  show IsConjunction fun checks => ofNode definitions lower (node checks) parts subject path
  by_cases refused : (subject.isAbsent && !kind.acceptsAbsent) = true
  · have same : (fun checks => ofNode definitions lower (node checks) parts subject path) =
        fun _ => report path "Required" := funext fun _ => if_pos refused
    rw [same]
    exact .const _
  · have same : (fun checks => ofNode definitions lower (node checks) parts subject path) =
        fun checks => Judge.ofKind definitions lower (node checks) parts subject path :=
      funext fun _ => if_neg refused
    rw [same]
    exact ofKind

/-- Validation is a conjunction over the checks of the node. -/
theorem validate_conjunction (definitions : Schema.Definitions) (schema : Schema) (subject : Value)
    (path : Path) : Judge.IsConjunction fun checks =>
      validate definitions (schema.withChecks checks) subject path := by
  have node : ∀ checks, validate definitions (schema.withChecks checks) subject path =
      Judge.ofNode definitions (validate definitions) (schema.withChecks checks)
        (schema.parts (validate definitions)) subject path := by
    intro checks
    rw [validate_eq]
    cases schema
    rfl
  simp only [node]
  exact Judge.ofNode_conjunction definitions _ schema _ subject path

/-! ### Verdicts -/

namespace Schema

/-- The node with these checks accepts the value at the path. -/
def AcceptsWith (definitions : Definitions) (schema : Schema) (subject : Value) (path : Path)
    (checks : List Check) : Prop :=
  validate definitions (schema.withChecks checks) subject path = .ok []

/-- The node with these checks comes to a verdict on the value at the path. -/
def AnswersWith (definitions : Definitions) (schema : Schema) (subject : Value) (path : Path)
    (checks : List Check) : Prop :=
  ∃ issues, validate definitions (schema.withChecks checks) subject path = .ok issues

/-- A method that declares one more check makes the other schema from this one. -/
inductive Gains (schema : Schema) : Schema → Prop
  | min (bound : Value) (inclusive : Bool) : Gains schema (schema.min bound inclusive)
  | max (bound : Value) (inclusive : Bool) : Gains schema (schema.max bound inclusive)
  | length (bound : Value) : Gains schema (schema.length bound)
  | nonempty : Gains schema schema.nonempty
  | int : Gains schema schema.int
  | regex {pattern : Value} {next : Schema} (made : schema.regex pattern = .ok next) :
      Gains schema next
  | format {check : Check} (isFormat : check ∈ [.email, .url, .uuid, .datetime]) :
      Gains schema (schema.withCheck check)

/-- Every step of a builder that gains a check puts it last. -/
theorem Gains.exists_check {schema next : Schema} (gains : schema.Gains next) :
    ∃ check, next = schema.withChecks (schema.checks ++ [check]) := by
  cases gains with
  | @regex pattern _ made =>
    cases pattern with
    | text source =>
      obtain ⟨-, rfl⟩ := regex_text_eq_ok.1 made
      exact ⟨_, rfl⟩
    | _ =>
      cases made
      exact ⟨_, rfl⟩
  | _ => exact ⟨_, rfl⟩

end Schema

/-- **Checks are a conjunction.** A node with the checks of two lists accepts what it accepts with
each of them alone, and comes to a verdict where it does so with each of them. Hence the order of
checks and their repetition do not matter, and a further check never makes a value accepted that was
not. -/
theorem checks_conjunction (definitions : Schema.Definitions) (schema : Schema) (subject : Value)
    (path : Path) :
    (∀ first second,
      (schema.AcceptsWith definitions subject path (first ++ second) ↔
        schema.AcceptsWith definitions subject path first ∧
          schema.AcceptsWith definitions subject path second) ∧
      (schema.AnswersWith definitions subject path (first ++ second) ↔
        schema.AnswersWith definitions subject path first ∧
          schema.AnswersWith definitions subject path second)) ∧
    (∀ first second, (∀ check, check ∈ first ↔ check ∈ second) →
      (schema.AcceptsWith definitions subject path first ↔
        schema.AcceptsWith definitions subject path second) ∧
      (schema.AnswersWith definitions subject path first ↔
        schema.AnswersWith definitions subject path second)) ∧
    ∀ next, schema.Gains next → validate definitions next subject path = .ok [] →
      validate definitions schema subject path = .ok [] := by
  have conjunction := validate_conjunction definitions schema subject path
  refine ⟨fun first second => ?_, fun first second same => ?_, fun next gains accepted => ?_⟩
  · exact ⟨conjunction.accepts.append first second, conjunction.answers.append first second⟩
  · exact ⟨conjunction.accepts.of_members same, conjunction.answers.of_members same⟩
  · obtain ⟨check, rfl⟩ := gains.exists_check
    have before := ((conjunction.accepts.append schema.checks [check]).1 accepted).1
    rw [Schema.withChecks_self] at before
    exact before

/-- Addresses of two characters: the length suits the text, but the format does not, in whatever
order both are asked for and whatever is asked for besides. -/
theorem checks_conjunction_address :
    Schema.string.AcceptsWith [] (.text "ab") [] [.length (.int 2)] ∧
      ¬ Schema.string.AcceptsWith [] (.text "ab") [] ([.length (.int 2)] ++ [.email]) ∧
      ¬ Schema.string.AcceptsWith [] (.text "ab") [] [.email, .length (.int 2), .email] ∧
      validate [] (Schema.string.withCheck .email).nonempty (.text "ab") [] ≠ .ok [] := by
  have invalid : validate [] (Schema.string.withCheck .email) (.text "ab") [] =
      .ok [⟨[], "Invalid email"⟩] := by
    rfl
  have refused : ¬ Schema.string.AcceptsWith [] (.text "ab") [] [.email] := by
    intro accepted
    cases invalid.symm.trans accepted
  obtain ⟨append, members, _⟩ := checks_conjunction [] .string (.text "ab") []
  obtain ⟨_, _, gains⟩ := checks_conjunction [] (Schema.string.withCheck .email) (.text "ab") []
  have both : ¬ Schema.string.AcceptsWith [] (.text "ab") [] ([.length (.int 2)] ++ [.email]) :=
    fun accepted => refused ((append [.length (.int 2)] [.email]).1.1 accepted).2
  have same : ∀ check, check ∈ [.email, .length (.int 2), .email] ↔
      check ∈ [Check.length (.int 2)] ++ [.email] := by
    intro check
    simp only [List.cons_append, List.nil_append, List.mem_cons, List.not_mem_nil, or_false]
    tauto
  refine ⟨rfl, both, fun accepted => both ((members _ _ same).1.1 accepted), fun accepted => ?_⟩
  cases invalid.symm.trans (gains _ .nonempty accepted)

end Specimen
