/-
**What judges decide.**

A judge decides a property of a value if it answers, and finds no issue exactly if the property
holds. This module says of each way of building a judge what it decides, given what the judges of
the children decide.
-/

import Specimen.Proofs.Answering

namespace Specimen

/-- The result is there, and without an issue exactly if the property holds. -/
def Settles (result : Except Fault (List Issue)) (holds : Prop) : Prop :=
  ∃ issues, result = .ok issues ∧ (issues = [] ↔ holds)

namespace Settles

variable {result : Except Fault (List Issue)} {holds other : Prop}

/-- What is settled can be put in other words. -/
theorem congr (settles : Settles result holds) (same : holds ↔ other) : Settles result other := by
  obtain ⟨issues, answered, decides⟩ := settles
  exact ⟨issues, answered, decides.trans same⟩

theorem accept (true : holds) : Settles (.ok []) holds :=
  ⟨[], rfl, iff_of_true rfl true⟩

theorem report (path : Path) (message : String) (false : ¬ holds) :
    Settles (Judge.report path message) holds :=
  ⟨_, rfl, iff_of_false (List.cons_ne_nil _ _) false⟩

/-- The issues of a list are none if each of its members has none. -/
theorem gather {Subject : Type} {judge : Subject → Except Fault (List Issue)}
    {subjects : List Subject} {each : Subject → Prop}
    (settles : ∀ subject ∈ subjects, Settles (judge subject) (each subject)) :
    Settles (Judge.gather judge subjects) (∀ subject ∈ subjects, each subject) := by
  have answered : ∃ answers, subjects.mapM judge = .ok answers ∧
      (answers.flatten = [] ↔ ∀ subject ∈ subjects, each subject) := by
    induction subjects with
    | nil => exact ⟨[], rfl, iff_of_true rfl (List.forall_mem_nil _)⟩
    | cons first rest hypothesis =>
      rw [List.forall_mem_cons] at settles
      obtain ⟨⟨issues, found, here⟩, later⟩ := settles
      obtain ⟨others, rest, there⟩ := hypothesis later
      refine ⟨issues :: others, by rw [List.mapM_cons, found, rest]; rfl, ?_⟩
      rw [List.flatten_cons, List.append_eq_nil_iff, List.forall_mem_cons, here, there]
  obtain ⟨answers, found, decides⟩ := answered
  exact ⟨answers.flatten, by rw [Judge.gather, found]; rfl, decides⟩

end Settles

namespace Judge

/-- Wherever the value stands, the judge answers, and finds no issue exactly if the property holds.
-/
def Decides (judge : Judge) (subject : Value) (holds : Prop) : Prop :=
  ∀ path, Settles (judge subject path) holds

variable {subject : Value} {checks : List Check} {holds other : Prop}

theorem Decides.congr {judge : Judge} (decides : judge.Decides subject holds)
    (same : holds ↔ other) : judge.Decides subject other := fun path => (decides path).congr same

theorem Decides.accepts {judge : Judge} (decides : judge.Decides subject holds) (true : holds) :
    judge.Accepts subject := by
  intro path
  obtain ⟨issues, answered, settled⟩ := decides path
  rw [answered, settled.2 true]

end Judge

/-- The checks ask this of the number that is measured, and that it be whole if `whole` says so. -/
inductive Check.Ask (whole : Bool) : List Check → (Rat → Prop) → Prop
  | free (isWhole : whole = false) : Ask whole [] fun _ => True
  | integer (isWhole : whole = true) : Ask whole [.integer] fun _ => True
  | min {checks : List Check} {asked : Rat → Prop} (before : Ask whole checks asked) {bound : Value}
      {limit : Rat} (isLimit : bound.toExtended? = some (.rational limit)) (inclusive : Bool) :
      Ask whole (checks ++ [.min bound inclusive]) fun value =>
        asked value ∧ Within inclusive limit value
  | max {checks : List Check} {asked : Rat → Prop} (before : Ask whole checks asked) {bound : Value}
      {limit : Rat} (isLimit : bound.toExtended? = some (.rational limit)) (inclusive : Bool) :
      Ask whole (checks ++ [.max bound inclusive]) fun value =>
        asked value ∧ Within inclusive value limit

namespace Check.Ask

variable {whole : Bool} {checks : List Check} {asked : Rat → Prop}

/-- The bounds have no message about a number exactly if it is as they ask. -/
theorem silent_iff (asks : Ask whole checks asked) {measured : Value} {value : Rat}
    (isValue : measured.toExtended? = some (.rational value)) (noun : String) (path : Path) :
    Judge.boundIssues checks noun measured path = [] ↔ asked value := by
  have messages : (∀ check ∈ checks, Judge.boundMessage noun measured check = none) ↔
      asked value := by
    induction asks with
    | free => exact iff_of_true (List.forall_mem_nil _) True.intro
    | integer => exact iff_of_true (List.forall_mem_singleton.2 rfl) True.intro
    | min _ isLimit inclusive hypothesis =>
      rw [List.forall_mem_append, List.forall_mem_singleton, hypothesis,
        Judge.boundMessage_min _ isValue isLimit]
    | max _ isLimit inclusive hypothesis =>
      rw [List.forall_mem_append, List.forall_mem_singleton, hypothesis,
        Judge.boundMessage_max _ isValue isLimit]
  rw [← messages, Judge.boundIssues, List.map_eq_nil_iff, List.filterMap_eq_nil_iff]

/-- Bounds have nothing to say about the form of a text. -/
theorem formatMessage_eq (asks : Ask whole checks asked) (text : String) :
    ∀ check ∈ checks, Judge.formatMessage text check = .ok none := by
  induction asks with
  | free => exact List.forall_mem_nil _
  | integer => exact List.forall_mem_singleton.2 rfl
  | min _ _ _ hypothesis | max _ _ _ hypothesis =>
    exact List.forall_mem_append.2 ⟨hypothesis, List.forall_mem_singleton.2 rfl⟩

theorem any_integer (asks : Ask whole checks asked) :
    (checks.any fun check => check.name == Check.integer.name) = whole := by
  induction asks with
  | free isWhole | integer isWhole => exact isWhole.symm
  | min _ _ _ hypothesis | max _ _ _ hypothesis =>
    rw [List.any_append, hypothesis]
    exact Bool.or_false _

end Check.Ask

namespace Judge

variable {subject : Value} {checks : List Check} {whole : Bool} {asked : Rat → Prop}

/-! ### Leaves -/

/-- A natural number on the line of numbers. -/
theorem toExtended_natCast (size : Nat) :
    (Value.int size).toExtended? = some (.rational (size : Rat)) := rfl

/-- The judge of a text decides whether its length is as asked. -/
theorem string_decides (asks : Check.Ask whole checks asked) :
    (string checks).Decides subject (∃ text, subject = .text text ∧ asked text.length) := by
  intro path
  cases subject with
  | text text =>
    refine ⟨_, string_eq_bounds (asks.formatMessage_eq text) path, ?_⟩
    rw [asks.silent_iff (toExtended_natCast text.length)]
    simp
  | _ => exact .report _ _ (by simp)

/-- The issues of a number settle whether it is as asked, and whole if that is asked. -/
theorem numberIssues_settles (asks : Check.Ask whole checks asked) {value : Rat}
    (isValue : subject.toExtended? = some (.rational value))
    (told : isWhole subject = .ok (value.den == 1)) (path : Path) :
    Settles (numberIssues checks subject path) (asked value ∧ (whole = true → value.den = 1)) := by
  have silent := asks.silent_iff isValue "value" path
  unfold numberIssues
  simp only [asks.any_integer, told]
  cases whole with
  | false => exact ⟨_, rfl, by simp [silent]⟩
  | true =>
    by_cases one : value.den = 1
    · refine ⟨boundIssues checks "value" subject path, ?_, by simp [silent, one]⟩
      simp only [one]
      rfl
    · refine ⟨boundIssues checks "value" subject path ++ [⟨path, "Expected integer"⟩], ?_,
        by simp [one]⟩
      simp only [beq_eq_false_iff_ne.2 one]
      rfl

/-- Floats are taken to be finite, and integers to be told whole. -/
theorem number_decides (asks : Check.Ask whole checks asked)
    (finite : ∀ number, subject = .float number →
      number.toExtended? = some (.rational number.toRat))
    (small : ∀ number : Int, subject = .int number → isWhole subject = .ok true) :
    (number checks).Decides subject (∃ value, subject.toExtended? = some (.rational value) ∧
      (∀ truth, subject ≠ .bool truth) ∧ asked value ∧ (whole = true → value.den = 1)) := by
  intro path
  cases subject with
  | int number =>
    have isValue : (Value.int number).toExtended? = some (.rational (number : Rat)) := rfl
    refine (numberIssues_settles asks isValue (small number rfl) path).congr ?_
    simp [Value.toExtended?]
  | float number =>
    have isValue : (Value.float number).toExtended? = some (.rational number.toRat) :=
      finite number rfl
    have notNan : number.isNan = false := by
      cases number with
      | nan _ => cases isValue
      | _ => rfl
    have told : isWhole (.float number) = .ok (number.toRat.den == 1) := by
      cases number with
      | finite _ _ _ => rfl
      | infinite negative => cases negative <;> cases isValue
      | nan _ => cases isValue
    unfold Judge.number
    simp only [notNan]
    refine (numberIssues_settles asks isValue told path).congr ?_
    simp [isValue]
  | bool truth => exact .report _ _ (by simp)
  | _ => exact .report _ _ (by simp [Value.toExtended?])

/-- The judge of a boolean decides whether the value is one. -/
theorem boolean_decides : boolean.Decides subject (∃ truth, subject = .bool truth) := by
  intro path
  cases subject with
  | bool truth => exact .accept ⟨truth, rfl⟩
  | _ => exact .report _ _ (by simp)

theorem null_decides : null.Decides subject (subject = .null) := by
  intro path
  cases subject with
  | null => exact .accept rfl
  | _ => exact .report _ _ (by simp)

/-- The judge of an enumeration decides whether the value is listed. -/
theorem oneOf_decides {values : List Value} :
    (oneOf values).Decides subject ((memberValue subject).isIn values = true) := by
  intro path
  unfold oneOf
  simp only
  split
  · next found => exact .accept found
  · next missing => exact .report _ _ missing

/-- The judge of a literal decides whether the value equals it and is of its type. -/
theorem literal_decides {expected : Value} : (literal expected).Decides subject
    ((subject.equals expected && subject.sameType expected) = true) := by
  intro path
  unfold literal
  split
  · next same => exact .accept same
  · next other => exact .report _ _ other

/-! ### Collections -/

section Collections

variable {key value element : Judge} {Part : Type} {parts : List Part} {each : Part → Prop}

/-- The judge of a list decides whether its length is as asked and every item is as its judge asks.
-/
theorem array_decides (asks : Check.Ask whole checks asked) {item : Part → Value}
    (decides : ∀ part ∈ parts, element.Decides (item part) (each part)) :
    (array checks element).Decides (.list (parts.map item))
      (asked parts.length ∧ ∀ part ∈ parts, each part) := by
  intro path
  have gathered : Settles (gather (fun found : Value × Nat =>
      element found.1 (path ++ [.position found.2])) (parts.map item).zipIdx)
        (∀ found ∈ parts.zipIdx, each found.1) := by
    rw [List.zipIdx_map, gather_map]
    exact .gather fun found mem => decides found.1 (List.fst_mem_of_mem_zipIdx mem) _
  obtain ⟨issues, found, settled⟩ := gathered
  have same : (∀ found ∈ parts.zipIdx, each found.1) ↔ ∀ part ∈ parts, each part := by
    constructor
    · intro holds part mem
      obtain ⟨place, isPlace⟩ := List.mem_iff_getElem?.1 mem
      exact holds (part, place) (List.mem_zipIdx_iff_getElem?.2 isPlace)
    · exact fun holds found mem => holds found.1 (List.fst_mem_of_mem_zipIdx mem)
  refine ⟨boundIssues checks "size" (.int (parts.map item).length) path ++ issues, ?_, ?_⟩
  · unfold array
    simp only
    rw [found]
    rfl
  · rw [List.append_eq_nil_iff, asks.silent_iff (toExtended_natCast _), settled, same,
      List.length_map]

/-- The judge of a dictionary decides whether every value is as its judge asks. -/
theorem mapping_decides (tag : String) {entry : Part → Value × Value}
    (accepts : ∀ part ∈ parts, key.Accepts (entry part).1)
    (decides : ∀ part ∈ parts, value.Decides (entry part).2 (each part)) :
    (mapping tag key value).Decides (.dictionary (parts.map entry))
      (∀ part ∈ parts, each part) := by
  intro path
  unfold mapping
  simp only
  rw [gather_map]
  refine .gather fun part mem => ?_
  obtain ⟨issues, found, settled⟩ := decides part mem (path ++ [.name (entry part).1.display])
  refine ⟨issues, ?_, settled⟩
  rw [accepts part mem, found]
  rfl

/-- The judge of an object decides whether every field is as its judge asks, or may be lacking. -/
theorem object_decides {judge : Part → String × Judge} {entries : List (Value × Value)}
    (decides : ∀ part ∈ parts,
      (judge part).2.Decides ((Value.field? entries (judge part).1).getD .absent) (each part)) :
    (object (parts.map judge)).Decides (.dictionary entries) (∀ part ∈ parts, each part) := by
  intro path
  unfold object
  simp only
  rw [gather_map]
  exact .gather fun part mem => decides part mem _

end Collections

/-! ### Combinations -/

section Combinations

variable {judge : Judge} {holds : Prop} {Part : Type} {parts : List Part} {each : Part → Prop}

/-- The judge of a union decides whether one of its parts holds. -/
theorem union_decides {judge : Part → Judge}
    (decides : ∀ part ∈ parts, (judge part).Decides subject (each part)) :
    (union (parts.map judge)).Decides subject (∃ part ∈ parts, each part) := by
  intro path
  have answered : ∃ answer, anyAccepts (parts.map judge) subject path = .ok answer ∧
      (answer = true ↔ ∃ part ∈ parts, each part) := by
    induction parts with
    | nil => exact ⟨false, rfl, by simp⟩
    | cons first others hypothesis =>
      rw [List.forall_mem_cons] at decides
      obtain ⟨issues, found, here⟩ := decides.1 path
      obtain ⟨answer, rest, there⟩ := hypothesis decides.2
      rw [List.map_cons, anyAccepts, found]
      cases issues with
      | nil => exact ⟨true, rfl, iff_of_true rfl ⟨first, List.mem_cons_self, here.1 rfl⟩⟩
      | cons issue issues =>
        refine ⟨answer, rest, ?_⟩
        rw [there]
        simp [← here]
  obtain ⟨answer, found, decided⟩ := answered
  unfold union
  rw [found]
  cases answer with
  | true => exact .accept (decided.1 rfl)
  | false => exact .report _ _ fun accepted => Bool.false_ne_true (decided.2 accepted)

/-- The judge of an intersection decides whether all of its parts hold. -/
theorem intersection_decides {judge : Part → Judge}
    (decides : ∀ part ∈ parts, (judge part).Decides subject (each part)) :
    (intersection (parts.map judge)).Decides subject (∀ part ∈ parts, each part) := by
  intro path
  unfold intersection
  rw [gather_map]
  exact .gather fun part mem => decides part mem path

theorem optional_decides (decides : subject ≠ .absent → judge.Decides subject holds) :
    (optional judge).Decides subject (subject = .absent ∨ holds) := by
  intro path
  unfold optional
  cases subject with
  | absent => exact .accept (.inl rfl)
  | _ => exact (decides (by simp) path).congr (by simp)

theorem nullable_decides (decides : subject ≠ .null → judge.Decides subject holds) :
    (nullable judge).Decides subject (subject = .null ∨ holds) := by
  intro path
  unfold nullable
  cases subject with
  | null => exact .accept (.inl rfl)
  | _ => exact (decides (by simp) path).congr (by simp)

end Combinations

end Judge

/-! ### Nodes -/

/-- A node decides of a value that is there what its kind decides. -/
theorem validate_decides {definitions : Schema.Definitions} {schema : Schema} {value : Value}
    {holds : Prop} (regarded : value ≠ .absent ∨ schema.kind.acceptsAbsent = true)
    (decides : Judge.Decides (Judge.ofKind definitions (validate definitions) schema
      (schema.parts (validate definitions))) value holds) :
    Judge.Decides (validate definitions schema) value holds := by
  have passes : ¬ (value.isAbsent && !schema.kind.acceptsAbsent) = true := by
    rcases regarded with present | lenient
    · cases value with
      | absent => exact absurd rfl present
      | _ => simp [Value.isAbsent]
    · simp [lenient]
  intro path
  rw [validate_eq]
  unfold Judge.ofNode
  rw [if_neg passes]
  exact decides path

/-- A node whose kind refuses absent values refuses them. -/
theorem validate_absent {definitions : Schema.Definitions} {schema : Schema}
    (refuses : schema.kind.acceptsAbsent = false) :
    Judge.Decides (validate definitions schema) .absent False := by
  intro path
  rw [validate_eq]
  unfold Judge.ofNode
  rw [if_pos (by simp [Value.isAbsent, refuses])]
  exact .report _ _ id

end Specimen
