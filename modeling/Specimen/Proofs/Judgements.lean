/-
**What judges accept.**

The judge of a node accepts a value if the judges of its children accept the parts of the value, and
it answers at all if they answer. This module says so for each way of building a judge.
-/

import Specimen.Proofs.Distinct
import Specimen.Proofs.Judging
import Specimen.Proofs.Sizes

namespace Specimen

/-! ### Sameness -/

namespace Value

/-- A member is found by looking for the same value. -/
theorem isIn_of_mem {value : Value} {values : List Value} (mem : value ∈ values) :
    value.isIn values = true :=
  List.any_eq_true.2 ⟨value, mem, same_refl value⟩

theorem sameType_refl (value : Value) : value.sameType value = true := by
  cases value <;> simp [sameType]

end Value

/-! ### Fields -/

/-- The entries are those of the fields, in order, each with a value that suits its field. -/
abbrev Value.EntriesOf {α : Type} (suits : String × α → Value → Prop) (fields : List (String × α))
    (entries : List (Value × Value)) : Prop :=
  List.Forall₂ (fun field entry => entry.1 = .text field.1 ∧ suits field entry.2) fields entries

namespace Value

variable {α : Type} {suits : String × α → Value → Prop} {fields : List (String × α)}
variable {entries : List (Value × Value)}

/-- Only a text is the same as a text. -/
theorem text_same_iff {name : String} {other : Value} :
    (Value.text name).same other = true ↔ other = .text name := by
  cases other with
  | text given =>
    simp only [same, beq_iff_eq, text.injEq]
    exact eq_comm
  | _ => simp [same]

/-- A field is found in the first entry under its name. -/
theorem field_cons (first value : Value) (name : String) :
    field? ((first, value) :: entries) name =
      if (Value.text name).same first then some value else field? entries name := by
  unfold field? lookup?
  rw [List.find?_cons]
  split <;> simp [*]

/-- A field that was put has the value that was put, and no other field has changed. -/
theorem field_put (key name : String) (value : Value) :
    field? (put entries (.text key) value) name =
      if key = name then some value else field? entries name := by
  have swapped : (Value.text name).same (.text key) = decide (key = name) := by
    by_cases equal : key = name
    · simp [same, equal]
    · simp [same, equal, Ne.symm equal]
  induction entries with
  | nil =>
    rw [put, field_cons, swapped]
    simp only [decide_eq_true_eq]
  | cons first rest hypothesis =>
    obtain ⟨other, old⟩ := first
    unfold put
    by_cases same : (Value.text key).same other = true
    · rw [if_pos same, text_same_iff.1 same, field_cons, field_cons, swapped]
      by_cases equal : key = name <;> simp [equal]
    · rw [if_neg same, field_cons, field_cons, hypothesis]
      by_cases equal : key = name
      · subst equal
        simp [same]
      · simp [equal]

/-- A field that is not among those put keeps its value. -/
theorem field_putAll_of_notMem (named : EntriesOf suits fields entries) {name : String}
    (other : name ∉ fields.map (·.1)) (before : List (Value × Value)) :
    field? (putAll before entries) name = field? before name := by
  induction named generalizing before with
  | nil => rfl
  | @cons field entry fields entries here _ hypothesis =>
    obtain ⟨key, value⟩ := entry
    obtain ⟨rfl, _⟩ := here
    rw [List.map_cons, List.mem_cons, not_or] at other
    show field? (putAll (put before (.text field.1) value) entries) name = field? before name
    rw [hypothesis other.2, field_put, if_neg (Ne.symm other.1)]

/-- A field that is put among others has the value that was put. -/
theorem field_putAll_of_mem (named : EntriesOf suits fields entries)
    (distinct : (fields.map (·.1)).Nodup) (before : List (Value × Value)) :
    ∀ field ∈ fields, ∃ value, field? (putAll before entries) field.1 = some value ∧
      suits field value := by
  induction named generalizing before with
  | nil => exact List.forall_mem_nil _
  | @cons first entry fields entries here others hypothesis =>
    obtain ⟨key, value⟩ := entry
    obtain ⟨rfl, suited⟩ := here
    rw [List.map_cons, List.nodup_cons] at distinct
    refine List.forall_mem_cons.2 ⟨⟨value, ?_, suited⟩, hypothesis distinct.2 _⟩
    show field? (putAll (put before (.text first.1) value) entries) first.1 = some value
    rw [field_putAll_of_notMem others distinct.1, field_put, if_pos rfl]

/-- Every field is found under its name. -/
theorem field_of_entries (named : EntriesOf suits fields entries)
    (distinct : (fields.map (·.1)).Nodup) :
    ∀ field ∈ fields, ∃ value, field? entries field.1 = some value ∧ suits field value := by
  induction named with
  | nil => exact List.forall_mem_nil _
  | @cons first entry fields entries here others hypothesis =>
    obtain ⟨key, value⟩ := entry
    obtain ⟨rfl, suited⟩ := here
    rw [List.map_cons, List.nodup_cons] at distinct
    refine List.forall_mem_cons.2 ⟨⟨value, ?_, suited⟩, fun field mem => ?_⟩
    · rw [field_cons, same_refl]
      rfl
    · obtain ⟨found, isFound, suitsField⟩ := hypothesis distinct.2 field mem
      have different : field.1 ≠ first.1 := fun equal =>
        distinct.1 (equal ▸ List.mem_map_of_mem mem)
      refine ⟨found, ?_, suitsField⟩
      rw [field_cons, if_neg, isFound]
      exact fun same => different (Value.text.inj (text_same_iff.1 same)).symm

end Value

/-! ### Judgements -/

namespace Judge

/-- The judge has no issue with the value, wherever it stands. -/
def Accepts (judge : Judge) (subject : Value) : Prop := ∀ path, judge subject path = .ok []

/-- The judge says something of the value, wherever it stands. -/
def Answers (judge : Judge) (subject : Value) : Prop :=
  ∀ path, ∃ issues, judge subject path = .ok issues

/-! ### Accepted values -/

section Accepts

variable {element key value : Judge} {checks : List Check} {low : Nat} {high : Option Nat}

/-- A list is accepted if its length is, and every item. -/
theorem array_accepts {items : List Value} (sizes : Check.Sizes checks low high)
    (between : IsBetween low high items.length) (each : ∀ item ∈ items, element.Accepts item) :
    (array checks element).Accepts (.list items) := by
  intro path
  unfold array
  simp only
  rw [gather_accepts_iff.2 fun item mem => each item.1 (List.fst_mem_of_mem_zipIdx mem) _,
    sizes.boundIssues between]
  rfl

theorem memberIssues_accepts {members : List Value} (sizes : Check.Sizes checks low high)
    (between : IsBetween low high members.length)
    (each : ∀ member ∈ members, element.Accepts member) (path : Path) :
    memberIssues checks element members path = .ok [] := by
  unfold memberIssues
  rw [gather_accepts_iff.2 fun member mem => each member mem path, sizes.boundIssues between]
  rfl

theorem areDistinct_append {members : List Value} {member : Value}
    (distinct : areDistinct members = true) (different : member.isIn members = false) :
    areDistinct (members ++ [member]) = true := by
  unfold areDistinct at distinct ⊢
  rw [List.zipIdx_append, List.all_append, Bool.and_eq_true]
  refine ⟨?_, ?_⟩
  · rw [List.all_eq_true] at distinct ⊢
    intro item mem
    have earlier : item.2 ≤ members.length := Nat.le_of_lt (List.snd_lt_of_mem_zipIdx mem)
    rw [List.take_append_of_le_length earlier]
    exact distinct item mem
  · simp [different]

/-- The distinct ones of some values are distinct for the judge. -/
theorem areDistinct_distinct (values : List Value) :
    areDistinct (Value.distinct values) = true := by
  induction values using List.reverseRecOn with
  | nil => rfl
  | append_singleton values value hypothesis =>
    rw [Value.distinct_append]
    split
    · exact hypothesis
    · next new => exact areDistinct_append hypothesis (eq_false_of_ne_true new)

/-- Different members are accepted, be it as a set or as a list. -/
theorem set_accepts {drawn : List Value} (sizes : Check.Sizes checks low high)
    (between : IsBetween low high (Value.distinct drawn).length)
    (each : ∀ value ∈ drawn, element.Accepts value) :
    (set checks element).Accepts (Make.Gathering.ofDrawn drawn).toValue := by
  intro path
  have issues := memberIssues_accepts sizes between
    (fun member mem => each member (Value.mem_of_mem_distinct mem)) path
  rw [Make.Gathering.ofDrawn_toValue]
  split
  · exact issues
  · show (if areDistinct (Value.distinct drawn) then
        memberIssues checks element (Value.distinct drawn) path
      else report path "Set members must be distinct") = .ok []
    rw [if_pos (areDistinct_distinct drawn), issues]

/-- A dictionary is accepted if every key and every value is. -/
theorem mapping_accepts {tag : String} {entries : List (Value × Value)}
    (each : ∀ entry ∈ entries, key.Accepts entry.1 ∧ value.Accepts entry.2) :
    (mapping tag key value).Accepts (.dictionary entries) := by
  intro path
  refine gather_accepts_iff.2 fun entry mem => ?_
  simp only
  rw [(each entry mem).1, (each entry mem).2]
  rfl

/-- A dictionary is accepted if every field is, be it there or absent. -/
theorem object_accepts {fields : List (String × Judge)} {entries : List (Value × Value)}
    (each : ∀ field ∈ fields, field.2.Accepts ((Value.field? entries field.1).getD .absent)) :
    (object fields).Accepts (.dictionary entries) :=
  fun path => gather_accepts_iff.2 fun field mem => each field mem (path ++ [.name field.1])

/-- Entries in the order of the fields are accepted if each is by the judge of its field. -/
theorem object_accepts_entries {judge : Schema → Judge} {fields : List (String × Schema)}
    {entries : List (Value × Value)}
    (each : Value.EntriesOf (fun field value => (judge field.2).Accepts value) fields entries)
    (distinct : (fields.map (·.1)).Nodup) :
    (object (fields.map fun field => (field.1, judge field.2))).Accepts (.dictionary entries) := by
  refine object_accepts fun field mem => ?_
  obtain ⟨described, listed, rfl⟩ := List.mem_map.1 mem
  obtain ⟨found, isFound, accepted⟩ := Value.field_of_entries each distinct described listed
  rw [isFound]
  exact accepted

/-- The items of a tuple are accepted one by one, and what follows them by the judge of the rest. -/
theorem tuple_accepts {judges : List Judge} {rest : Option Judge} {fixed others : List Value}
    (each : List.Forall₂ Accepts judges fixed) (closed : rest = none → others = [])
    (following : ∀ judge, rest = some judge → ∀ item ∈ others, judge.Accepts item) :
    (tuple judges rest).Accepts (.tuple (fixed ++ others)) := by
  intro path
  have same : judges.length = fixed.length := each.length_eq
  have enough : ¬ (decide ((fixed ++ others).length < judges.length) ||
      (rest.isNone && (fixed ++ others).length != judges.length)) = true := by
    rw [List.length_append]
    cases rest with
    | none => simp [closed rfl, same]
    | some judge => simp [same]
  unfold tuple
  simp only [positions?]
  rw [if_neg enough]
  refine gather_accepts_iff.2 fun item mem => ?_
  rw [List.mem_zipIdx_iff_getElem?] at mem
  by_cases inside : item.2 < fixed.length
  · rw [List.getElem?_append_left inside, List.getElem?_eq_getElem inside] at mem
    have accepted := each.get (same ▸ inside) inside
    have found : fixed.get ⟨item.2, inside⟩ = item.1 := Option.some.inj mem
    rw [List.getElem?_eq_getElem (same ▸ inside), ← found]
    exact accepted _
  · rw [List.getElem?_append_right (by omega)] at mem
    have listed : item.1 ∈ others := List.mem_of_getElem? mem
    rw [List.getElem?_eq_none (by omega)]
    cases rest with
    | none =>
      rw [closed rfl] at listed
      cases listed
    | some judge => exact following judge rfl item.1 listed _

/-- A union accepts what one of its options accepts, if the options before that answer. -/
theorem union_accepts {schemas : List Schema} {judge : Schema → Judge}
    {related : Schema → Schema → Prop} (ordered : schemas.Pairwise related) {chosen : Schema}
    (mem : chosen ∈ schemas) {subject : Value} (accepted : (judge chosen).Accepts subject)
    (answers : ∀ earlier ∈ schemas, related earlier chosen → (judge earlier).Answers subject) :
    (union (schemas.map judge)).Accepts subject := by
  intro path
  have some : anyAccepts (schemas.map judge) subject path = .ok true := by
    induction ordered with
    | nil => cases mem
    | @cons first others before _ hypothesis =>
      rw [List.map_cons, anyAccepts]
      rcases List.mem_cons.1 mem with rfl | later
      · rw [accepted path]
        rfl
      · obtain ⟨issues, answered⟩ := answers first List.mem_cons_self (before chosen later) path
        have rest := hypothesis later fun earlier listed =>
          answers earlier (List.mem_cons_of_mem _ listed)
        rw [answered]
        cases issues with
        | nil => rfl
        | cons issue issues => exact rest
  unfold union
  rw [some]
  rfl

/-- What every part accepts is accepted. -/
theorem intersection_accepts {judges : List Judge} {subject : Value}
    (each : ∀ judge ∈ judges, judge.Accepts subject) : (intersection judges).Accepts subject :=
  fun path => gather_accepts_iff.2 fun judge mem => each judge mem path

/-- An absent value is accepted, or what the wrapped judge accepts. -/
theorem optional_accepts {inner : Judge} {subject : Value}
    (accepted : subject ≠ .absent → inner.Accepts subject) : (optional inner).Accepts subject := by
  intro path
  unfold optional
  cases subject with
  | absent => rfl
  | _ => exact accepted nofun path

/-- Null is accepted, or what the wrapped judge accepts. -/
theorem nullable_accepts {inner : Judge} {subject : Value}
    (accepted : subject ≠ .null → inner.Accepts subject) : (nullable inner).Accepts subject := by
  intro path
  unfold nullable
  cases subject with
  | null => rfl
  | _ => exact accepted nofun path

/-- A listed value that stands for itself is accepted. -/
theorem oneOf_accepts {values : List Value} {found : Value} (mem : found ∈ values)
    (plain : memberValue found = found) : (oneOf values).Accepts found := by
  intro path
  unfold oneOf
  simp only [plain, Value.isIn_of_mem mem, if_true]

/-- A literal accepts itself, unless it is not a number. -/
theorem literal_accepts {expected : Value} (isNumber : expected.isNan = false) :
    (literal expected).Accepts expected := by
  intro path
  unfold literal Value.equals
  rw [isNumber, Value.same_refl, Value.sameType_refl]
  rfl

end Accepts

/-! ### Answers -/

section Answers

variable {subject : Value} {element key value : Judge}

/-- The judge of a text answers if all formats can be told. -/
theorem string_answers [Format.LocationRules] {checks : List Check}
    (formats : ∀ text, subject = .text text → ∀ check ∈ checks,
      ∃ message, formatMessage text check = .ok message) : (string checks).Answers subject := by
  intro path
  cases subject with
  | text text =>
    obtain ⟨messages, found⟩ := exists_mapM_ok (formats text rfl)
    unfold string
    simp only
    rw [found]
    exact ⟨_, rfl⟩
  | _ => exact ⟨_, rfl⟩

theorem numberIssues_answers {checks : List Check} {path : Path}
    (whole : .integer ∈ checks → ∃ answer, isWhole subject = .ok answer) :
    ∃ issues, numberIssues checks subject path = .ok issues := by
  unfold numberIssues
  simp only
  split
  · next asked =>
    obtain ⟨check, mem, named⟩ := List.any_eq_true.1 asked
    have isInteger : check = .integer := by
      cases check with
      | integer => rfl
      | _ => cases named
    obtain ⟨answer, found⟩ := whole (isInteger ▸ mem)
    rw [found]
    cases answer <;> exact ⟨_, rfl⟩
  · exact ⟨_, rfl⟩

/-- The judge of a number answers if it can be told whether the number is whole. -/
theorem number_answers {checks : List Check}
    (whole : .integer ∈ checks → ∀ number : Int, subject = .int number →
      ∃ answer, isWhole subject = .ok answer) : (number checks).Answers subject := by
  intro path
  cases subject with
  | int given => exact numberIssues_answers fun asked => whole asked given rfl
  | float given =>
    unfold number
    simp only
    split
    · exact ⟨_, rfl⟩
    · exact numberIssues_answers fun _ => ⟨_, rfl⟩
  | _ => exact ⟨_, rfl⟩

/-- A judge that reports what it does not accept answers. -/
theorem ite_answers (accepts : Value → Bool) (message : Value → Path → Except Fault (List Issue))
    (reports : ∀ path, ∃ issues, message subject path = .ok issues) :
    Answers (fun subject path => if accepts subject then .ok [] else message subject path)
      subject := by
  intro path
  simp only
  split
  · exact ⟨_, rfl⟩
  · exact reports path

/-- The judge of an object answers if its fields do. -/
theorem object_answers {fields : List (String × Judge)}
    (each : ∀ field ∈ fields, ∀ part, subject.Offers part → field.2.Answers part) :
    (object fields).Answers subject := by
  intro path
  cases subject with
  | dictionary entries =>
    exact gather_answers_iff.2 fun field mem => each field mem _ (Value.offers_field entries field.1) _
  | _ => exact ⟨_, rfl⟩

/-- The judge of a list answers if that of its items does. -/
theorem array_answers {checks : List Check} (each : ∀ part ∈ subject.contents, element.Answers part) :
    (array checks element).Answers subject := by
  intro path
  cases subject with
  | list items =>
    have answered : ∃ issues, gather (fun item : Value × Nat =>
        element item.1 (path ++ [.position item.2])) items.zipIdx = .ok issues :=
      gather_answers_iff.2 fun item mem => each item.1 (List.fst_mem_of_mem_zipIdx mem) _
    obtain ⟨issues, found⟩ := answered
    unfold array
    simp only
    rw [found]
    exact ⟨_, rfl⟩
  | _ => exact ⟨_, rfl⟩

theorem memberIssues_answers {checks : List Check} {members : List Value} {path : Path}
    (each : ∀ member ∈ members, element.Answers member) :
    ∃ issues, memberIssues checks element members path = .ok issues := by
  obtain ⟨issues, found⟩ := gather_answers_iff.2 fun member mem => each member mem path
  unfold memberIssues
  rw [found]
  exact ⟨_, rfl⟩

/-- The judge of a set answers if that of its members does. -/
theorem set_answers {checks : List Check} (each : ∀ part ∈ subject.contents, element.Answers part) :
    (set checks element).Answers subject := by
  intro path
  cases subject with
  | list items =>
    unfold set
    simp only
    split
    · exact memberIssues_answers each
    · exact ⟨_, rfl⟩
  | set members => exact memberIssues_answers each
  | _ => exact ⟨_, rfl⟩

/-- The judge of a dictionary answers if those of its keys and values do. -/
theorem mapping_answers {tag : String}
    (each : ∀ part ∈ subject.contents, key.Answers part ∧ value.Answers part) :
    (mapping tag key value).Answers subject := by
  intro path
  cases subject with
  | dictionary entries =>
    refine gather_answers_iff.2 fun entry mem => ?_
    obtain ⟨first, second⟩ := Value.mem_contents_dictionary mem
    obtain ⟨issues, ofKey⟩ := (each entry.1 first).1 (path ++ [.name entry.1.display])
    obtain ⟨others, ofValue⟩ := (each entry.2 second).2 (path ++ [.name entry.1.display])
    simp only
    rw [ofKey, ofValue]
    exact ⟨_, rfl⟩
  | _ => exact ⟨_, rfl⟩

/-- The judge of a tuple answers if those of its items do, and that of the rest. -/
theorem tuple_answers {judges : List Judge} {rest : Option Judge}
    (each : ∀ judge ∈ judges, ∀ part ∈ subject.contents, judge.Answers part)
    (following : ∀ judge, rest = some judge → ∀ part ∈ subject.contents, judge.Answers part) :
    (tuple judges rest).Answers subject := by
  intro path
  unfold tuple
  split
  · exact ⟨_, rfl⟩
  · next subjects found =>
    have parts := positions_eq found
    split
    · exact ⟨_, rfl⟩
    · next fits =>
      refine gather_answers_iff.2 fun item mem => ?_
      have listed : item.1 ∈ subject.contents := parts ▸ List.fst_mem_of_mem_zipIdx mem
      have place := List.snd_lt_of_mem_zipIdx mem
      cases judged : judges[item.2]? with
      | some judge => exact each judge (List.mem_of_getElem? judged) item.1 listed _
      | none =>
        cases rest with
        | some judge => exact following judge rfl item.1 listed _
        | none =>
          rw [List.getElem?_eq_none_iff] at judged
          simp at fits
          omega

/-- It can be told whether an option accepts if every option answers. -/
theorem anyAccepts_answers {options : List Judge} {path : Path}
    (each : ∀ option ∈ options, option.Answers subject) :
    ∃ answer, anyAccepts options subject path = .ok answer := by
  induction options with
  | nil => exact ⟨false, rfl⟩
  | cons first others hypothesis =>
    rw [List.forall_mem_cons] at each
    obtain ⟨issues, answered⟩ := each.1 path
    rw [anyAccepts, answered]
    cases issues with
    | nil => exact ⟨true, rfl⟩
    | cons issue issues => exact hypothesis each.2

/-- The judge of a union answers if every option does. -/
theorem union_answers {options : List Judge} (each : ∀ option ∈ options, option.Answers subject) :
    (union options).Answers subject := by
  intro path
  obtain ⟨answer, found⟩ := anyAccepts_answers each
  unfold union
  rw [found]
  cases answer <;> exact ⟨_, rfl⟩

/-- The judge of an intersection answers if every part does. -/
theorem intersection_answers {judges : List Judge}
    (each : ∀ judge ∈ judges, judge.Answers subject) : (intersection judges).Answers subject :=
  fun path => gather_answers_iff.2 fun judge mem => each judge mem path

/-- A judge that also accepts absent values answers. -/
theorem optional_answers {inner : Judge} (answers : inner.Answers subject) :
    (optional inner).Answers subject := by
  intro path
  unfold optional
  split
  · exact ⟨_, rfl⟩
  · exact answers path

/-- A judge that also accepts null answers. -/
theorem nullable_answers {inner : Judge} (answers : inner.Answers subject) :
    (nullable inner).Answers subject := by
  intro path
  unfold nullable
  split
  · exact ⟨_, rfl⟩
  · exact answers path

end Answers

end Judge

end Specimen
