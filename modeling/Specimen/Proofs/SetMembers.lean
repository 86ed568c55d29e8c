/-
**The members of a set.**

A set is filled by drawing values one after another and keeping those that do not equal an earlier
one. Its members are therefore the first occurrences of what was drawn (`Value.firsts`), which the
library has as `List.eraseDupsBy`; the two searches by which the source looks for them come to the
same (`Specimen.Proofs.Distinct`).

They do if none of the values that may be in a set is the same as one that may not; a frozen set is
not looked up among the other sets (`generate_set_members_fails`).

Values are drawn until there are as many different ones as the set aims at, or until no attempt is
left, and not one value more (`Make.gather_ends`). There is a record if the set stays too small, and
only then; and only an unknown kind breaks the set off (`generate_set_members`).
-/

import Specimen.Proofs.CollectionSizes
import Specimen.Proofs.Distinct

namespace Specimen

open Run (Yields Gives Repeats LoopEnds IsLoop)

/-! ### First occurrences -/

namespace Value

/-- The values without those that equal an earlier one. -/
def firsts (values : List Value) : List Value := values.eraseDupsBy equals

/-- All values but those that are not a number are equal if they are the same. -/
theorem equals_eq_same {value : Value} (isNumber : value.isNan = false) (other : Value) :
    value.equals other = value.same other := by
  rw [equals, isNumber, Bool.not_false, Bool.true_and]

theorem distinct_eq_firsts {values : List Value} (numbers : ∀ value ∈ values, value.isNan = false) :
    distinct values = firsts values := by
  -- The library gathers the values that were found in reverse order.
  have gathered : ∀ found : List Value,
      values.foldl (fun found item => if item.isIn found then found else found ++ [item]) found =
        List.eraseDupsBy.loop equals values found.reverse := by
    induction values with
    | nil => exact fun found => found.reverse_reverse.symm
    | cons value rest hypothesis =>
      intro found
      rw [List.forall_mem_cons] at numbers
      have known : found.reverse.any (value.equals ·) = value.isIn found := by
        rw [List.any_reverse, isIn]
        simp only [equals_eq_same numbers.1]
      rw [List.foldl_cons, hypothesis numbers.2, List.eraseDupsBy.loop, known]
      cases value.isIn found with
      | true => rfl
      | false => simp
  exact gathered []

/-- No first occurrence equals an earlier one. -/
theorem pairwise_firsts {values : List Value} (numbers : ∀ value ∈ values, value.isNan = false) :
    (firsts values).Pairwise fun earlier later => later.equals earlier = false := by
  rw [← distinct_eq_firsts numbers]
  refine (unrepeated_distinct values).imp_of_mem fun _ mem differ => ?_
  rw [equals_eq_same (numbers _ (mem_of_mem_distinct mem)), differ]

theorem length_distinct_append (values : List Value) (value : Value) :
    (distinct (values ++ [value])).length ≤ (distinct values).length + 1 := by
  rw [distinct_append]
  split
  · exact Nat.le_succ _
  · rw [List.length_append, List.length_singleton]

end Value

/-! ### Gathering -/

namespace Make

/-- Members as a set, or as a list if something was drawn that cannot be in a set. -/
def membersValue (drawn members : List Value) : Value :=
  if drawn.all Value.isHashable then .set members else .list members

/-- How filling a set ends for which these values were drawn, which come to these members. -/
inductive SetEnds (make : Run Value) (target : Int) (drawn members : List Value) (after : Session) :
    Except Fault Value × Session → Prop
  | enough (reached : target ≤ members.length) :
      SetEnds make target drawn members after (.ok (membersValue drawn members), after)
  | exhausted (short : members.length < target)
      (tried : (drawn.length : Int) = max 10 (10 * target)) :
      SetEnds make target drawn members after (.ok (membersValue drawn members),
        { after with
          log := exhaustedRecord "Set element" "values" members.length target :: after.log })
  | failed {fault : Fault} {last : Session} (short : members.length < target)
      (left : (drawn.length : Int) < max 10 (10 * target))
      (fails : make after = (.error fault, last)) :
      SetEnds make target drawn members after (.error fault, last)

/-- Adding draws one after another gathers what was drawn. -/
theorem Gathering.foldlM_add {drawn : List Value} (apart : Value.Apart (· ∈ drawn)) :
    drawn.foldlM (fun (found : Gathering) value => (.ok (found.add value) : Except Fault _)) {} =
      .ok (ofDrawn drawn) := by
  have gathered : drawn.foldl add {} = ofDrawn drawn := by
    induction drawn using List.reverseRecOn with
    | nil => rfl
    | append_singleton drawn value hypothesis =>
      have earlier : Value.Apart (· ∈ drawn) :=
        apart.mono fun value mem => List.mem_append_left _ mem
      rw [List.foldl_append, hypothesis earlier, List.foldl_cons, List.foldl_nil, ofDrawn_add apart]
  exact List.foldlM_pure.trans (congrArg Except.ok gathered)

/-- **A set is gathered from the draws that it needs.** -/
theorem gather_ends {make : Run Value} (apart : Value.Apart make.MayGive) (target : Int)
    (session : Session) :
    ∃ drawn after, Repeats make session drawn after ∧
      AreNeeded (fun values => (Value.distinct values).length) target drawn ∧
        SetEnds make target drawn (Value.distinct drawn) after (gather make target session) := by
  obtain ⟨drawn, after, repeats, limited, wanted, ends⟩ :=
    (collect_isLoop make target).ends (attemptsFor target) {} session
  have all : Value.Apart (· ∈ drawn) := apart.mono (repeats.holds (.mayGive make))
  refine ⟨drawn, after, repeats, .of_wanted wanted limited fun fewer found added short => ?_, ?_⟩
  · have some : Value.Apart (· ∈ drawn.take fewer) :=
      all.mono fun value mem => List.mem_of_mem_take mem
    cases (Gathering.foldlM_add some).symm.trans added
    exact Int.not_le.1 short
  have value : (Gathering.ofDrawn drawn).toValue = membersValue drawn (Value.distinct drawn) :=
    Gathering.ofDrawn_toValue drawn
  rcases collected : collect make target (attemptsFor target) {} session with ⟨result, last⟩
  rw [collected] at ends
  cases ends with
  | done added complete =>
    cases (Gathering.foldlM_add all).symm.trans added
    rw [gather, Run.bind_ok collected, Gathering.ofDrawn_members, value]
    by_cases short : ((Value.distinct drawn).length : Int) < target
    · rw [if_pos short, Run.bind_ok (logExhausted_apply _ _ _ _ _)]
      refine .exhausted short ?_
      rw [complete.resolve_left (Int.not_le.2 short), attemptsFor_eq]
    · rw [if_neg short]
      exact .enough (Int.not_lt.1 short)
  | refused added => cases (Gathering.foldlM_add all).symm.trans added
  | failed added short left fails =>
    cases (Gathering.foldlM_add all).symm.trans added
    rw [gather, Run.bind_error collected]
    refine .failed (Int.not_le.1 short) ?_ fails
    rw [← attemptsFor_eq]
    exact Int.ofNat_lt.2 left

/-- Only an unknown kind breaks a set off. -/
theorem SetEnds.filled {tag : String} {context : Context} {make rule : Run Value} {target : Int}
    {drawn members : List Value} {session after : Session}
    (unknown : make.FailsWith fun fault => fault.isUnknownType = true)
    (ends : SetEnds make target drawn members after (rule session)) :
    SetEnds make target drawn members after (filled tag context rule session) := by
  rcases made : rule session with ⟨result, last⟩
  rw [made] at ends
  rw [filled_eq made fun fault failed => ?_]
  · exact ends
  · cases ends with
    | enough | exhausted => cases failed
    | failed _ _ fails =>
      cases failed
      exact unknown _ _ _ fails

end Make

/-! ### Generation -/

/-- **The members of a set are the first occurrences of what was drawn**, and nothing is drawn that
is not needed, provided that the element gives no value that may be in a set and is the same as one
that may not. The members differ from each other, and are no more than the set aims at; if they are
fewer, all attempts were made and there is one record of it. -/
theorem generate_set_members {environment : Environment} {schema element : Schema}
    {context below : Context} {levels : Nat} (has : context.HasLevels levels)
    (own : context.overrides.lookup schema.tag = none)
    (deeper : context.deeper = .ok (some below)) (kind : schema.kind = .set)
    (inner : schema.inner = some element) (integers : Check.BoundByIntegers schema.checks)
    (numbers : Yields (generate environment element below) fun value => value.isNan = false)
    (apart : Value.Apart (generate environment element below).MayGive) (session : Session) :
    ∃ target start values after,
      Make.targetSize schema.checks Make.setSizes session = (.ok target, start) ∧
        Repeats (generate environment element below) start values after ∧
          Make.AreNeeded (fun values => (Value.firsts values).length) target values ∧
            Make.SetEnds (generate environment element below) target values (Value.firsts values)
              after (generate environment schema context session) ∧
      (Value.firsts values).Pairwise (fun earlier later => later.equals earlier = false) ∧
        ((Value.firsts values).length : Int) ≤ max target 0 := by
  obtain ⟨target, start, size, _⟩ := integers.targetSize_gives Make.setSizes session
  obtain ⟨values, after, repeats, needed, ends⟩ :=
    Make.gather_ends apart target start
  have isNumber : ∀ value ∈ values, value.isNan = false := repeats.holds numbers
  have small := needed.size_le rfl Value.length_distinct_append
  have same (count : Nat) : Value.distinct (values.take count) = Value.firsts (values.take count) :=
    Value.distinct_eq_firsts fun value mem => isNumber value (List.mem_of_mem_take mem)
  have all : Value.distinct values = Value.firsts values := Value.distinct_eq_firsts isNumber
  rw [all] at ends small
  refine ⟨target, start, values, after, size, repeats, ⟨fun fewer less => ?_, needed.limited⟩, ?_,
    Value.pairwise_firsts isNumber, small⟩
  · rw [← same]
    exact needed.wanted fewer less
  · rw [generate_set_aims has own deeper kind inner size]
    exact ends.filled (generate_failsWith environment element below)

/-- A set of three ones. -/
def threeOnes : Schema := (Schema.setOf (.literal (.int 1))).length (.int 3)

/-- A set of three ones has one member, after all attempts. -/
theorem threeOnes_members : Gives (generate (.numbered []) threeOnes {}) (· = .set [.int 1]) := by
  have has : Context.HasLevels {} 10 := ⟨0, 10, rfl, rfl, rfl⟩
  have deeper : Context.deeper {} = .ok (some { currentDepth := .int 1 }) := rfl
  have integers : Check.BoundByIntegers threeOnes.checks :=
    List.forall_mem_singleton.2 fun _ => ⟨3, rfl⟩
  have ones : Gives (generate (.numbered []) (.literal (.int 1)) { currentDepth := .int 1 })
      (· = .int 1) :=
    generate_gives_of_builtin rfl (fun _ _ => rfl) (Gives.pure rfl)
  intro session
  have apart : Value.Apart (generate (.numbered []) (.literal (.int 1))
      { currentDepth := .int 1 }).MayGive :=
    (Value.apart_eq (.int 1)).mono fun _ ⟨_, _, given⟩ => ones.yields _ _ _ given
  obtain ⟨target, start, values, after, size, repeats, needed, ends, _, _⟩ :=
    generate_set_members has rfl deeper rfl rfl integers (ones.yields.mono fun _ same => same ▸ rfl)
      apart session
  obtain ⟨atLeast, _⟩ : 3 ≤ target ∧ target ≤ 3 :=
    (integers.targetSize_gives Make.setSizes).yields session target start size
  obtain ⟨count, rfl⟩ : ∃ count, values = List.replicate count (.int 1) :=
    ⟨values.length, List.eq_replicate_iff.2 ⟨rfl, repeats.holds ones.yields⟩⟩
  have alone : 0 < count → Value.firsts (List.replicate count (.int 1)) = [.int 1] := by
    intro positive
    obtain ⟨others, rfl⟩ := Nat.exists_eq_succ_of_ne_zero positive.ne'
    rw [List.replicate_succ, Value.firsts, List.eraseDupsBy_cons, List.filter_replicate_of_neg]
    · rfl
    · decide
  rcases made : generate (.numbered []) threeOnes {} session with ⟨result, last⟩
  rw [made] at ends
  cases ends with
  | enough reached =>
    rcases Nat.eq_zero_or_pos count with rfl | positive
    · exact absurd (atLeast.trans reached) (by decide)
    · rw [alone positive] at reached
      exact absurd (atLeast.trans reached) (by decide)
  | exhausted short tried =>
    rw [List.length_replicate] at tried
    have positive : 0 < count := by omega
    have hashable : (List.replicate count (.int 1)).all Value.isHashable = true :=
      List.all_eq_true.2 fun value mem => List.eq_of_mem_replicate mem ▸ rfl
    refine ⟨_, _, rfl, ?_⟩
    rw [Make.membersValue, hashable, alone positive]
    rfl
  | failed _ _ fails =>
    obtain ⟨value, next, given, _⟩ := ones after
    cases given.symm.trans fails

/-- Is this a list of two values that are equal? -/
def Value.isTwin : Value → Bool
  | .list [first, second] => second.equals first
  | _ => false

theorem Value.exists_twins {result : Except Fault Value × Session}
    (twins : result.1.toOption.map isTwin = some true) : ∃ first second after,
      result = (.ok (.list [first, second]), after) ∧ second.equals first = true := by
  rcases result with ⟨fault | value, after⟩
  · cases twins
  · have isTwin : value.isTwin = true := Option.some.inj twins
    unfold Value.isTwin at isTwin
    split at isTwin
    · exact ⟨_, _, after, rfl, isTwin⟩
    · cases isTwin

/-- A function of the caller that fails with an unknown kind breaks a set off at its first member,
though no strictness is asked for; and a frozen set is not looked up among the sets that were drawn
before it, so that two equal members are kept. -/
theorem generate_set_members_fails :
    (¬ ∃ value after, generate (.ofStock [] [.fail (.unknownType "mystery")])
        ((Schema.setOf (Schema.null.transform ⟨0⟩)).length (.int 1)) {} (.ofWords []) =
          (.ok value, after)) ∧
      ∃ element, Schema.union [.literal (.set [.int 1]), .literal (.set [.int 1] true)] =
          .ok element ∧
        ∃ first second after, generate (.numbered []) ((Schema.setOf element).length (.int 2)) {}
            (.ofWords [0, 0, 0x40000000]) = (.ok (.list [first, second]), after) ∧
          second.equals first = true := by
  refine ⟨fun ⟨value, after, made⟩ => ?_, _, rfl, Value.exists_twins (by decide +kernel)⟩
  have failed : (generate (.ofStock [] [.fail (.unknownType "mystery")])
      ((Schema.setOf (Schema.null.transform ⟨0⟩)).length (.int 1)) {}
        (.ofWords [])).1.toOption.isSome = false := by decide +kernel
  rw [made] at failed
  cases failed

end Specimen
