/-
**Different members.**

`Value.distinct` keeps of some values those that are not the same as an earlier one. A set gathers
its members with two searches: what may be in a set is looked up among its like, and anything else
among all members. A value that may be in a set can be the same as one that may not, as a frozen set
is the same as any set with its members; so the two searches find what the whole would only for
values that are apart (`Value.Apart`), as all are without frozen sets (`Value.apart_isThawed`). For
such draws the members are the distinct ones of what was drawn (`Make.Gathering.ofDrawn_add`).
-/

import Mathlib.Data.List.Induction
import Specimen.Proofs.Sameness
import Specimen.Synthesis

namespace Specimen

namespace Value

/-! ### Values that may be in sets, and values that may not -/

/-- Of the values with a property, none that may be in a set is the same as one that may not. -/
def Apart (property : Value → Prop) : Prop :=
  ∀ first second, property first → property second → first.same second = true →
    first.isHashable = second.isHashable

theorem Apart.mono {strong weak : Value → Prop} (apart : Apart weak)
    (implies : ∀ value, strong value → weak value) : Apart strong :=
  fun first second holds alsoHolds =>
    apart first second (implies first holds) (implies second alsoHolds)

theorem apart_eq (value : Value) : Apart (· = value) := by
  rintro _ _ rfl rfl _
  rfl

mutual

/-- Is there no frozen set among what decides whether the value may be in a set? -/
def isThawed : Value → Bool
  | .set _ frozen => !frozen
  | .tuple items => areThawed items
  | _ => true
  termination_by structural value => value

/-- Is there no frozen set among what decides whether the values may be in a set? -/
def areThawed : List Value → Bool
  | [] => true
  | item :: rest => isThawed item && areThawed rest
  termination_by structural items => items

end

mutual

theorem isHashable_of_same : ∀ first second : Value, first.isThawed = true →
    second.isThawed = true → first.same second = true → first.isHashable = second.isHashable
  | .tuple items, second, thawed, alsoThawed, alike => by
    obtain ⟨others, rfl, sameItems⟩ := tuple_same_iff.1 alike
    exact areHashable_of_sameItems items others thawed alsoThawed sameItems
  | .set members frozen, second, thawed, alsoThawed, alike => by
    obtain ⟨others, alsoFrozen, rfl, _⟩ := set_same_iff.1 alike
    rw [isThawed, Bool.not_eq_true'] at thawed alsoThawed
    rw [isHashable, isHashable, thawed, alsoThawed]
  | .list _, second, _, _, alike | .dictionary _, second, _, _, alike
  | .absent, second, _, _, alike | .null, second, _, _, alike | .text _, second, _, _, alike
  | .moment _, second, _, _, alike | .day _, second, _, _, alike
  | .member _ _ _, second, _, _, alike | .promise _ _, second, _, _, alike
  | .function _ _, second, _, _, alike => by
    cases second <;> first | rfl | cases alike
  | .bool _, second, _, _, alike | .int _, second, _, _, alike
  | .float _, second, _, _, alike => by
    cases second <;> first | rfl | simp [same, sameNumber, toExtended?] at alike
  termination_by structural first => first

theorem areHashable_of_sameItems : ∀ items others : List Value, areThawed items = true →
    areThawed others = true → sameItems items others = true → areHashable items = areHashable others
  | [], others, _, _, alike => by
    cases others with
    | nil => rfl
    | cons => cases alike
  | item :: rest, others, thawed, alsoThawed, alike => by
    cases others with
    | nil => cases alike
    | cons other more =>
      rw [areThawed, Bool.and_eq_true] at thawed alsoThawed
      rw [sameItems, Bool.and_eq_true] at alike
      rw [areHashable, areHashable, isHashable_of_same item other thawed.1 alsoThawed.1 alike.1,
        areHashable_of_sameItems rest more thawed.2 alsoThawed.2 alike.2]
  termination_by structural items => items

end

/-- Values without frozen sets are apart. -/
theorem apart_isThawed : Apart (·.isThawed = true) := isHashable_of_same

variable {value : Value} {items : List Value}

/-- A value is found among the members that may be in a set if it may be in one and is found among
all members. -/
theorem isIn_filter_isHashable (apart : Apart fun item => item = value ∨ item ∈ items) :
    value.isIn (items.filter isHashable) = (value.isHashable && value.isIn items) := by
  rw [Bool.eq_iff_iff, isIn, isIn, List.any_filter, Bool.and_eq_true, List.any_eq_true,
    List.any_eq_true]
  have alike : ∀ item ∈ items, value.same item = true → value.isHashable = item.isHashable :=
    fun item mem => apart value item (.inl rfl) (.inr mem)
  constructor
  · rintro ⟨item, mem, found⟩
    rw [Bool.and_eq_true] at found
    exact ⟨(alike item mem found.2).trans found.1, item, mem, found.2⟩
  · rintro ⟨hashable, item, mem, found⟩
    exact ⟨item, mem, Bool.and_eq_true _ _ ▸ ⟨alike item mem found ▸ hashable, found⟩⟩

/-! ### Values that differ from the earlier ones -/

/-- No value is the same as an earlier one. -/
def Unrepeated (items : List Value) : Prop :=
  items.Pairwise fun earlier later => later.same earlier = false

theorem distinct_append (items : List Value) (value : Value) :
    distinct (items ++ [value]) =
      if value.isIn (distinct items) then distinct items else distinct items ++ [value] := by
  rw [distinct, List.foldl_append, List.foldl_cons, List.foldl_nil, ← distinct]

theorem unrepeated_append (unrepeated : Unrepeated items) (new : value.isIn items = false) :
    Unrepeated (items ++ [value]) := by
  refine List.pairwise_append.2
    ⟨unrepeated, List.pairwise_singleton _ _, fun earlier mem later => ?_⟩
  rintro (_ | ⟨_, _ | _⟩)
  rw [isIn, List.any_eq_false] at new
  exact eq_false_of_ne_true (new earlier mem)

theorem unrepeated_distinct (items : List Value) : Unrepeated (distinct items) := by
  induction items using List.reverseRecOn with
  | nil => exact List.Pairwise.nil
  | append_singleton items value hypothesis =>
    rw [distinct_append]
    split
    · exact hypothesis
    · next new => exact unrepeated_append hypothesis (eq_false_of_ne_true new)

/-- Where no value is repeated none is dropped. -/
theorem distinct_of_unrepeated (unrepeated : Unrepeated items) : distinct items = items := by
  induction items using List.reverseRecOn with
  | nil => rfl
  | append_singleton items value hypothesis =>
    obtain ⟨earlier, _, last⟩ := List.pairwise_append.1 unrepeated
    have new : value.isIn items = false :=
      List.any_eq_false.2 fun item mem =>
        Bool.not_eq_true _ ▸ last item mem value (List.mem_singleton_self value)
    rw [distinct_append, hypothesis earlier, new, if_neg Bool.false_ne_true]

theorem mem_of_mem_distinct (mem : value ∈ distinct items) : value ∈ items := by
  induction items using List.reverseRecOn with
  | nil => exact mem
  | append_singleton items last hypothesis =>
    rw [distinct_append] at mem
    split at mem
    · exact List.mem_append_left _ (hypothesis mem)
    · rcases List.mem_append.1 mem with earlier | new
      · exact List.mem_append_left _ (hypothesis earlier)
      · exact List.mem_append_right _ new

end Value

/-! ### Gathering -/

namespace Make.Gathering

/-- What is gathered after some draws. -/
def ofDrawn (drawn : List Value) : Gathering where
  members := Value.distinct drawn
  seen := (Value.distinct drawn).filter Value.isHashable
  isHashable := drawn.all Value.isHashable

theorem ofDrawn_members (drawn : List Value) : (ofDrawn drawn).members = Value.distinct drawn := rfl

theorem isSought_of_isHashable {value : Value} (hashable : value.isHashable = true) :
    isSought value = true := by
  cases value <;> first | rfl | exact hashable

/-- **A draw adds a member exactly if it is not the same as one that is there**, whichever of the
two searches it takes. -/
theorem ofDrawn_add {drawn : List Value} {value : Value}
    (apart : Value.Apart (· ∈ drawn ++ [value])) :
    (ofDrawn drawn).add value = ofDrawn (drawn ++ [value]) := by
  have all : (drawn ++ [value]).all Value.isHashable =
      (drawn.all Value.isHashable && value.isHashable) := by simp
  have looked : value.isIn ((Value.distinct drawn).filter Value.isHashable) =
      (value.isHashable && value.isIn (Value.distinct drawn)) := by
    refine Value.isIn_filter_isHashable (apart.mono ?_)
    rintro item (rfl | mem)
    · simp
    · exact List.mem_append_left _ (Value.mem_of_mem_distinct mem)
  unfold add ofDrawn
  rw [all, Value.distinct_append, looked]
  cases hashable : value.isHashable with
  | true =>
    rw [isSought_of_isHashable hashable]
    cases value.isIn (Value.distinct drawn) with
    | true => simp
    | false => simp [hashable]
  | false =>
    cases value.isIn (Value.distinct drawn) with
    | true => simp
    | false => simp [hashable]

/-- After some draws there is a set of the distinct values if all of them may be in one. -/
theorem ofDrawn_toValue (drawn : List Value) : (ofDrawn drawn).toValue =
    if drawn.all Value.isHashable then .set (Value.distinct drawn)
    else .list (Value.distinct drawn) := by
  rw [toValue, ofDrawn, Value.distinct_of_unrepeated (Value.unrepeated_distinct drawn)]

theorem mem_of_mem_add {found : Gathering} {drawn member : Value}
    (mem : member ∈ (found.add drawn).members) : member ∈ found.members ∨ member = drawn := by
  have kept : (found.add drawn).members = found.members ∨
      (found.add drawn).members = found.members ++ [drawn] := by
    unfold add
    split
    · exact .inl rfl
    split
    · exact .inr rfl
    split
    · exact .inl rfl
    · exact .inr rfl
  rcases kept with kept | kept <;> rw [kept] at mem
  · exact .inl mem
  · exact (List.mem_append.1 mem).imp_right List.mem_singleton.1

end Make.Gathering

end Specimen
