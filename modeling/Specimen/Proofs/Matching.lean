/-
**Rules make what judges accept.**

The rule of a container or a combination makes values that its judge accepts, provided that the
rules of its children do. `fits` stands for what is known of the samples of a child: at the least
that the judge of the child accepts them.
-/

import Mathlib.Data.List.Nodup
import Specimen.Proofs.Collections
import Specimen.Proofs.Depth
import Specimen.Proofs.Judgements

namespace Specimen

open Run (Yields Gives)

namespace Make

/-! ### Loops -/

section Loops

variable {property : Value → Prop} {make : Run Value}

theorem copies_gives (each : Gives make property) (count : Nat) :
    Gives (copies make count) fun items =>
      items.length = count ∧ ∀ item ∈ items, property item := by
  intro session
  rcases made : copies make count session with ⟨result, last⟩
  have ends := copies_ends make count session
  rw [made] at ends
  cases ends with
  | all repeats enough => exact ⟨_, last, rfl, enough, repeats.holds each.yields⟩
  | @failed _ _ after _ repeats fewer fails =>
    obtain ⟨value, next, given, _⟩ := each after
    cases given.symm.trans fails

/-- What is gathered are the distinct ones of some draws, and no more than there should be. -/
theorem collect_gives (each : Gives make property) (apart : Value.Apart property)
    (target attempts : Nat) {drawn : List Value}
    (few : (Value.distinct drawn).length ≤ target) (start : ∀ value ∈ drawn, property value) :
    Gives (collect make target attempts (.ofDrawn drawn)) fun found => ∃ values : List Value,
      found = .ofDrawn values ∧ (Value.distinct values).length ≤ target ∧
        ∀ value ∈ values, property value := by
  refine (collect_isLoop make target).gives each ?_ attempts ⟨drawn, rfl, few, start⟩
  rintro _ value ⟨values, rfl, few, hold⟩ short holds
  have all : ∀ drawn ∈ values ++ [value], property drawn :=
    List.forall_mem_append.2 ⟨hold, List.forall_mem_singleton.2 holds⟩
  refine ⟨_, rfl, values ++ [value], Gathering.ofDrawn_add (apart.mono all), ?_, all⟩
  · rw [Gathering.ofDrawn_members] at short
    rw [Value.distinct_append]
    split
    · exact few
    · rw [List.length_append, List.length_singleton]
      omega

/-- Entries are gathered if the keys are hashable. -/
theorem fill_gives {keys values : Value → Prop} {key value : Run Value}
    (ofKeys : Gives key fun drawn => keys drawn ∧ drawn.isHashable = true)
    (ofValues : Gives value values) (enough attempts : Nat) {found : List (Value × Value)}
    (start : ∀ entry ∈ found, keys entry.1 ∧ values entry.2) :
    Gives (fill key value enough attempts found) fun entries =>
      ∀ entry ∈ entries, keys entry.1 ∧ values entry.2 := by
  have draws : Gives (entry key value) fun drawn =>
      keys drawn.1 ∧ drawn.1.isHashable = true ∧ values drawn.2 :=
    ofKeys.bind fun _ ⟨keyHolds, hashable⟩ => ofValues.bind fun _ valueHolds =>
      Gives.pure ⟨keyHolds, hashable, valueHolds⟩
  refine (fill_isLoop key value enough).gives draws ?_ attempts start
  intro found drawn hold _ ⟨keyHolds, hashable, valueHolds⟩
  exact ⟨_, if_pos hashable, Value.forall_put keys values hold keyHolds valueHolds⟩

end Loops

theorem guarded_gives {property : Value → Prop} {empty : Value} {make : Make}
    {context below : Context} (deeper : context.deeper = .ok (some below))
    (inside : Gives (make below) property) : Gives (guarded empty make context) property := by
  rw [guarded_eq, deeper, Run.lift_ok, pure_bind]
  exact inside

/-! ### Nodes -/

section Nodes

variable {make : Schema → Make} {judge : Schema → Judge} {fits : Schema → Value → Prop}
variable (accepted : ∀ child value, fits child value → (judge child).Accepts value)
variable {schema : Schema} {context below : Context} {levels : Nat}

section Containers

variable {low : Nat} {high : Option Nat} (deeper : context.deeper = .ok (some below))

include deeper

/-- An object is filled with an entry for each field. -/
theorem object_gives (children : ∀ field ∈ schema.fields.getD [],
      Gives (make field.2 (below.forKey (.text field.1))) (fits field.2)) :
    Gives (object (schema.parts make).fields context) fun value =>
      ∃ entries, value = .dictionary entries ∧
        Value.EntriesOf (fun field value => fits field.2 value) (schema.fields.getD [])
          entries := by
  refine guarded_gives deeper ?_
  have filled : Gives (fillFields (schema.parts make).fields below) fun entries =>
      Value.EntriesOf (fun field value => fits field.2 value) (schema.fields.getD []) entries := by
    unfold fillFields Schema.parts
    simp only [List.mapM_map]
    refine Gives.mapM fun field mem => ?_
    exact (children field mem).bind fun made holds => Gives.pure ⟨rfl, holds⟩
  exact filled.bind fun entries each => Gives.pure ⟨entries, rfl, each⟩

include accepted

theorem array_gives (sizes : Check.Sizes schema.checks low high) {child : Schema}
    (found : schema.inner = some child) (element : Gives (make child below) (fits child)) :
    Gives (array schema.checks (ofChild (schema.parts make).inner) context) fun value =>
      (Judge.array schema.checks (Judge.ofChild (schema.parts judge).inner)).Accepts value ∧
        value ≠ .absent := by
  refine guarded_gives deeper ?_
  simp only [Schema.parts, found, Option.map_some]
  have filled : Gives (items schema.checks (make child) below) fun items =>
      IsBetween low high items.length ∧ ∀ item ∈ items, (judge child).Accepts item := by
    refine (sizes.targetSize_gives _ _).bind ?_
    rintro _ ⟨count, rfl, between⟩
    refine (copies_gives element count).mono ?_
    rintro items ⟨length, hold⟩
    exact ⟨length ▸ between, fun item mem => accepted child item (hold item mem)⟩
  refine filled.bind ?_
  rintro items ⟨between, each⟩
  exact Gives.pure ⟨Judge.array_accepts sizes between each, by simp⟩

theorem set_gives (sizes : Check.Sizes schema.checks 0 high) {child : Schema}
    (found : schema.inner = some child) (element : Gives (make child below) (fits child))
    (apart : Value.Apart (make child below).MayGive) :
    Gives (set schema.checks (ofChild (schema.parts make).inner) context) fun value =>
      (Judge.set schema.checks (Judge.ofChild (schema.parts judge).inner)).Accepts value ∧
        value ≠ .absent := by
  refine guarded_gives deeper ?_
  simp only [Schema.parts, found, Option.map_some]
  refine (sizes.targetSize_gives _ _).bind ?_
  rintro _ ⟨count, rfl, between⟩
  have none : (Value.distinct []).length ≤ count := Nat.zero_le count
  have gathered := collect_gives (element.and (.mayGive _)) (apart.mono fun _ drawn => drawn.2) count
    (attemptsFor count) none (List.forall_mem_nil _)
  refine gathered.bind ?_
  rintro _ ⟨values, rfl, few, each⟩
  have fine : (Judge.set schema.checks (judge child)).Accepts (Gathering.ofDrawn values).toValue := by
    refine Judge.set_accepts sizes ⟨Nat.zero_le _, fun most isMost => ?_⟩
      fun value mem => accepted child value (each value mem).1
    exact Nat.le_trans few (between.2 most isMost)
  have present : (Gathering.ofDrawn values).toValue ≠ .absent := by
    rw [Gathering.ofDrawn_toValue]
    split <;> simp
  split
  · exact (Gives.log _ _ _).bind fun _ _ => Gives.pure ⟨fine, present⟩
  · exact Gives.pure ⟨fine, present⟩

theorem entries_gives {size : Context → Value} {target : EntryTarget}
    (isTarget : entryTarget (size below) = .ok target) (tag : String) {ofKey ofValue : Schema}
    (foundKey : schema.key = some ofKey) (foundValue : schema.value = some ofValue)
    (key : Gives (make ofKey below) fun drawn => fits ofKey drawn ∧ drawn.isHashable = true)
    (value : Gives (make ofValue below) (fits ofValue)) :
    Gives (entries size (ofChild (schema.parts make).key) (ofChild (schema.parts make).value)
        context) fun value =>
      (Judge.mapping tag (Judge.ofChild (schema.parts judge).key)
        (Judge.ofChild (schema.parts judge).value)).Accepts value ∧ value ≠ .absent := by
  refine guarded_gives deeper ?_
  simp only [Schema.parts, foundKey, foundValue, Option.map_some]
  rw [isTarget, Run.lift_ok, pure_bind]
  have gathered := fill_gives key value target.enough target.attempts (List.forall_mem_nil _)
  refine gathered.bind fun found each => ?_
  have fine : (Judge.mapping tag (judge ofKey) (judge ofValue)).Accepts (.dictionary found) :=
    Judge.mapping_accepts fun entry mem => ⟨accepted ofKey entry.1 (each entry mem).1,
      accepted ofValue entry.2 (each entry mem).2⟩
  split
  · exact (Gives.log _ _ _).bind fun _ _ => Gives.pure ⟨fine, by simp⟩
  · exact Gives.pure ⟨fine, by simp⟩

end Containers

section Combinations

/-- What follows the items of a tuple is filled like the items of an array. -/
theorem restItems_gives (following : ∀ child, schema.rest = some child → ∃ below,
      context.deeper = .ok (some below) ∧ Gives (make child below) (fits child)) :
    Gives (restItems (schema.parts make).rest context) fun others =>
      (schema.rest = none → others = []) ∧
        ∀ child, schema.rest = some child → ∀ item ∈ others, fits child item := by
  unfold Schema.parts
  simp only
  cases found : schema.rest with
  | none => exact Gives.pure ⟨fun _ => rfl, nofun⟩
  | some child =>
    obtain ⟨below, deeper, element⟩ := following child found
    rw [Option.map_some, restItems_eq, deeper, Run.lift_ok, pure_bind]
    refine (Check.Sizes.free.targetSize_gives _ _).bind fun size _ => ?_
    refine (copies_gives element size.toNat).mono fun others ⟨_, hold⟩ => ⟨nofun, ?_⟩
    intro other same
    cases same
    exact hold

/-- One of the options is filled. -/
theorem union_gives (nonempty : schema.items ≠ [])
    (options : ∀ option ∈ schema.items, Gives (make option context) (fits option)) :
    Gives (union (schema.parts make).items context) fun value =>
      ∃ option ∈ schema.items, fits option value := by
  have some : (schema.parts make).items ≠ [] := fun none => nonempty (List.map_eq_nil_iff.1 none)
  refine (Draw.member_gives some).bind fun chosen mem => ?_
  obtain ⟨option, listed, rfl⟩ := List.mem_map.1 mem
  exact (options option listed).mono fun value holds => ⟨option, listed, holds⟩

/-- Of two objects, the entries of both are merged; a field of both has the value that was made for
it last. -/
theorem intersection_gives {left right : Schema} (parts : schema.items = [left, right])
    {suits : String × Schema → Value → Prop}
    (first : Gives (make left context) fun value => ∃ entries, value = .dictionary entries ∧
      Value.EntriesOf suits (left.fields.getD []) entries)
    (second : Gives (make right context) fun value => ∃ entries, value = .dictionary entries ∧
      Value.EntriesOf suits (right.fields.getD []) entries)
    (distinctLeft : ((left.fields.getD []).map (·.1)).Nodup)
    (distinctRight : ((right.fields.getD []).map (·.1)).Nodup)
    (shared : ∀ field ∈ left.fields.getD [], ∀ other ∈ right.fields.getD [],
      field.1 = other.1 → field.2 = other.2) :
    Gives (intersection (schema.parts make).items context) fun value =>
      ∃ entries, value = .dictionary entries ∧
        ∀ field, field ∈ left.fields.getD [] ∨ field ∈ right.fields.getD [] →
          ∃ value, Value.field? entries field.1 = some value ∧ suits field value := by
  have both : Gives (((schema.parts make).items.take 3).mapM fun member => member context)
      fun values => ∃ first second, values = [.dictionary first, .dictionary second] ∧
        Value.EntriesOf suits (left.fields.getD []) first ∧
        Value.EntriesOf suits (right.fields.getD []) second := by
    have each : ∀ part ∈ [left, right], Gives (make part context) fun value =>
        ∃ entries, value = .dictionary entries ∧
          Value.EntriesOf suits (part.fields.getD []) entries :=
      List.forall_mem_cons.2 ⟨first, List.forall_mem_singleton.2 second⟩
    have two : (schema.parts make).items.take 3 = [left, right].map make := by
      unfold Schema.parts
      rw [parts]
      rfl
    rw [two, List.mapM_map]
    refine (Gives.mapM each).mono fun values related => ?_
    obtain ⟨_, _, ⟨entries, rfl, ofLeft⟩, others, rfl⟩ := List.forall₂_cons_left_iff.1 related
    obtain ⟨_, _, ⟨more, rfl, ofRight⟩, none, rfl⟩ := List.forall₂_cons_left_iff.1 others
    rw [List.forall₂_nil_left_iff.1 none]
    exact ⟨entries, more, rfl, ofLeft, ofRight⟩
  refine both.bind fun values ⟨entries, others, isPair, ofLeft, ofRight⟩ => ?_
  rw [isPair]
  refine Gives.pure ⟨_, rfl, fun field mem => ?_⟩
  have last := Value.field_putAll_of_mem ofRight distinctRight entries
  by_cases named : field.1 ∈ (right.fields.getD []).map (·.1)
  · obtain ⟨other, listed, same⟩ := List.mem_map.1 named
    have isOther : field = other := by
      rcases mem with ofFirst | ofSecond
      · exact Prod.ext same.symm (shared field ofFirst other listed same.symm)
      · exact List.inj_on_of_nodup_map distinctRight ofSecond listed same.symm
    exact isOther ▸ last other listed
  · rcases mem with ofFirst | ofSecond
    · obtain ⟨value, found, holds⟩ := Value.field_of_entries ofLeft distinctLeft field ofFirst
      exact ⟨value, by rw [Value.field_putAll_of_notMem ofRight named, found], holds⟩
    · exact absurd (List.mem_map_of_mem ofSecond) named

end Combinations

include accepted in
/-- A tuple is filled with its items and what follows them. -/
theorem tuple_gives (each : ∀ item ∈ schema.items, Gives (make item context) (fits item))
    (following : ∀ child, schema.rest = some child → ∃ below,
      context.deeper = .ok (some below) ∧ Gives (make child below) (fits child)) :
    Gives (tuple (schema.parts make).items (schema.parts make).rest context) fun value =>
      (Judge.tuple (schema.parts judge).items (schema.parts judge).rest).Accepts value ∧
        value ≠ .absent := by
  have fixed : Gives ((schema.parts make).items.mapM fun member => member context) fun values =>
      List.Forall₂ Judge.Accepts (schema.parts judge).items values := by
    unfold Schema.parts
    simp only [List.mapM_map]
    refine (Gives.mapM each).mono fun values related => ?_
    rw [List.forall₂_map_left_iff]
    exact related.imp fun item value => accepted item value
  refine fixed.bind fun values related => ?_
  refine (restItems_gives following).bind fun others ⟨closed, follow⟩ => ?_
  refine Gives.pure ⟨Judge.tuple_accepts related (fun none => ?_) fun judged isRest item mem => ?_,
    nofun⟩
  · exact closed (Option.map_eq_none_iff.1 none)
  · obtain ⟨child, found, rfl⟩ := Option.map_eq_some_iff.1 isRest
    exact accepted child item (follow child found item mem)

end Nodes

end Make

end Specimen
