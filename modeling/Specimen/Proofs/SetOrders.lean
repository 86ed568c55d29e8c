/-
**The order of sets does not show.**

A set is rendered as its members in the order of their texts. Members whose texts are the same agree
in JSON (`Json.sortedText_eq_iff`), so from any order of the members the same list comes out, but
for the order of names in objects (`Json.sortByText_agrees`), and this goes for sets in sets, and in
whatever else samples are made of (`Value.Reordered.agrees`). Where members are put in order of
their names nothing is left to tell the orders of a set apart: fingerprints and files are the same
(`Value.order_unseen`).
-/

import Specimen.Proofs.Encodings

namespace Specimen

namespace Json

variable {items arranged others : List Json} {json other : Json} {name : String}

/-! ### Items in the order of their texts -/

/-- The texts of items that are sorted by their texts. -/
theorem texts_sortByText (items : List Json) : (sortByText items).map sortKey =
    (items.map sortKey).mergeSort fun first second => !(second < first) :=
  List.map_mergeSort fun _ _ _ _ => rfl

theorem sortKey_eq_iff (free : json.IsFloatFree) (alsoFree : other.IsFloatFree) :
    json.sortKey = other.sortKey ↔ json.Agrees other :=
  sortedText_eq_iff spaced_isReadable free alsoFree

/-- Items that agree with others in another order are the same as these once they are sorted by
their texts. -/
theorem sortByText_agrees (free : ∀ item ∈ items, item.IsFloatFree) (moved : items.Perm arranged)
    (length : arranged.length = others.length)
    (each : ∀ pair ∈ arranged.zip others, pair.1.Agrees pair.2) :
    (Json.array (sortByText items)).Agrees (.array (sortByText others)) := by
  have alsoFree : ∀ other ∈ others, other.IsFloatFree := by
    intro other listed
    rw [← List.map_snd_zip length.ge] at listed
    obtain ⟨pair, mem, rfl⟩ := List.mem_map.1 listed
    exact (each pair mem).isFloatFree (free pair.1 (moved.mem_iff.2 (List.of_mem_zip mem).1))
  have texts : arranged.map sortKey = others.map sortKey := by
    refine map_eq_map_iff.2 ⟨length, fun pair mem => ?_⟩
    unfold sortKey
    rw [(each pair mem).sortMembers_eq]
  have sorted : (sortByText items).map sortKey = (sortByText others).map sortKey := by
    rw [texts_sortByText, texts_sortByText, ← texts]
    exact sortBy_congr (fun _ _ _ _ same => same) (moved.map sortKey)
  obtain ⟨sameLength, sameTexts⟩ := map_eq_map_iff.1 sorted
  refine .array sameLength fun pair mem => ?_
  obtain ⟨left, right⟩ := List.of_mem_zip mem
  exact (sortKey_eq_iff (free pair.1 (List.mem_mergeSort.1 left))
    (alsoFree pair.2 (List.mem_mergeSort.1 right))).1 (sameTexts pair mem)

/-! ### Filling objects -/

variable {members mates : List (String × Json)}

/-- Objects that agree still do so when values that agree are put under a name. -/
theorem Agrees.put (filled : (Json.object members).Agrees (.object mates))
    (agrees : json.Agrees other) :
    (Json.object (put members name json)).Agrees (.object (put mates name other)) := by
  cases filled with
  | object distinct names each =>
    have alsoDistinct := names.nodup_iff.1 distinct
    refine .object (nodup_put distinct name json) ?_ fun member mem mate listed same => ?_
    · rw [names_put, names_put]
      by_cases there : name ∈ members.map (·.1)
      · rwa [if_pos there, if_pos (names.mem_iff.1 there)]
      · rw [if_neg there, if_neg fun mem => there (names.mem_iff.2 mem)]
        exact names.append_right _
    · rcases (mem_put_iff distinct).1 mem with rfl | ⟨mem, differs⟩ <;>
        rcases (mem_put_iff alsoDistinct).1 listed with rfl | ⟨listed, apart⟩
      · exact agrees
      · exact absurd same.symm apart
      · exact absurd same differs
      · exact each member mem mate listed same

/-- An object stays without floats when a value without floats is put into it. -/
theorem IsFloatFree.put (filled : (Json.object members).IsFloatFree) (name : String)
    (free : json.IsFloatFree) : (Json.object (put members name json)).IsFloatFree := by
  cases filled with
  | object distinct each =>
    refine .object (nodup_put distinct name json) fun member mem => ?_
    rcases (mem_put_iff distinct).1 mem with rfl | ⟨mem, _⟩
    · exact free
    · exact each member mem

end Json

namespace Value

/-- A value without floats; keys are written as texts and may be anything. -/
inductive IsFloatFree : Value → Prop
  | absent : IsFloatFree .absent
  | null : IsFloatFree .null
  | bool (value : Bool) : IsFloatFree (.bool value)
  | int (value : Int) : IsFloatFree (.int value)
  | text (value : String) : IsFloatFree (.text value)
  | list {items : List Value} (each : ∀ item ∈ items, IsFloatFree item) : IsFloatFree (.list items)
  | tuple {items : List Value} (each : ∀ item ∈ items, IsFloatFree item) :
      IsFloatFree (.tuple items)
  | set {members : List Value} {frozen : Bool} (each : ∀ member ∈ members, IsFloatFree member) :
      IsFloatFree (.set members frozen)
  | dictionary {entries : List (Value × Value)} (each : ∀ entry ∈ entries, IsFloatFree entry.2) :
      IsFloatFree (.dictionary entries)
  | moment (value : Moment) : IsFloatFree (.moment value)
  | day (value : Day) : IsFloatFree (.day value)
  | member (family : EnumClass) (name : String) {value : Value} (held : IsFloatFree value) :
      IsFloatFree (.member family name value)
  | promise (identity : Nat) {settled : Value} (held : IsFloatFree settled) :
      IsFloatFree (.promise identity settled)
  | function (name : FunctionName) (identity : Nat) : IsFloatFree (.function name identity)

/-- The two values are the same but for the order of the members of their sets, which are without
floats. -/
inductive Reordered : Value → Value → Prop
  | same (value : Value) : Reordered value value
  | list {items others : List Value} (length : items.length = others.length)
      (each : ∀ pair ∈ items.zip others, Reordered pair.1 pair.2) :
      Reordered (.list items) (.list others)
  | tuple {items others : List Value} (length : items.length = others.length)
      (each : ∀ pair ∈ items.zip others, Reordered pair.1 pair.2) :
      Reordered (.tuple items) (.tuple others)
  | set {members moved others : List Value} {frozen : Bool} (free : ∀ member ∈ members, member.IsFloatFree)
      (order : members.Perm moved) (length : moved.length = others.length)
      (each : ∀ pair ∈ moved.zip others, Reordered pair.1 pair.2) :
      Reordered (.set members frozen) (.set others frozen)
  | dictionary {entries others : List (Value × Value)}
      (keys : entries.map (·.1) = others.map (·.1))
      (each : ∀ pair ∈ entries.zip others, Reordered pair.1.2 pair.2.2) :
      Reordered (.dictionary entries) (.dictionary others)
  | member (family : EnumClass) (name : String) {value other : Value} (held : Reordered value other) :
      Reordered (.member family name value) (.member family name other)
  | promise (identity : Nat) {settled other : Value} (held : Reordered settled other) :
      Reordered (.promise identity settled) (.promise identity other)

variable {value other : Value} {items others : List Value} {entries mates : List (Value × Value)}
variable {found there : List (String × Json)}

/-! ### Rendering without floats -/

/-- What a value without floats is rendered to has none. -/
theorem toJsonEntries_isFloatFree (filled : (Json.object found).IsFloatFree)
    (each : ∀ entry ∈ entries, entry.2.toJson.IsFloatFree) :
    (Json.object (toJsonEntries found entries)).IsFloatFree := by
  induction entries generalizing found with
  | nil => exact filled
  | cons first rest hypothesis =>
    obtain ⟨key, value⟩ := first
    rw [List.forall_mem_cons] at each
    rw [toJsonEntries]
    refine hypothesis ?_ each.2
    split
    · exact filled
    · exact filled.put key.display each.1

theorem IsFloatFree.toJson (free : value.IsFloatFree) : value.toJson.IsFloatFree := by
  induction free with
  | absent | null => exact .null
  | bool value => exact .bool value
  | int value => exact .int value
  | text | moment | day | function => exact .text _
  | list _ hypothesis | tuple _ hypothesis =>
    rw [Value.toJson, toJsonItems_eq]
    exact .array (List.forall_mem_map.2 hypothesis)
  | set _ hypothesis =>
    rw [Value.toJson, toJsonItems_eq]
    refine .array fun item mem => ?_
    exact List.forall_mem_map.2 hypothesis item (List.mem_mergeSort.1 mem)
  | dictionary _ hypothesis =>
    exact toJsonEntries_isFloatFree (.object List.nodup_nil (List.forall_mem_nil _)) hypothesis
  | member _ _ _ hypothesis | promise _ _ hypothesis => exact hypothesis

/-! ### Rendering in another order -/

theorem Reordered.isAbsent_eq (reordered : value.Reordered other) :
    value.isAbsent = other.isAbsent := by
  cases reordered <;> rfl

theorem length_toJsonItems (length : items.length = others.length) :
    (toJsonItems items).length = (toJsonItems others).length := by
  rw [toJsonItems_eq, toJsonItems_eq, List.length_map, List.length_map, length]

theorem toJsonItems_agree (each : ∀ pair ∈ items.zip others, pair.1.toJson.Agrees pair.2.toJson) :
    ∀ pair ∈ (toJsonItems items).zip (toJsonItems others), pair.1.Agrees pair.2 := by
  rw [toJsonItems_eq, toJsonItems_eq, List.zip_map]
  exact List.forall_mem_map.2 each

/-- Entries with the same keys are written alike. -/
theorem toJsonEntries_agrees (keys : entries.map (·.1) = mates.map (·.1))
    (each : ∀ pair ∈ entries.zip mates, pair.1.2.toJson.Agrees pair.2.2.toJson ∧
      pair.1.2.isAbsent = pair.2.2.isAbsent)
    (filled : (Json.object found).Agrees (.object there)) :
    (Json.object (toJsonEntries found entries)).Agrees (.object (toJsonEntries there mates)) := by
  induction entries generalizing mates found there with
  | nil =>
    rw [List.map_nil, eq_comm, List.map_eq_nil_iff] at keys
    rw [keys]
    exact filled
  | cons first rest hypothesis =>
    cases mates with
    | nil => cases keys
    | cons mate others =>
      obtain ⟨key, value⟩ := first
      obtain ⟨name, other⟩ := mate
      obtain ⟨same, later⟩ := List.cons.inj keys
      obtain rfl : key = name := same
      rw [List.zip_cons_cons, List.forall_mem_cons] at each
      obtain ⟨⟨agrees, absent⟩, each⟩ := each
      rw [toJsonEntries, toJsonEntries]
      refine hypothesis later each ?_
      simp only at absent
      rw [absent]
      split
      · exact filled
      · exact filled.put agrees

/-- Values that are the same but for the order of their sets are rendered alike. -/
theorem Reordered.agrees (reordered : value.Reordered other) :
    value.toJson.Agrees other.toJson := by
  induction reordered with
  | same value => exact (clean_toJson value).agrees
  | list length _ hypothesis | tuple length _ hypothesis =>
    exact .array (length_toJsonItems length) (toJsonItems_agree hypothesis)
  | @set members moved others frozen free order length _ hypothesis =>
    have isFree : ∀ item ∈ toJsonItems members, item.IsFloatFree := by
      rw [toJsonItems_eq]
      exact List.forall_mem_map.2 fun member mem => (free member mem).toJson
    have isMoved : (toJsonItems members).Perm (toJsonItems moved) := by
      rw [toJsonItems_eq, toJsonItems_eq]
      exact order.map toJson
    exact Json.sortByText_agrees isFree isMoved (length_toJsonItems length)
      (toJsonItems_agree hypothesis)
  | dictionary keys each hypothesis =>
    refine toJsonEntries_agrees keys (fun pair mem => ⟨hypothesis pair mem, ?_⟩) ?_
    · exact (each pair mem).isAbsent_eq
    · exact .object List.nodup_nil .nil (List.forall_mem_nil _)
  | member _ _ _ hypothesis | promise _ _ hypothesis => exact hypothesis

/-- Moving the members of a set is one way to reorder it. -/
theorem Reordered.of_perm (free : ∀ item ∈ items, item.IsFloatFree) (order : items.Perm others) :
    (Value.set items).Reordered (.set others) := by
  refine .set free order rfl fun pair mem => ?_
  rw [← eq_of_mem_zip_self mem]
  exact .same pair.1

/-- **The order of sets does not show.** A set without floats is rendered to the same list in any
order of its members, but for the order of names in objects. For samples with any sets in them, the
fingerprints of whatever contains them are the same, and so are the files of batches. -/
theorem order_unseen :
    (∀ members others : List Value, (∀ member ∈ members, member.IsFloatFree) →
      members.Perm others → (Value.set members).toJson.Agrees (Value.set others).toJson) ∧
    (∀ (value other : Value), value.Reordered other →
      value.toJson.Agrees other.toJson ∧ ∀ before after : List Value,
        fingerprint (before ++ .ofJson value.toJson :: after) =
          fingerprint (before ++ .ofJson other.toJson :: after)) ∧
    ∀ (seed : Json) (samples mates : List Value), samples.length = mates.length →
      (∀ pair ∈ samples.zip mates, pair.1.Reordered pair.2) →
      ∃ files, Archive.ofBatch (.ofJson seed) samples = .ok files ∧
        Archive.ofBatch (.ofJson seed) mates = .ok files := by
  refine ⟨fun members others free order => (Reordered.of_perm free order).agrees,
    fun value other reordered => ⟨reordered.agrees, ?_⟩, fun seed samples mates length each => ?_⟩
  · exact fingerprint_congr reordered.agrees.sortMembers_eq
  · rw [Archive.ofBatch_congr seed length fun pair mem => (each pair mem).agrees.sortMembers_eq]
    exact ⟨_, Archive.ofBatch_eq seed mates, Archive.ofBatch_eq seed mates⟩

/-- Members of a set among which there are two promises of the same object, with its entries in
different orders, and two members that are rendered to null. -/
def contested : List Value :=
  [.promise 0 (.dictionary [(.text "a", .int 1), (.text "b", .set [.text "x", .text "y"])]),
    .promise 1 (.dictionary [(.text "b", .set [.text "x", .text "y"]), (.text "a", .int 1)]),
    .absent, .tuple [.day ⟨719163⟩, .member ⟨"Level", 0⟩ "LOW" (.int 1)], .null]

/-- These members give one rendering and one set of files, whichever way round they came. -/
theorem contested_unseen : (∀ member ∈ contested, member.IsFloatFree) ∧
    contested.Perm contested.reverse ∧
    (Value.set contested).toJson.Agrees (Value.set contested.reverse).toJson ∧
    (Value.list [.float (.infinite true), .set contested]).Reordered
      (.list [.float (.infinite true), .set contested.reverse]) ∧
    ∃ files, Archive.ofBatch (.ofJson (.int 7))
        [.list [.float (.infinite true), .set contested]] = .ok files ∧
      Archive.ofBatch (.ofJson (.int 7)) [.list [.float (.infinite true), .set contested.reverse]] =
        .ok files := by
  have tags : (Value.set [.text "x", .text "y"]).IsFloatFree := by
    refine .set ?_
    rw [List.forall_mem_cons, List.forall_mem_singleton]
    exact ⟨.text "x", .text "y"⟩
  have free : ∀ member ∈ contested, member.IsFloatFree := by
    unfold contested
    rw [List.forall_mem_cons, List.forall_mem_cons, List.forall_mem_cons, List.forall_mem_cons,
      List.forall_mem_singleton]
    refine ⟨.promise 0 (.dictionary ?_), .promise 1 (.dictionary ?_), .absent, .tuple ?_, .null⟩ <;>
      rw [List.forall_mem_cons, List.forall_mem_singleton]
    · exact ⟨.int 1, tags⟩
    · exact ⟨tags, .int 1⟩
    · exact ⟨.day _, .member _ _ (.int 1)⟩
  have moved : contested.Perm contested.reverse := contested.reverse_perm.symm
  have reordered : (Value.list [.float (.infinite true), .set contested]).Reordered
      (.list [.float (.infinite true), .set contested.reverse]) := by
    refine .list rfl ?_
    rw [List.zip_cons_cons, List.zip_cons_cons, List.forall_mem_cons, List.forall_mem_cons]
    exact ⟨.same _, .of_perm free moved, List.forall_mem_nil _⟩
  refine ⟨free, moved, order_unseen.1 _ _ free moved, reordered, ?_⟩
  refine order_unseen.2.2 (.int 7) _ _ rfl ?_
  rw [List.zip_cons_cons, List.forall_mem_cons]
  exact ⟨reordered, List.forall_mem_nil _⟩

end Value

end Specimen
