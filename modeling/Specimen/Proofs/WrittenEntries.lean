/-
**What is written of the entries of a dictionary.**

The entries of a dictionary are put into an object under the texts of their keys, less those that
are absent. Each name stands where it comes first and has the value that comes last (`Json.merged`),
so an entry is lost where a later one has a key of the same text, such as the text of a number
behind the number. Nothing is lost exactly if the texts are pairwise different
(`Json.keepsAll_merged_iff`), as they are for keys that are all texts and for plain keys.

`generate_written` says this of the maps and records that are generated, whose keys are pairwise
different.
-/

import Specimen.Proofs.JsonForms
import Specimen.Proofs.KeyTexts
import Specimen.Proofs.Layers
import Specimen.Proofs.Making
import Specimen.Proofs.Numbered
import Specimen.Proofs.References

namespace Specimen

open Run (Yields)
open Value (AreKeyed IsDictionary writtenEntry)

/-! ### Filling an object -/

namespace Json

variable {members wanted : List (String × Json)} {name other : String} {json : Json}

/-- An object with members that are put into it one after another. -/
def putAll (found more : List (String × Json)) : List (String × Json) :=
  more.foldl (fun found member => put found member.1 member.2) found

/-- Each name where it comes first, with the value that comes last. -/
def merged (members : List (String × Json)) : List (String × Json) :=
  (members.map (·.1)).eraseDups.map fun name => (name, (members.reverse.lookup name).getD .null)

/-- All that is wanted is there, and there is no more of it. -/
structure KeepsAll (members wanted : List (String × Json)) : Prop where
  size : members.length = wanted.length
  each : ∀ member ∈ wanted, member ∈ members

theorem putAll_concat (found more : List (String × Json)) (member : String × Json) :
    putAll found (more ++ [member]) = put (putAll found more) member.1 member.2 := by
  rw [putAll, List.foldl_append]
  rfl

theorem lookup_put (members : List (String × Json)) (name other : String) (json : Json) :
    (put members name json).lookup other =
      if other == name then some json else members.lookup other := by
  induction members with
  | nil =>
    rw [put, List.lookup_cons]
    cases other == name <;> rfl
  | cons first rest hypothesis =>
    obtain ⟨found, old⟩ := first
    rw [put]
    split
    · next same =>
      subst same
      rw [List.lookup_cons, List.lookup_cons]
      cases other == found <;> rfl
    · next differs =>
      rw [List.lookup_cons, List.lookup_cons, hypothesis]
      cases isFound : other == found with
      | false => rfl
      | true =>
        have apart : (other == name) = false :=
          beq_eq_false_iff_ne.2 fun same => differs ((eq_of_beq isFound).symm.trans same)
        rw [apart]
        rfl

theorem nodup_putAll (wanted : List (String × Json)) : ((putAll [] wanted).map (·.1)).Nodup := by
  induction wanted using List.reverseRecOn with
  | nil => exact List.nodup_nil
  | append_singleton wanted member hypothesis =>
    rw [putAll_concat]
    exact nodup_put hypothesis member.1 member.2

theorem names_putAll (wanted : List (String × Json)) :
    (putAll [] wanted).map (·.1) = (wanted.map (·.1)).eraseDups := by
  induction wanted using List.reverseRecOn with
  | nil => rfl
  | append_singleton wanted member hypothesis =>
    rw [putAll_concat, names_put, hypothesis, List.map_append, List.eraseDups_append]
    by_cases listed : member.1 ∈ wanted.map (·.1) <;>
      simp [List.removeAll, List.eraseDups_cons, listed]

theorem lookup_putAll (wanted : List (String × Json)) (name : String) :
    (putAll [] wanted).lookup name = wanted.reverse.lookup name := by
  induction wanted using List.reverseRecOn with
  | nil => rfl
  | append_singleton wanted member hypothesis =>
    rw [putAll_concat, lookup_put, hypothesis, List.reverse_append, List.reverse_singleton,
      List.singleton_append, List.lookup_cons]
    cases name == member.1 <;> rfl

/-- Members with different names are what is found under their names. -/
theorem eq_map_lookup (distinct : (members.map (·.1)).Nodup) :
    (members.map (·.1)).map (fun name => (name, (members.lookup name).getD .null)) = members := by
  have found : ∀ member ∈ members,
      (member.1, (members.lookup member.1).getD .null) = member := fun member mem => by
    rw [Document.lookup_of_mem distinct mem]
    rfl
  rw [List.map_map]
  exact (List.map_congr_left found).trans (List.map_id members)

/-- Members that are put into an empty object are merged. -/
theorem putAll_nil (wanted : List (String × Json)) : putAll [] wanted = merged wanted := by
  rw [← eq_map_lookup (nodup_putAll wanted), names_putAll, merged]
  simp only [lookup_putAll]

theorem putAll_of_nodup (distinct : (wanted.map (·.1)).Nodup) : putAll [] wanted = wanted := by
  induction wanted using List.reverseRecOn with
  | nil => rfl
  | append_singleton wanted member hypothesis =>
    rw [List.map_append, List.nodup_append] at distinct
    have new : member.1 ∉ wanted.map (·.1) := fun mem =>
      distinct.2.2 member.1 mem member.1 (List.mem_singleton_self _) rfl
    rw [putAll_concat, hypothesis distinct.1, put_new new]

/-- **An object keeps all that is put into it exactly if the names are pairwise different.** -/
theorem keepsAll_merged_iff : KeepsAll (merged wanted) wanted ↔ (wanted.map (·.1)).Nodup := by
  rw [← putAll_nil]
  constructor
  · rintro ⟨size, -⟩
    have distinct := nodup_putAll wanted
    have within : (putAll [] wanted).map (·.1) ⊆ wanted.map (·.1) := by
      rw [names_putAll]
      exact fun _ => List.mem_eraseDups.1
    have short : (wanted.map (·.1)).length ≤ ((putAll [] wanted).map (·.1)).length := by
      rw [List.length_map, List.length_map, size]
    have same := (distinct.subperm within).perm_of_length_le short
    exact same.nodup_iff.1 distinct
  · intro distinct
    rw [putAll_of_nodup distinct]
    exact ⟨rfl, fun _ mem => mem⟩

end Json

/-! ### Writing entries -/

namespace Value

variable {entries : List (Value × Value)} {entry : Value × Value} {member : String × Json}

/-- The texts under which entries are written, less those that are absent. -/
def keyTexts (entries : List (Value × Value)) : List String :=
  (entries.filterMap writtenEntry).map (·.1)

theorem toJsonEntries_eq_putAll (found : List (String × Json)) (entries : List (Value × Value)) :
    toJsonEntries found entries = Json.putAll found (entries.filterMap writtenEntry) := by
  induction entries generalizing found with
  | nil => rfl
  | cons first rest hypothesis =>
    obtain ⟨key, value⟩ := first
    rw [toJsonEntries, hypothesis, List.filterMap_cons, writtenEntry]
    cases value.isAbsent <;> rfl

/-- A dictionary is written as the entries that are there, merged by the texts of their keys. -/
theorem toJson_dictionary (entries : List (Value × Value)) :
    (Value.dictionary entries).toJson = .object (Json.merged (entries.filterMap writtenEntry)) := by
  rw [toJson, toJsonEntries_eq_putAll, Json.putAll_nil]

theorem name_of_writtenEntry (written : writtenEntry entry = some member) :
    member.1 = entry.1.display := by
  unfold writtenEntry at written
  split at written
  · cases written
  · cases written
    rfl

/-- Do the texts of the keys tell them apart? -/
def AreTold (entries : List (Value × Value)) : Prop :=
  ∀ entry ∈ entries, ∀ later ∈ entries,
    entry.1.display = later.1.display → entry.1.same later.1 = true

theorem areTold_of_texts (texts : ∀ entry ∈ entries, ∃ name, entry.1 = .text name) :
    AreTold entries := by
  intro entry mem later alsoMem same
  obtain ⟨name, isName⟩ := texts entry mem
  obtain ⟨other, isOther⟩ := texts later alsoMem
  rw [isName, isOther] at same ⊢
  obtain rfl : name = other := same
  exact same_refl _

/-- All keys are plain, and those that are members of enumerations are of classes whose names
differ.
-/
structure ArePlain (entries : List (Value × Value)) : Prop where
  keys : ∀ entry ∈ entries, entry.1.IsPlainKey
  classes : ∀ entry ∈ entries, ∀ later ∈ entries, entry.1.AreOfNamedClasses later.1

theorem ArePlain.areTold (plain : ArePlain entries) : AreTold entries :=
  fun entry mem later alsoMem =>
    (plain.keys entry mem).same_of_display (plain.keys later alsoMem)
      (plain.classes entry mem later alsoMem)

/-- Different keys that are told apart by their texts have different texts. -/
theorem AreKeyed.nodup_keyTexts (keyed : AreKeyed entries) (told : AreTold entries) :
    (keyTexts entries).Nodup := by
  have different : entries.Pairwise fun entry later => entry.1.display ≠ later.1.display :=
    (List.pairwise_map.1 keyed.different).imp_of_mem fun mem alsoMem differ same => by
      rw [told _ mem _ alsoMem same] at differ
      cases differ
  rw [keyTexts, List.Nodup, List.pairwise_map, List.pairwise_filterMap]
  refine different.imp fun differ member written other alsoWritten => ?_
  rwa [name_of_writtenEntry written, name_of_writtenEntry alsoWritten]

/-- Entries under some texts are entries of a dictionary. -/
theorem exists_of_keyTexts {result : Except Fault Value} {text : String} {rest : List String}
    (told : (result.toOption.map fun made => keyTexts made.entries) = some (text :: rest)) :
    ∃ entries, result = .ok (.dictionary entries) ∧ keyTexts entries = text :: rest := by
  cases result with
  | error fault => cases told
  | ok made =>
    cases made with
    | dictionary entries => exact ⟨entries, rfl, Option.some.inj told⟩
    | _ => cases told

end Value

/-! ### Generation -/

namespace Make

/-- Filling keeps keys pairwise different. -/
theorem fill_keyed (key value : Run Value) (enough attempts : Nat) {found : List (Value × Value)}
    (keyed : AreKeyed found) : Yields (fill key value enough attempts found) AreKeyed := by
  refine (fill_isLoop key value enough).yields (Yields.trivial _) ?_ attempts keyed
  intro found drawn next keyed _ _ added
  unfold putEntry at added
  split at added
  · next hashable =>
    cases added
    exact keyed.put hashable
  · cases added

theorem entries_yields (size : Context → Value) (key value : Make) (context : Context) :
    Yields (entries size key value context) IsDictionary := by
  refine guarded_yields ⟨[], rfl, .nil⟩ fun below _ => ?_
  refine Yields.last fun target => ?_
  refine (fill_keyed _ _ _ _ .nil).bind fun found keyed => ?_
  have given : Yields (pure (Value.dictionary found)) IsDictionary := .pure ⟨found, rfl, keyed⟩
  split
  · exact Yields.last fun _ => given
  · exact given

end Make

/-- What a map or a record gives is absent or a dictionary with pairwise different keys. -/
theorem generate_dictionary (environment : Environment) {schema : Schema} {context : Context}
    (own : context.overrides.lookup schema.tag = none)
    (asks : schema.kind = .map ∨ schema.kind = .record) :
    Yields (generate environment schema context) fun made => made = .absent ∨ made.IsDictionary := by
  have node : ∃ lower parts, generate environment schema context =
      Make.ofNode environment lower schema parts context :=
    ⟨_, _, congrFun (generateWithin_eq environment context.remaining schema) context⟩
  obtain ⟨lower, parts, same⟩ := node
  have rule : ∃ size key value, Make.builtin? environment lower schema parts =
      some (Make.entries size key value) := by
    rcases asks with kind | kind <;> exact ⟨_, _, _, by rw [Make.builtin?, kind]⟩
  obtain ⟨size, key, value, builtin⟩ := rule
  rw [same, Make.ofNode_of_lookup own builtin]
  refine Make.filled_yields (.inl rfl) ?_
  exact (Make.entries_yields size key value context).mono fun _ => .inr

/-- **What is written of a map or a record**: the entries that are there, merged by the texts of
their keys. Nothing is lost exactly if these are pairwise different, and they are if the keys are
all texts or all plain. -/
theorem generate_written (environment : Environment) {schema : Schema} {context : Context}
    (own : context.overrides.lookup schema.tag = none)
    (asks : schema.kind = .map ∨ schema.kind = .record) :
    Yields (generate environment schema context) fun made =>
      made = .absent ∨ ∃ entries members, made = .dictionary entries ∧ AreKeyed entries ∧
        made.toJson = .object members ∧ members = Json.merged (entries.filterMap writtenEntry) ∧
        (Json.KeepsAll members (entries.filterMap writtenEntry) ↔ (Value.keyTexts entries).Nodup) ∧
        ((∀ entry ∈ entries, ∃ name, entry.1 = .text name) ∨ Value.ArePlain entries →
          Json.KeepsAll members (entries.filterMap writtenEntry)) := by
  refine (generate_dictionary environment own asks).mono fun made => Or.imp_right ?_
  rintro ⟨entries, rfl, keyed⟩
  refine ⟨entries, _, rfl, keyed, Value.toJson_dictionary entries, rfl,
    Json.keepsAll_merged_iff, fun kinds => Json.keepsAll_merged_iff.2 ?_⟩
  exact keyed.nodup_keyTexts (kinds.elim Value.areTold_of_texts Value.ArePlain.areTold)

/-- A session whose generator begins with different words. -/
def varied : Session :=
  .start ⟨⟨⟨[0, 0x80000000, 0x40000000, 0, 0x80000000, 0x80000000] ++ .replicate 618 0⟩, 0⟩, .int 1⟩ 0

/-- A record whose keys are a number, nothing and a text. -/
def mixedKeys : Schema :=
  .recordOf (.leaf .enumeration { values := [.int 1, .null, .text "low"] }) .boolean

/-- A record under the texts `1`, `None` and `low` keeps all of its entries. -/
theorem mixedKeys_written : ∃ entries members,
    (generate (.numbered []) mixedKeys { recordKeysLength := .int 3 } varied).1 =
        .ok (.dictionary entries) ∧
      Value.keyTexts entries = ["1", "None", "low"] ∧
      (Value.dictionary entries).toJson = .object members ∧
      Json.KeepsAll members (entries.filterMap writtenEntry) := by
  have drawn : ((generate (.numbered []) mixedKeys { recordKeysLength := .int 3 }
      varied).1.toOption.map fun made => Value.keyTexts made.entries) =
        some ["1", "None", "low"] := by
    decide +kernel
  obtain ⟨entries, made, texts⟩ := Value.exists_of_keyTexts drawn
  refine ⟨entries, ?_⟩
  rcases generate_written (.numbered []) rfl (.inr rfl) _ _ _ (Prod.ext made rfl) with
    absent | ⟨_, members, same, _, written, _, keeps, _⟩
  · cases absent
  · cases same
    exact ⟨members, made, texts, written, keeps.2 (texts ▸ by decide)⟩

/-- A map whose keys are a number and its text. -/
def twinKeys : Schema := .mapOf (.leaf .enumeration { values := [.int 1, .text "1"] }) .boolean

/-- A map whose keys are members of two enumerations of one name. -/
def namesakes : Schema :=
  .mapOf (.leaf .enumeration { values := [.member ⟨"Kind", 0⟩ "X" (.int 1),
    .member ⟨"Kind", 1⟩ "X" (.int 1)] }) .boolean

/-- Where two entries have keys with one text not all entries are kept. -/
theorem lost_of_keyTexts {result : Except Fault Value} {text : String} {rest : List String}
    (told : (result.toOption.map fun made => Value.keyTexts made.entries) = some (text :: rest))
    (repeated : ¬ (text :: rest).Nodup) : ∃ entries, result = .ok (.dictionary entries) ∧
      Value.keyTexts entries = text :: rest ∧
      ¬ ∃ members, (Value.dictionary entries).toJson = .object members ∧
        Json.KeepsAll members (entries.filterMap writtenEntry) := by
  obtain ⟨entries, made, texts⟩ := Value.exists_of_keyTexts told
  refine ⟨entries, made, texts, ?_⟩
  rintro ⟨members, written, keeps⟩
  rw [Value.toJson_dictionary] at written
  cases written
  have distinct : (Value.keyTexts entries).Nodup := Json.keepsAll_merged_iff.1 keeps
  rw [texts] at distinct
  exact repeated distinct

/-- Of two entries whose keys have one text one is lost, be they a number and its text or two
members of enumerations. -/
theorem twinKeys_lost :
    (∃ entries, (generate (.numbered []) twinKeys { mapEntriesLength := .int 2 } varied).1 =
        .ok (.dictionary entries) ∧
      Value.keyTexts entries = ["1", "1"] ∧
      ¬ ∃ members, (Value.dictionary entries).toJson = .object members ∧
        Json.KeepsAll members (entries.filterMap writtenEntry)) ∧
    ∃ entries, (generate (.numbered []) namesakes { mapEntriesLength := .int 2 } varied).1 =
        .ok (.dictionary entries) ∧
      Value.keyTexts entries = ["Kind.X", "Kind.X"] ∧
      ¬ ∃ members, (Value.dictionary entries).toJson = .object members ∧
        Json.KeepsAll members (entries.filterMap writtenEntry) :=
  ⟨lost_of_keyTexts (by decide +kernel) (by decide),
    lost_of_keyTexts (by decide +kernel) (by decide)⟩

end Specimen
