/-
**Values that JSON can be made of, encoded.**

What was read from JSON is encoded as the same value with its members in order of their names
(`Value.encodeWith_ofJson`), whatever becomes of other values. So it is known what the files of a
batch are (`Archive.ofBatch_eq`): the text that each is named for (`SampleFile.hashedText`) and the
text that stands in it (`SampleFile.contentText`).
-/

import Specimen.Archive
import Specimen.Proofs.JsonAgreement

namespace Specimen

namespace Value

/-- A member of an object as an entry of a dictionary. -/
def memberEntry (member : String × Json) : Value × Json := (.text member.1, member.2)

/-- Entries under texts are in order where members under these names are. -/
theorem keysOrdered_memberEntry (first second : String × Json) :
    keysOrdered (memberEntry first) (memberEntry second) = Json.nameOrder first second := by
  have before : Comparison.less.holdsOf (compare second.1 first.1) = decide (second.1 < first.1) := by
    show (compareOfLessAndEq second.1 first.1 == .lt) = _
    rw [Bool.eq_iff_iff, beq_iff_eq, compareOfLessAndEq_eq_lt, decide_eq_true_iff]
  show (!Comparison.less.holdsOf (compare second.1 first.1)) = _
  rw [before]
  rfl

theorem sortEntries_memberEntry (members : List (String × Json)) :
    sortEntries (members.map memberEntry) =
      .ok ((members.mergeSort Json.nameOrder).map memberEntry) := by
  have texts : (members.map memberEntry).all (·.1.isText) = true := by
    rw [List.all_map]
    exact List.all_eq_true.2 fun _ _ => rfl
  unfold sortEntries
  split
  · next few =>
    match members, few with
    | [], _ => rw [List.mergeSort_nil]
    | [_], _ => rw [List.mergeSort_singleton]
  · rw [texts, Bool.true_or, if_pos rfl, List.map_mergeSort]
    exact fun first _ second _ => (keysOrdered_memberEntry first second).symm

theorem named_memberEntry (members : List (String × Json)) :
    ((members.map memberEntry).mapM fun entry =>
      (do pure (← entry.1.keyName, entry.2) : Except Fault (String × Json))) = .ok members := by
  induction members with
  | nil => rfl
  | cons first rest hypothesis =>
    rw [List.map_cons, List.mapM_cons, hypothesis]
    rfl

section Encoding

variable (formless : Value → Except Fault Json)

mutual

/-- What was read from JSON is encoded with the members in order. -/
theorem encodeWith_ofJson : ∀ json : Json, (ofJson json).encodeWith formless = .ok json.sortMembers
  | .null => rfl
  | .bool _ => rfl
  | .int _ => rfl
  | .float _ => rfl
  | .text _ => rfl
  | .array items => by
    rw [ofJson, encodeWith, encodeItems_ofJson items]
    rfl
  | .object members => by
    rw [ofJson, encodeWith, encodeEntries_ofJson members]
    show (sortEntries _ >>= _) = _
    rw [sortEntries_memberEntry]
    show (List.mapM (m := Except Fault) _ _ >>= _) = _
    rw [named_memberEntry]
    rfl
  termination_by structural json => json

theorem encodeItems_ofJson : ∀ items : List Json,
    encodeItems formless (ofJsonItems items) = .ok (Json.sortItems items)
  | [] => rfl
  | item :: rest => by
    rw [ofJsonItems, encodeItems, encodeWith_ofJson item, encodeItems_ofJson rest]
    rfl
  termination_by structural items => items

theorem encodeEntries_ofJson : ∀ members : List (String × Json),
    encodeEntries formless (ofJsonMembers members) =
      .ok ((Json.sortValues members).map memberEntry)
  | [] => rfl
  | (name, json) :: rest => by
    rw [ofJsonMembers, encodeEntries, encodeWith_ofJson json, encodeEntries_ofJson rest]
    rfl
  termination_by structural members => members

end

end Encoding

end Value

/-! ### Fingerprints and files -/

/-- The text whose digest names values that were read from JSON. -/
theorem fingerprintText_ofJson (parts : List Json) : fingerprintText (Value.ofJsonItems parts) =
    .ok ((Json.array (Json.sortItems parts)).write .compact) := by
  show ((Value.ofJson (.array parts)).encodeWith _ >>= _) = _
  rw [Value.encodeWith_ofJson]
  rfl

/-- Values in JSON have the same fingerprint as others if they are the same with their members in
order, whatever stands around them. -/
theorem fingerprint_congr {payload mate : Json} (same : payload.sortMembers = mate.sortMembers)
    (before after : List Value) : fingerprint (before ++ .ofJson payload :: after) =
      fingerprint (before ++ .ofJson mate :: after) := by
  have encoded : ∀ formless : Value → Except Fault Json,
      Value.encodeItems formless (before ++ .ofJson payload :: after) =
        Value.encodeItems formless (before ++ .ofJson mate :: after) := by
    intro formless
    induction before with
    | nil =>
      rw [List.nil_append, List.nil_append, Value.encodeItems, Value.encodeItems,
        Value.encodeWith_ofJson, Value.encodeWith_ofJson, same]
    | cons first rest hypothesis =>
      rw [List.cons_append, List.cons_append, Value.encodeItems, Value.encodeItems, hypothesis]
  unfold fingerprint fingerprintText Value.encode
  rw [Value.encodeWith, Value.encodeWith, encoded]

namespace SampleFile

/-- The text whose digest names the file of a sample, in terms of its JSON. -/
def hashedText (seed : Json) (index : Nat) (payload : Json) : String :=
  (Json.array [seed.sortMembers, .int index, payload.sortMembers]).write .compact

/-- The content of the file of a sample, in terms of its JSON. -/
def contentText (seed : Json) (index : Nat) (payload : Json) : String :=
  (Json.object [("data", payload.sortMembers), ("index", .int index),
    ("seed", seed.sortMembers)]).write .indented

theorem fingerprintText_eq (seed : Json) (index : Nat) (payload : Json) :
    fingerprintText [.ofJson seed, .int index, .ofJson payload] =
      .ok (hashedText seed index payload) :=
  fingerprintText_ofJson [seed, .int index, payload]

/-- The file of a sample: its name is of the digest of one text, its content is another. -/
def fileOf (seed : Json) (index : Nat) (payload : Json) : SampleFile :=
  ⟨hexText ((sha256Text (hashedText seed index payload)).take 8) ++ ".json",
    contentText seed index payload⟩

theorem fileOf_congr {seed payload mate : Json} {index : Nat}
    (same : payload.sortMembers = mate.sortMembers) :
    fileOf seed index payload = fileOf seed index mate := by
  unfold fileOf hashedText contentText
  rw [same]

theorem ofSample_eq (seed : Json) (index : Nat) (sample : Value) :
    ofSample (.ofJson seed) index sample = .ok (fileOf seed index sample.toJson) := by
  have named : nameFor (.ofJson seed) index sample.toJson =
      .ok (fileOf seed index sample.toJson).name := by
    unfold nameFor fingerprint
    rw [fingerprintText_eq]
    rfl
  have written : textFor (.ofJson seed) index sample.toJson =
      .ok (fileOf seed index sample.toJson).text := by
    unfold textFor Value.encodeExactly
    rw [Value.encodeWith_ofJson]
    rfl
  show (nameFor (.ofJson seed) index sample.toJson >>= _) = _
  rw [named]
  show (textFor (.ofJson seed) index sample.toJson >>= _) = _
  rw [written]
  rfl

end SampleFile

/-- There is a file of each sample of a batch. -/
theorem Archive.ofBatch_eq (seed : Json) (samples : List Value) : ofBatch (.ofJson seed) samples =
    .ok (samples.zipIdx.map fun sample => SampleFile.fileOf seed sample.2 sample.1.toJson) := by
  unfold ofBatch
  simp only [SampleFile.ofSample_eq]
  exact List.mapM_pure

/-- Batches have the same files if their samples are the same in JSON with the members in order. -/
theorem Archive.ofBatch_congr (seed : Json) {samples mates : List Value}
    (length : samples.length = mates.length)
    (each : ∀ pair ∈ samples.zip mates,
      pair.1.toJson.sortMembers = pair.2.toJson.sortMembers) :
    ofBatch (.ofJson seed) samples = ofBatch (.ofJson seed) mates := by
  rw [ofBatch_eq, ofBatch_eq]
  refine congrArg Except.ok (List.ext_getElem (by simp [length]) fun place bound alsoBound => ?_)
  rw [List.getElem_map, List.getElem_map, List.getElem_zipIdx, List.getElem_zipIdx]
  simp only [List.length_map, List.length_zipIdx] at bound alsoBound
  have paired : (samples[place], mates[place]) ∈ samples.zip mates :=
    List.mem_iff_getElem.2 ⟨place, by simpa using ⟨bound, alsoBound⟩, List.getElem_zip⟩
  exact SampleFile.fileOf_congr (each _ paired)

end Specimen
