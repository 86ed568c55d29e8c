/-
**The names of files tell samples apart.**

The file of a sample is named for a text of the seed, the place in the batch and the sample in JSON.
That text is the same only for the same seed, the same place and samples that agree in JSON
(`hashedText_eq_iff`): with the members of objects in order of their names, it can be read back. The
seed and the place can be read off it even where the sample has floats (`of_hashedText_eq`), so two
files of one batch have the same name only if the digests of two different texts start alike
(`collide_of_name`), and no other file is ever overwritten (`files_separate`).
-/

import Specimen.Proofs.Encodings

namespace Specimen

/-- A seed in JSON: an integer, or null if there is none. -/
def Seed.toJson : Option Int → Json
  | none => .null
  | some seed => .int seed

/-- Two different texts whose digests start with the same eight bytes. -/
structure Collide (text alike : String) : Prop where
  differ : text ≠ alike
  digest : (sha256Text text).take 8 = (sha256Text alike).take 8

/-! ### Digests in names -/

theorem digitChar_inj {digit other : Nat} (fits : digit < 16) (alsoFits : other < 16)
    (same : Nat.digitChar digit = Nat.digitChar other) : digit = other := by
  apply Option.some.inj
  rw [← Json.hexDigit?_digitChar digit fits, same, Json.hexDigit?_digitChar other alsoFits]

/-- The two digits of a byte tell it. -/
theorem byte_ext {byte other : UInt8}
    (high : Nat.digitChar (byte.toNat / 16) = Nat.digitChar (other.toNat / 16))
    (low : Nat.digitChar (byte.toNat % 16) = Nat.digitChar (other.toNat % 16)) : byte = other := by
  have bound := byte.toNat_lt
  have otherBound := other.toNat_lt
  have sameHigh := digitChar_inj (by omega) (by omega) high
  have sameLow := digitChar_inj (by omega) (by omega) low
  exact UInt8.toNat_inj.1 (by omega)

/-- Bytes can be read off their hexadecimal text. -/
theorem hexText_inj {bytes others : List UInt8} (same : hexText bytes = hexText others) :
    bytes = others := by
  replace same := String.ofList_inj.1 same
  induction bytes generalizing others with
  | nil =>
    cases others with
    | nil => rfl
    | cons other rest => cases same
  | cons byte bytes hypothesis =>
    cases others with
    | nil => cases same
    | cons other rest =>
      rw [List.flatMap_cons, List.flatMap_cons] at same
      obtain ⟨high, same⟩ := List.cons.inj same
      obtain ⟨low, same⟩ := List.cons.inj same
      rw [byte_ext high low, hypothesis same]

namespace SampleFile

variable {seed other : Option Int} {index place : Nat} {payload mate : Json}

/-! ### Reading the hashed text -/

theorem isFloatFree_seed (seed : Option Int) : (Seed.toJson seed).IsFloatFree := by
  cases seed with
  | none => exact .null
  | some seed => exact .int seed

theorem sortMembers_seed (seed : Option Int) : (Seed.toJson seed).sortMembers = Seed.toJson seed := by
  cases seed <;> rfl

theorem seed_inj (same : Seed.toJson seed = Seed.toJson other) : seed = other := by
  cases seed <;> cases other <;> cases same <;> rfl

theorem place_inj (same : Json.int index = .int place) : index = place :=
  Int.ofNat.inj (Json.int.inj same)

/-- Seeds and places in JSON are put in order as they are. -/
theorem agrees_hashed_iff :
    (Json.array [Seed.toJson seed, .int index, payload]).Agrees
        (.array [Seed.toJson other, .int place, mate]) ↔
      seed = other ∧ index = place ∧ payload.Agrees mate := by
  constructor
  · rintro (_ | _ | _ | _ | _ | ⟨_, each⟩ | _)
    simp only [List.zip_cons_cons, List.zip_nil_right, List.forall_mem_cons] at each
    obtain ⟨seeds, places, payloads, _⟩ := each
    have sameSeed := seeds.sortMembers_eq
    rw [sortMembers_seed, sortMembers_seed] at sameSeed
    exact ⟨seed_inj sameSeed, place_inj places.sortMembers_eq, payloads⟩
  · rintro ⟨rfl, rfl, agrees⟩
    refine .array rfl ?_
    simp only [List.zip_cons_cons, List.zip_nil_right, List.forall_mem_cons]
    exact ⟨(isFloatFree_seed seed).isClean.agrees, .int index, agrees, List.forall_mem_nil _⟩

/-- **The text that a file is named for is the same exactly for the same seed, the same place and
JSON values that agree,** where there are no floats. -/
theorem hashedText_eq_iff (free : payload.IsFloatFree) (alsoFree : mate.IsFloatFree) :
    hashedText (Seed.toJson seed) index payload = hashedText (Seed.toJson other) place mate ↔
      seed = other ∧ index = place ∧ payload.Agrees mate := by
  have areFree {seed : Option Int} {index : Nat} {payload : Json} (free : payload.IsFloatFree) :
      (Json.array [Seed.toJson seed, .int index, payload]).IsFloatFree := by
    refine .array ?_
    rw [List.forall_mem_cons, List.forall_mem_cons, List.forall_mem_singleton]
    exact ⟨isFloatFree_seed seed, .int index, free⟩
  exact (Json.sortedText_eq_iff Json.compact_isReadable (areFree free) (areFree alsoFree)).trans
    agrees_hashed_iff

/-- What the hashed text starts with: the seed, and then the place. -/
theorem toList_hashedText (seed : Option Int) (index : Nat) (payload : Json) : ∃ rest,
    (hashedText (Seed.toJson seed) index payload).toList =
      '[' :: (((Seed.toJson seed).write .compact).toList ++
        ',' :: (((Json.int index).write .compact).toList ++ ',' :: rest)) := by
  have text : hashedText (Seed.toJson seed) index payload =
      Json.bracketed .compact 0 "[" "]" [(Seed.toJson seed).write .compact,
        (Json.int index).write .compact, Json.writeAt .compact 1 payload.sortMembers] := by
    cases seed <;> rfl
  rw [text, Json.toList_bracketed (List.cons_ne_nil _ _), Json.joined_cons _ (List.cons_ne_nil _ _),
    Json.joined_cons _ (List.cons_ne_nil _ _), Json.joined_single]
  simp [Json.between, JsonLayout.compact, Json.lineStart]

/-- The seed and the place can be read off the hashed text, whatever the JSON value is. -/
theorem of_hashedText_eq (same : hashedText (Seed.toJson seed) index payload =
    hashedText (Seed.toJson other) place mate) : seed = other ∧ index = place := by
  obtain ⟨rest, text⟩ := toList_hashedText seed index payload
  obtain ⟨tail, alike⟩ := toList_hashedText other place mate
  rw [same, alike] at text
  have comma {rest : List Char} : Json.Stops (',' :: rest) := Json.stops_cons (.inl rfl)
  obtain ⟨seeds, after⟩ := Json.write_append_inj Json.compact_isReadable (isFloatFree_seed other)
    (isFloatFree_seed seed) comma comma (List.cons.inj text).2
  obtain ⟨indices, _⟩ := Json.write_append_inj Json.compact_isReadable (.int place) (.int index)
    comma comma (List.cons.inj after).2
  exact ⟨(seed_inj seeds).symm, (place_inj indices).symm⟩

/-- Files at two places have the same name only if two different texts have digests that start
alike. -/
theorem collide_of_name (apart : index ≠ place)
    (same : (fileOf (Seed.toJson seed) index payload).name =
      (fileOf (Seed.toJson other) place mate).name) :
    Collide (hashedText (Seed.toJson seed) index payload)
      (hashedText (Seed.toJson other) place mate) where
  differ sameText := apart (of_hashedText_eq sameText).2
  digest := hexText_inj (String.append_left_inj ".json" |>.1 same)

end SampleFile

/-! ### Files that are stored -/

namespace Archive

variable {files before after kept : List SampleFile} {file : SampleFile}

/-- A file stays while files with other names are written. -/
theorem mem_of_kept (mem : file ∈ kept) (others : ∀ later ∈ files, later.name ≠ file.name) :
    file ∈ files.foldl
      (fun kept file => kept.filter (fun other => other.name != file.name) ++ [file]) kept := by
  induction files generalizing kept with
  | nil => exact mem
  | cons first rest hypothesis =>
    rw [List.forall_mem_cons] at others
    refine hypothesis (List.mem_append_left _ (List.mem_filter.2 ⟨mem, ?_⟩)) others.2
    exact bne_iff_ne.2 (Ne.symm others.1)

/-- A file is stored unless one with the same name is written after it. -/
theorem mem_stored (others : ∀ later ∈ after, later.name ≠ file.name) :
    file ∈ stored (before ++ file :: after) := by
  refine List.mem_mergeSort.2 ?_
  rw [List.foldl_append, List.foldl_cons]
  exact mem_of_kept (List.mem_append_right _ List.mem_cons_self) others

/-- A file that is not stored was overwritten by a later one with its name. -/
theorem exists_overwriting {place : Nat} (written : files[place]? = some file)
    (lost : file ∉ stored files) :
    ∃ later other, place < later ∧ files[later]? = some other ∧ other.name = file.name := by
  by_contra none
  obtain ⟨bound, isFile⟩ := List.getElem?_eq_some_iff.1 written
  have split : files.take place ++ file :: files.drop (place + 1) = files := by
    rw [← isFile, List.getElem_cons_drop, List.take_append_drop]
  refine lost ?_
  rw [← split]
  refine mem_stored fun other listed same => none ?_
  obtain ⟨step, found⟩ := List.mem_iff_getElem?.1 listed
  rw [List.getElem?_drop] at found
  exact ⟨place + 1 + step, other, by omega, found, same⟩

/-- The file at a place of a batch is the file of the sample there. -/
theorem file_of_batch {seed : Json} {samples : List Value} {place : Nat}
    (made : ofBatch (.ofJson seed) samples = .ok files) (written : files[place]? = some file) :
    ∃ sample, samples[place]? = some sample ∧
      file = SampleFile.fileOf seed place sample.toJson := by
  rw [ofBatch_eq] at made
  cases made
  rw [List.getElem?_map, List.getElem?_zipIdx, Option.map_map, Option.map_eq_some_iff] at written
  obtain ⟨sample, found, rfl⟩ := written
  refine ⟨sample, found, ?_⟩
  simp only [Function.comp_apply, Nat.zero_add]

end Archive

/-! ### The law -/

/-- The digest of the text names the file of a sample with this JSON value. -/
def IsNamedFor (seed : Option Int) (index : Nat) (payload : Json) (text : String) : Prop :=
  fingerprintText [.ofJson (Seed.toJson seed), .int index, .ofJson payload] = .ok text

theorem isNamedFor_hashedText (seed : Option Int) (index : Nat) (payload : Json) :
    IsNamedFor seed index payload (SampleFile.hashedText (Seed.toJson seed) index payload) :=
  SampleFile.fingerprintText_eq _ index payload

/-- **The names of files tell samples apart.** The texts that files are named for are the same
exactly for the same seed, the same place and JSON values that agree, where there are no floats.
Whatever the samples of a batch are, two of their files have the same name only if the digests of
two different texts start alike, and only by such a later file a file is overwritten. -/
theorem files_separate (seed : Option Int) :
    (∀ (other : Option Int) (index place : Nat) (payload mate : Json),
      payload.IsFloatFree → mate.IsFloatFree →
      ∃ text alike, IsNamedFor seed index payload text ∧ IsNamedFor other place mate alike ∧
        (text = alike ↔ seed = other ∧ index = place ∧ payload.Agrees mate)) ∧
    ∀ samples : List Value, ∃ files,
      Archive.ofBatch (.ofJson (Seed.toJson seed)) samples = .ok files ∧
      files.length = samples.length ∧
      (∀ (place later : Nat) (file other : SampleFile), place ≠ later →
        files[place]? = some file → files[later]? = some other → file.name = other.name →
        ∃ sample mate text alike, samples[place]? = some sample ∧ samples[later]? = some mate ∧
          IsNamedFor seed place sample.toJson text ∧ IsNamedFor seed later mate.toJson alike ∧
          Collide text alike) ∧
      ∀ (place : Nat) (file : SampleFile), files[place]? = some file →
        file ∉ Archive.stored files →
        ∃ later other, place < later ∧ files[later]? = some other ∧ other.name = file.name := by
  refine ⟨fun other index place payload mate free alsoFree => ?_, fun samples => ?_⟩
  · exact ⟨_, _, isNamedFor_hashedText seed index payload, isNamedFor_hashedText other place mate,
      SampleFile.hashedText_eq_iff free alsoFree⟩
  · refine ⟨_, Archive.ofBatch_eq _ samples, ?_, ?_, fun _ _ => Archive.exists_overwriting⟩
    · rw [List.length_map, List.length_zipIdx]
    · intro place later file other apart written alsoWritten same
      obtain ⟨sample, found, rfl⟩ := Archive.file_of_batch (Archive.ofBatch_eq _ samples) written
      obtain ⟨mate, alsoFound, rfl⟩ :=
        Archive.file_of_batch (Archive.ofBatch_eq _ samples) alsoWritten
      exact ⟨sample, mate, _, _, found, alsoFound, isNamedFor_hashedText seed place _,
        isNamedFor_hashedText seed later _, SampleFile.collide_of_name apart same⟩

/-- An object with a flag in it, or with something else in the place of the flag. -/
def flagged (flag : Json) : Json := .object [("size", .int 1), ("flags", .array [flag])]

/-- The same object with its members the other way round. -/
def turned : Json := .object [("flags", .array [.bool true]), ("size", .int 1)]

/-- The order of members does not tell two samples apart, but a flag and the number one do. -/
theorem turned_separate : (flagged (.bool true)).IsFloatFree ∧ turned.IsFloatFree ∧
    (flagged (.int 1)).IsFloatFree ∧
    (∃ text, IsNamedFor (some 7) 0 (flagged (.bool true)) text ∧
      IsNamedFor (some 7) 0 turned text) ∧
    ∃ text alike, IsNamedFor (some 7) 0 (flagged (.bool true)) text ∧
      IsNamedFor (some 7) 0 (flagged (.int 1)) alike ∧ text ≠ alike := by
  have free {flag : Json} (isFree : flag.IsFloatFree) : (flagged flag).IsFloatFree := by
    have distinct : ["size", "flags"].Nodup := by decide
    refine .object distinct ?_
    rw [List.forall_mem_cons, List.forall_mem_singleton]
    exact ⟨.int 1, .array (List.forall_mem_singleton.2 isFree)⟩
  have alsoFree : turned.IsFloatFree := by
    refine .object (by decide) ?_
    rw [List.forall_mem_cons, List.forall_mem_singleton]
    exact ⟨.array (List.forall_mem_singleton.2 (.bool true)), .int 1⟩
  have agrees : (flagged (.bool true)).Agrees turned :=
    (free (.bool true)).isClean.agrees_moved (.swap _ _ [])
  have disagrees : ¬ (flagged (.bool true)).Agrees (flagged (.int 1)) := by
    rintro (_ | _ | _ | _ | _ | _ | ⟨_, _, each⟩)
    have flags := each ("flags", .array [.bool true]) (List.mem_cons_of_mem _ List.mem_cons_self)
      ("flags", .array [.int 1]) (List.mem_cons_of_mem _ List.mem_cons_self) rfl
    rcases flags with _ | _ | _ | _ | _ | ⟨_, pairs⟩
    cases pairs (.bool true, .int 1) List.mem_cons_self
  obtain ⟨text, alike, named, alsoNamed, same⟩ :=
    (files_separate (some 7)).1 (some 7) 0 0 _ _ (free (.bool true)) alsoFree
  obtain ⟨first, second, isFirst, isSecond, differs⟩ :=
    (files_separate (some 7)).1 (some 7) 0 0 _ _ (free (.bool true)) (free (.int 1))
  refine ⟨free (.bool true), alsoFree, free (.int 1), ⟨text, named, ?_⟩,
    first, second, isFirst, isSecond, fun equal => disagrees (differs.1 equal).2.2⟩
  rwa [same.2 ⟨rfl, rfl, agrees⟩]

end Specimen
