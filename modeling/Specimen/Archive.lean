/-
**Archives.**

An archive is a list of files, one for each sample of a batch. A file holds the sample, its place in
the batch and the seed; it is named by the fingerprint of the three, so equal batches have equal
files.
-/

import Specimen.Seed

namespace Specimen

/-- A file: its name and its text. -/
structure SampleFile where
  name : String
  text : String
  deriving DecidableEq

namespace SampleFile

/-- The name of the file of a sample. -/
def nameFor (seed : Value) (index : Nat) (payload : Json) : Except Fault String := do
  pure ((← fingerprint [seed, .int index, Value.ofJson payload]) ++ ".json")

/-- The text of the file of a sample. -/
def textFor (seed : Value) (index : Nat) (payload : Json) : Except Fault String := do
  let members := [("data", payload.sortMembers), ("index", .int index),
    ("seed", ← seed.encodeExactly)]
  pure ((Json.object members).write .indented)

/-- The file of a sample. -/
def ofSample (seed : Value) (index : Nat) (sample : Value) : Except Fault SampleFile := do
  let payload := sample.toJson
  pure ⟨← nameFor seed index payload, ← textFor seed index payload⟩

end SampleFile

namespace Archive

/-- The files of a batch, in the order of its samples. -/
def ofBatch (seed : Value) (samples : List Value) : Except Fault (List SampleFile) :=
  samples.zipIdx.mapM fun sample => SampleFile.ofSample seed sample.2 sample.1

/-- What is stored once all files are written: of files with one name the last one, by name. -/
def stored (files : List SampleFile) : List SampleFile :=
  let latest := files.foldl
    (fun kept file => kept.filter (fun other => other.name != file.name) ++ [file]) []
  latest.mergeSort fun first second => !(second.name < first.name)

end Archive

end Specimen
