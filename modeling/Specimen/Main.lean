/-
**The program.**

Reads the schema file, runs the command line, prints what there is to print and writes the files of
the samples. Without a seed the source is seeded from the clock.
-/

import Specimen.CommandLine
import Specimen.Provider
import Std.Time.DateTime.Timestamp

namespace Specimen

/-! ### The clock -/

/-- Midnight at the start of the day of a number of seconds after the epoch. -/
def todayAt (seconds : Int) : Moment :=
  .startOf ⟨((epochWall / microsPerDay : Nat) + seconds.fdiv secondsPerDay).toNat⟩ none

/-- A source seeded with a number. -/
def sourceAt (seed : Int) : Source := ⟨.ofSeed seed, .null⟩

/-! ### Files and messages -/

/-- The text of a file, if there is one. -/
def readIfPresent (path : String) : IO (Option String) := do
  try pure (some (← IO.FS.readFile path)) catch _ => pure none

/-- Writes files into a directory. -/
def writeFiles (directory : String) (files : List SampleFile) : IO Unit := do
  if !directory.isEmpty then IO.FS.createDirAll directory
  for file in files do
    IO.FS.writeFile (directory ++ "/" ++ file.name) file.text

/-- The lines of a printout; markup is left as it is. -/
def Printout.lines : Printout → List String
  | .line text => [text]
  | .rule text => [text]
  | .panel title text => title.toList ++ [text]
  | .table title columns rows => title :: (columns :: rows).map " ".intercalate
  | .json data => [data.write .indented]

/-- The text that is shown for a fault. -/
def faultText (fault : Fault) : String := fault.message?.getD "unexpected value"

/-- What is shown when the arguments are wrong. -/
def usage : String :=
  "usage: --schema PATH [--definition NAME] [--count N] [--seed N] [--max-depth N] " ++
    "[--output-dir PATH] [--strict] [--list-generators]"

end Specimen

open Specimen

/-- Runs the program on the words of its command line. -/
def main (words : List String) : IO UInt32 := do
  match ({} : Arguments).read? words with
  | none =>
    IO.eprintln usage
    pure 2
  | some arguments => do
    let seconds := (← Std.Time.Timestamp.now).toSecondsSinceUnixEpoch.val
    let text ← readIfPresent arguments.schema
    let script := CommandLine.script .plain numberedServices (todayAt seconds) (sourceAt seconds)
      arguments text
    (script.printed.flatMap Printout.lines).forM IO.println
    match script.perform .plain with
    | .error fault =>
      IO.eprintln (faultText fault)
      pure 1
    | .ok result =>
      if result.code = 0 then writeFiles arguments.outputDirectory result.files
      pure (UInt32.ofNat result.code)
