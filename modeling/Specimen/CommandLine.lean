/-
**The command line.**

`CommandLine.run` is the program but for reading and writing files: it takes the arguments and the
text of the schema file, if there is one, and gives the exit code and the files to write. The code
is 0 if all went well, 1 if the schema cannot be read or a strict run met an unknown type, and 2 if
the arguments are wrong.

On the way the program prints (`CommandLine.script`), and the console of its platform may refuse a
printout; that ends the program without an exit code. What is logged on the way is left out, as is
the reading of files that are not in UTF-8.
-/

import Specimen.Archive
import Specimen.Catalog
import Specimen.Console
import Specimen.Document
import Specimen.Generation
import Specimen.Json.Reader

namespace Specimen

/-! ### Schema files -/

namespace SchemaFile

/-- The value in the text of a schema file, which must not be blank. A text that is not JSON is left
to another reader. -/
def read (readOther : String → Except Fault Value) (path : String) (text : Option String) :
    Except Fault Value :=
  match text with
  | none => .error (.misuse (.missingFile path))
  | some content =>
    let trimmed := String.ofList (trimBlank content.toList)
    if trimmed.isEmpty then .error (.misuse (.emptyFile path))
    else
      match Json.read? trimmed with
      | some json => .ok (Value.ofJson json)
      | none => readOther trimmed

end SchemaFile

/-! ### Arguments -/

/-- What the program is asked to do. -/
structure Arguments where
  schema : String := ""
  definition : String := ""
  count : Int := 3
  seed : Option Int := none
  maxDepth : Int := 10
  outputDirectory : String := ""
  strict : Bool := false
  listGenerators : Bool := false

namespace Arguments

/-- The arguments with a flag that takes no value; nothing if there is no such flag. -/
def setSwitch? (arguments : Arguments) : String → Option Arguments
  | "--strict" => some { arguments with strict := true }
  | "--list-generators" => some { arguments with listGenerators := true }
  | "--verbose" => some arguments
  | "-v" => some arguments
  | _ => none

/-- The arguments with a flag that takes a value; nothing if there is no such flag or the value is
not of its kind. -/
def setFlag? (arguments : Arguments) (flag value : String) : Option Arguments :=
  match flag with
  | "--schema" => some { arguments with schema := value }
  | "--definition" => some { arguments with definition := value }
  | "--output-dir" => some { arguments with outputDirectory := value }
  | "--count" => (readInteger? value).map fun count => { arguments with count := count }
  | "--seed" => (readInteger? value).map fun seed => { arguments with seed := some seed }
  | "--max-depth" => (readInteger? value).map fun depth => { arguments with maxDepth := depth }
  | _ => none

/-- A word split at its first equals sign. -/
def splitFlag? (word : String) : Option (String × String) :=
  let flag := word.toList.takeWhile (· != '=')
  if flag.length < word.length then
    some (String.ofList flag, String.ofList (word.toList.drop (flag.length + 1)))
  else none

/-- Reads the words of a command line. -/
def read? (arguments : Arguments) : List String → Option Arguments
  | [] => some arguments
  | [word] =>
    match splitFlag? word with
    | some (flag, value) => arguments.setFlag? flag value
    | none => arguments.setSwitch? word
  | word :: next :: rest =>
    match splitFlag? word with
    | some (flag, value) => do (← arguments.setFlag? flag value).read? (next :: rest)
    | none =>
      match arguments.setSwitch? word with
      | some switched => switched.read? (next :: rest)
      | none => do (← arguments.setFlag? word next).read? rest

/-- The seed as a value. -/
def seedValue (arguments : Arguments) : Value := (arguments.seed.map Value.int).getD .null

/-- The choices for the generation. -/
def settings (arguments : Arguments) : Settings :=
  [("max_depth", .value (.int arguments.maxDepth)),
    ("throw_on_unknown_type", .value (.bool arguments.strict))]

end Arguments

/-! ### Platforms -/

/-- What the program is given by the platform it runs on. -/
structure Platform where
  /-- Shows a printout, or refuses it. -/
  print : Printout → Except Fault Unit
  /-- The text of a fault that has none of its own. It may quote what the program was given. -/
  wording : Arguments → Option String → Fault → String
  /-- The full path of a directory. -/
  fullPath : String → String
  /-- The value in a text that is not JSON. -/
  readOther : String → Except Fault Value

namespace Platform

/-- A platform whose console refuses markup that closes a style which is not open. It has no other
reader, and adds nothing to faults and paths. -/
def plain : Platform where
  print printout :=
    if printout.markup.all Markup.isBalanced then .ok () else .error (.library "MarkupError")
  wording _ _ _ := ""
  fullPath := id
  readOther _ := .error .outOfDomain

end Platform

/-! ### Running -/

/-- What the program leaves behind. -/
structure CommandResult where
  code : Nat
  files : List SampleFile
  deriving DecidableEq

/-- What the program prints, and how it ends if nothing that it prints is refused. -/
structure Script where
  printed : List Printout
  ends : Except Fault CommandResult

namespace Script

/-- The script with printouts before its own. -/
def after (printed : List Printout) (script : Script) : Script :=
  { script with printed := printed ++ script.printed }

/-- Prints what there is to print and ends; the first printout that is refused ends it at once. -/
def perform (script : Script) (platform : Platform) : Except Fault CommandResult := do
  script.printed.forM platform.print
  script.ends

end Script

namespace CommandLine

/-- Is the fault one of this library's own, reported by the exit code? -/
def isReported : Fault → Bool
  | .unknownType _ => true
  | .invalidInput _ => true
  | .nonconforming _ => true
  | .load _ => true
  | _ => false

/-- Is the fault of a misuse that says that a value is not in the domain? -/
def isDomainMisuse : Misuse → Bool
  | .emptyUnion => true
  | .undeclaredDiscriminator _ => true
  | .emptyEnumeration => true
  | .missingFile _ => true
  | .emptyFile _ => true
  | _ => false

/-- Is the fault reported by the exit code while the schema is read? -/
def isLoadReported (fault : Fault) : Bool :=
  match fault with
  | .misuse rule => isDomainMisuse rule
  | .outOfDomain => true
  | .platformLimit => true
  | other => isReported other

/-! ### Steps -/

/-- The document of the schema file and the schema to make samples of. -/
def load (platform : Platform) (arguments : Arguments) (text : Option String) :
    Except Fault (Document × Schema) := do
  let document ← Document.ofValue (← SchemaFile.read platform.readOther arguments.schema text)
  pure (document, ← document.schemaFor (.text arguments.definition))

/-- The environment of a document; there are no functions of the caller. -/
def environmentOf (services : Services) (today : Moment) (document : Document) : Environment where
  toServices := services
  definitions := document.schemas
  invoke := fun _ _ => throw .wrongType
  today := today

/-- Makes a number of samples one after another. -/
def batch (environment : Environment) (schema : Schema) (settings : Settings) :
    Nat → Run (List Value)
  | 0 => pure []
  | count + 1 => do
    let first ← sample environment schema .null settings
    pure (first :: (← batch environment schema settings count))

/-- The names of the definitions, which have to be texts. -/
def definitionNames (document : Document) : Except Fault (List String) := do
  (← document.names).mapM fun
    | .text name => .ok name
    | _ => .error .wrongType

/-! ### Printouts -/

/-- The table of the named generators. -/
def catalogTable : Printout :=
  .table ("Named generators (" ++ toString catalog.length ++ ")") ["Category", "Name", "Domain"]
    (catalog.map fun entry => [entry.category, entry.name, entry.domain.name])

/-- A report of a fault: its text in red. -/
def faultPanel (platform : Platform) (arguments : Arguments) (text : Option String) (title : String)
    (fault : Fault) : Printout :=
  let words := fault.message?.getD (platform.wording arguments text fault)
  .panel (some title) ("[red]" ++ words ++ "[/red]")

/-- The text, or another one in the place of an empty text. -/
def textOr (text other : String) : String := if text.isEmpty then other else text

/-- The report of a schema that was loaded. -/
def loadedPanel (arguments : Arguments) (names : List String) : Printout :=
  .panel (some "Schema") ("[green]Loaded[/green] " ++ arguments.schema ++
    "\nDefinitions: " ++ textOr (", ".intercalate names) "-" ++
    "\nTarget: " ++ textOr arguments.definition "<root>")

/-- How much is shown of the JSON text of a sample. -/
def previewLength : Nat := 120

/-- The row of a sample: its number from one on, its fingerprint and the start of its JSON text. -/
def sampleRow (arguments : Arguments) (sample : Value × Nat) : Except Fault (List String) := do
  let payload := sample.1.toJson
  let signature ← fingerprint [arguments.seedValue, .int sample.2, Value.ofJson payload]
  pure [toString (sample.2 + 1), signature,
    String.ofList ((payload.write .spaced).toList.take previewLength)]

/-- The first sample in full, if there is one. -/
def firstSample : List Value → List Printout
  | [] => []
  | first :: _ => [.line "[dim]first mock[/dim]:", .json first.toJson]

/-- The report of the files that were written. -/
def savedPanel (platform : Platform) (arguments : Arguments) (count : Nat) : Printout :=
  .panel (some "Output") ("Wrote " ++ toString count ++ " file(s) to " ++
    platform.fullPath arguments.outputDirectory)

/-! ### The program -/

/-- Saves the samples, if there is a directory for them, and ends. -/
def saving (platform : Platform) (arguments : Arguments) (samples : List Value) : Script :=
  if arguments.outputDirectory.isEmpty then ⟨[.rule "[green]Done[/green]"], .ok ⟨0, []⟩⟩
  else Script.after [.rule "[cyan]3) Save[/cyan]"] <|
    match Archive.ofBatch arguments.seedValue samples with
    | .error fault => ⟨[], .error fault⟩
    | .ok files =>
      ⟨[savedPanel platform arguments files.length, .rule "[green]Done[/green]"],
        .ok ⟨0, Archive.stored files⟩⟩

/-- Shows the samples and goes on. -/
def showing (platform : Platform) (arguments : Arguments) (samples : List Value) : Script :=
  match samples.zipIdx.mapM (sampleRow arguments) with
  | .error fault => ⟨[], .error fault⟩
  | .ok rows =>
    .after (.table "Generated mocks" ["#", "Signature", "Preview"] rows :: firstSample samples)
      (saving platform arguments samples)

/-- Generates the samples and goes on. -/
def generating (platform : Platform) (environment : Environment) (source : Source)
    (arguments : Arguments) (text : Option String) (schema : Schema) : Script :=
  let making := batch environment schema arguments.settings arguments.count.toNat
  match (making.run (Session.start source 1)).1 with
  | .error fault =>
    if isReported fault then
      ⟨[faultPanel platform arguments text "Generation failed" fault], .ok ⟨1, []⟩⟩
    else ⟨[], .error fault⟩
  | .ok samples => showing platform arguments samples

/-- The source that samples are drawn from: the given one if there is no seed. -/
def sourceOf (unseeded : Source) (arguments : Arguments) : Except Fault Source :=
  match arguments.seed with
  | some seed => Source.ofSeed (.int seed)
  | none => .ok unseeded

/-- Goes on with a schema that was loaded. -/
def loaded (platform : Platform) (services : Services) (today : Moment) (unseeded : Source)
    (arguments : Arguments) (text : Option String) (document : Document) (schema : Schema) :
    Script :=
  match definitionNames document with
  | .error fault => ⟨[], .error fault⟩
  | .ok names =>
    Script.after [loadedPanel arguments names, .rule "[cyan]2) Generate[/cyan]"] <|
      match sourceOf unseeded arguments with
      | .error fault => ⟨[], .error fault⟩
      | .ok source =>
        generating platform (environmentOf services today document) source arguments text schema

/-- Loads the schema and goes on. -/
def loading (platform : Platform) (services : Services) (today : Moment) (unseeded : Source)
    (arguments : Arguments) (text : Option String) : Script :=
  match load platform arguments text with
  | .error fault =>
    if isLoadReported fault then
      ⟨[faultPanel platform arguments text "Schema" fault], .ok ⟨1, []⟩⟩
    else ⟨[], .error fault⟩
  | .ok (document, schema) =>
    loaded platform services today unseeded arguments text document schema

/-- What the program prints, and how it ends. Without a seed the given source is drawn from. -/
def script (platform : Platform) (services : Services) (today : Moment) (unseeded : Source)
    (arguments : Arguments) (text : Option String) : Script :=
  if arguments.listGenerators then ⟨[catalogTable], .ok ⟨0, []⟩⟩
  else if arguments.schema.isEmpty then
    ⟨[.line "[red]--schema is required[/red]"], .ok ⟨2, []⟩⟩
  else .after [.panel none "[b]Schema Mock[/b]", .rule "[cyan]1) Load Schema[/cyan]"]
    (loading platform services today unseeded arguments text)

/-- Runs the program. -/
def run (platform : Platform) (services : Services) (today : Moment) (unseeded : Source)
    (arguments : Arguments) (text : Option String) : Except Fault CommandResult :=
  (script platform services today unseeded arguments text).perform platform

end CommandLine

end Specimen
