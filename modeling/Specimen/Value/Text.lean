/-
**The texts of a value.**

`Value.inspect` writes a value so that its type shows: texts in quotes, collections in brackets.
`Value.display` writes it plainly: a text as it is, a moment in the calendar format, an enumeration
member by its names, and any other value as it is inspected.
-/

import Specimen.Binary64.Text
import Specimen.Calendar.Iso
import Specimen.Text.Quoted
import Specimen.Value

namespace Specimen

/-- The pieces joined by commas. -/
def commaSeparated (pieces : List String) : String := ", ".intercalate pieces

/-- The parts of a span of time that are not zero, days first; a negative span has negative days. -/
def inspectSpan (span : Int) : String :=
  let days := spanDays span
  let rest := (span - days * microsPerDay).toNat
  let part (name : String) (value : Int) : List String :=
    if value = 0 then [] else [name ++ "=" ++ toString value]
  let parts := part "days" days ++ part "seconds" (rest / microsPerSecond : Nat) ++
    part "microseconds" (rest % microsPerSecond : Nat)
  "datetime.timedelta(" ++ (if parts.isEmpty then "0" else commaSeparated parts) ++ ")"

/-- A clock offset, as part of an inspected moment. -/
def inspectOffset (offset : Int) : String :=
  if offset = 0 then "datetime.timezone.utc"
  else "datetime.timezone(" ++ inspectSpan offset ++ ")"

/-- A moment by its fields; seconds and microseconds only where they are not zero. -/
def Moment.inspect (moment : Moment) : String :=
  let civil := moment.day.civil
  let number (value : Nat) : String := toString value
  let fields := [civil.year, civil.month, civil.day, moment.hour, moment.minute].map number
  let fine := if moment.microsecond ≠ 0 then [number moment.second, number moment.microsecond]
    else if moment.second ≠ 0 then [number moment.second] else []
  let zone := match moment.offset with
    | some offset => ["tzinfo=" ++ inspectOffset offset]
    | none => []
  "datetime.datetime(" ++ commaSeparated (fields ++ fine ++ zone) ++ ")"

/-- A day by its fields. -/
def Day.inspect (date : Day) : String :=
  let civil := date.civil
  "datetime.date(" ++ commaSeparated ([civil.year, civil.month, civil.day].map toString) ++ ")"

/-- A function by its qualified name and its address, for which its identity stands. -/
def inspectFunction (name : FunctionName) (identity : Nat) : String :=
  "<function " ++ name.scope ++ name.name ++ " at 0x" ++ String.ofList (Nat.toDigits 16 identity) ++
    ">"

namespace Value

mutual

/-- The text of a value in which its type shows. -/
def inspect : Value → String
  | .absent => "ABSENT"
  | .null => "None"
  | .bool value => if value then "True" else "False"
  | .int value => toString value
  | .float value => value.toText
  | .text value => quoted value
  | .list items => "[" ++ commaSeparated (inspectItems items) ++ "]"
  | .tuple items =>
    match inspectItems items with
    | [single] => "(" ++ single ++ ",)"
    | pieces => "(" ++ commaSeparated pieces ++ ")"
  | .set members frozen =>
    let content := match inspectItems members with
      | [] => ""
      | pieces => "\x7b" ++ commaSeparated pieces ++ "\x7d"
    if frozen then "frozenset(" ++ content ++ ")" else if content.isEmpty then "set()" else content
  | .dictionary entries => "\x7b" ++ commaSeparated (inspectEntries entries) ++ "\x7d"
  | .moment value => value.inspect
  | .day value => value.inspect
  | .member family name value => "<" ++ family.name ++ "." ++ name ++ ": " ++ inspect value ++ ">"
  | .promise _ settled => "ResolvedPromise(" ++ inspect settled ++ ")"
  | .function name identity => inspectFunction name identity
  termination_by structural value => value

/-- The texts of a list of values. -/
def inspectItems : List Value → List String
  | [] => []
  | item :: rest => inspect item :: inspectItems rest
  termination_by structural items => items

/-- The texts of a list of entries. -/
def inspectEntries : List (Value × Value) → List String
  | [] => []
  | (key, value) :: rest => (inspect key ++ ": " ++ inspect value) :: inspectEntries rest
  termination_by structural entries => entries

end

/-- The plain text of a value. -/
def display : Value → String
  | .text value => value
  | .moment value => value.toIso " "
  | .day value => value.toIso
  | .member family name _ => family.name ++ "." ++ name
  | value => value.inspect

/-- The plain text of a value, moments in the calendar format with its own separator. -/
def plainText : Value → String
  | .moment value => value.toIso "T"
  | value => value.display

end Value

end Specimen
