/-
**Values as JSON.**

Two ways lead from values to JSON. `Value.toJson` renders a sample: it always succeeds, drops what
is absent from dictionaries and sorts the members of sets by their text, so that the result does not
depend on the order in which a set was filled. `Value.encodeWith` keeps a value as exactly as JSON
can and fails on a dictionary whose keys cannot be put in order or written.

`Value.ofJson` reads a JSON value back as a value.
-/

import Specimen.Fault
import Specimen.Json
import Specimen.Value.Order
import Specimen.Value.Text

namespace Specimen

namespace Json

/-- The text by which the members of a set are ordered. -/
def sortKey (json : Json) : String := json.sortMembers.write .spaced

/-- Are two JSON values in the order of their texts? -/
def keyOrder (first second : Json) : Bool := !(second.sortKey < first.sortKey)

/-- The values in the order of their texts. -/
def sortByText (items : List Json) : List Json := items.mergeSort keyOrder

end Json

namespace Value

/-! ### Rendering a sample -/

mutual

/-- A sample as JSON. Absent entries are dropped from dictionaries and keys become texts; moments
and days are written in the calendar format, not-a-number as null, an enumeration member or a
promise as what it holds, and a function by its name. -/
def toJson : Value → Json
  | .absent => .null
  | .null => .null
  | .bool value => .bool value
  | .int value => .int value
  | .float value => if value.isNan then .null else .float value
  | .text value => .text value
  | .list items => .array (toJsonItems items)
  | .tuple items => .array (toJsonItems items)
  | .set members _ => .array (Json.sortByText (toJsonItems members))
  | .dictionary entries => .object (toJsonEntries [] entries)
  | .moment value => .text (value.toIso "T")
  | .day value => .text value.toIso
  | .member _ _ value => toJson value
  | .promise _ settled => toJson settled
  | .function name _ => .text ("<function " ++ name.name ++ ">")
  termination_by structural value => value

/-- A list of samples as JSON. -/
def toJsonItems : List Value → List Json
  | [] => []
  | item :: rest => toJson item :: toJsonItems rest
  termination_by structural items => items

/-- The entries of a dictionary as members, put after those that are there already. -/
def toJsonEntries (found : List (String × Json)) : List (Value × Value) → List (String × Json)
  | [] => found
  | (key, value) :: rest =>
    let json := toJson value
    toJsonEntries (if value.isAbsent then found else Json.put found key.display json) rest
  termination_by structural entries => entries

end

/-! ### Reading JSON -/

mutual

/-- A JSON value as a value. -/
def ofJson : Json → Value
  | .null => .null
  | .bool value => .bool value
  | .int value => .int value
  | .float value => .float value
  | .text value => .text value
  | .array items => .list (ofJsonItems items)
  | .object members => .dictionary (ofJsonMembers members)
  termination_by structural json => json

/-- JSON values as values. -/
def ofJsonItems : List Json → List Value
  | [] => []
  | item :: rest => ofJson item :: ofJsonItems rest
  termination_by structural items => items

/-- The members of an object as entries. -/
def ofJsonMembers : List (String × Json) → List (Value × Value)
  | [] => []
  | (name, value) :: rest => (.text name, ofJson value) :: ofJsonMembers rest
  termination_by structural members => members

end

/-! ### Encoding any value -/

/-- The name under which a key is written. -/
def keyName : Value → Except Fault String
  | .text value => .ok value
  | .float value => .ok (Json.encodeFloat value)
  | .bool value => .ok (if value then "true" else "false")
  | .null => .ok "null"
  | .int value => .ok (toString value)
  | _ => .error .wrongType

/-- Is this a text? -/
def isText : Value → Bool
  | .text _ => true
  | _ => false

/-- Do two keys come in order, texts by code point and numbers by value? -/
def keysOrdered (first second : Value × Json) : Bool :=
  match second.1.holds .less first.1 with
  | .ok before => !before
  | .error _ => true

/-- The entries in the order of their keys, which must be all texts or all numbers. -/
def sortEntries (entries : List (Value × Json)) : Except Fault (List (Value × Json)) :=
  if entries.length ≤ 1 then .ok entries
  else if entries.all (·.1.isText) || entries.all (·.1.isNumeric) then
    .ok (entries.mergeSort keysOrdered)
  else .error .wrongType

mutual

/-- A value in JSON, with the members of dictionaries in the order of their keys. A rule says what
becomes of values that JSON has no form for. -/
def encodeWith (formless : Value → Except Fault Json) : Value → Except Fault Json
  | .null => .ok .null
  | .bool value => .ok (.bool value)
  | .int value => .ok (.int value)
  | .float value => .ok (.float value)
  | .text value => .ok (.text value)
  | .list items => do pure (.array (← encodeItems formless items))
  | .tuple items => do pure (.array (← encodeItems formless items))
  | .dictionary entries => do
    let sorted ← sortEntries (← encodeEntries formless entries)
    pure (.object (← sorted.mapM fun entry => do pure (← entry.1.keyName, entry.2)))
  | other => formless other
  termination_by structural value => value

/-- A list of values in JSON. -/
def encodeItems (formless : Value → Except Fault Json) : List Value → Except Fault (List Json)
  | [] => .ok []
  | item :: rest => do
    let first ← encodeWith formless item
    pure (first :: (← encodeItems formless rest))
  termination_by structural items => items

/-- Entries with their values in JSON. -/
def encodeEntries (formless : Value → Except Fault Json) :
    List (Value × Value) → Except Fault (List (Value × Json))
  | [] => .ok []
  | (key, value) :: rest => do
    let first ← encodeWith formless value
    pure ((key, first) :: (← encodeEntries formless rest))
  termination_by structural entries => entries

end

/-- A value in JSON; what JSON has no form for is written as its plain text. -/
def encode (value : Value) : Except Fault Json :=
  value.encodeWith fun other => .ok (.text other.display)

/-- A value in JSON, if JSON has a form for all of it. -/
def encodeExactly (value : Value) : Except Fault Json :=
  value.encodeWith fun _ => .error .wrongType

end Value

end Specimen
