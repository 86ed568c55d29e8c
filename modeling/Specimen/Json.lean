/-
**JSON.**

A JSON value is a tree of nulls, booleans, numbers, texts, arrays and objects; numbers are integers
of any size or binary64 numbers. An object keeps its members in order.

`Json.write` prints a value in a `JsonLayout`: the separators, the indentation and whether
characters outside ASCII are escaped are its fields.
-/

import Specimen.Binary64.Text
import Specimen.Text.Quoted

namespace Specimen

/-- A JSON value. -/
inductive Json where
  | null
  | bool (value : Bool)
  | int (value : Int)
  | float (value : Binary64)
  | text (value : String)
  | array (items : List Json)
  | object (members : List (String × Json))

instance : Inhabited Json := ⟨.null⟩

/-- How JSON is laid out. -/
structure JsonLayout where
  /-- Between two items. -/
  comma : String
  /-- Between a name and its value. -/
  colon : String
  /-- How much deeper each level is indented, if levels have lines of their own. -/
  indent : Option Nat
  /-- Are characters outside ASCII escaped? -/
  ascii : Bool

namespace JsonLayout

/-- The layout without blanks, in ASCII. -/
def compact : JsonLayout := ⟨",", ":", none, true⟩

/-- The layout on one line with blanks after separators, in ASCII. -/
def spaced : JsonLayout := ⟨", ", ": ", none, true⟩

/-- The layout of files: two blanks to a level, characters as they are. -/
def indented : JsonLayout := ⟨",", ": ", some 2, false⟩

end JsonLayout

namespace Json

/-! ### Texts -/

/-- The four-digit escape of a code unit. -/
def unitEscape (unit : Nat) : List Char := '\\' :: 'u' :: Quoted.hexPadded 4 unit

/-- The escape of a character by its code units: one, or a surrogate pair. -/
def charEscape (member : Char) : List Char :=
  let code := member.toNat
  if code < 0x10000 then unitEscape code
  else
    unitEscape (0xD800 + (code - 0x10000) / 0x400) ++
      unitEscape (0xDC00 + (code - 0x10000) % 0x400)

/-- One character of a JSON text. -/
def encodeChar (ascii : Bool) (member : Char) : List Char :=
  if member == '"' then ['\\', '"']
  else if member == '\\' then ['\\', '\\']
  else if member == '\n' then ['\\', 'n']
  else if member == '\r' then ['\\', 'r']
  else if member == '\t' then ['\\', 't']
  else if member.toNat == 8 then ['\\', 'b']
  else if member.toNat == 12 then ['\\', 'f']
  else if member.toNat < 32 then unitEscape member.toNat
  else if ascii && 127 ≤ member.toNat then charEscape member
  else [member]

/-- A JSON text in its quotes. -/
def encodeText (ascii : Bool) (text : String) : String :=
  String.ofList ('"' :: text.toList.flatMap (encodeChar ascii) ++ ['"'])

/-- A binary64 number in JSON. -/
def encodeFloat : Binary64 → String
  | .nan _ => "NaN"
  | .infinite negative => if negative then "-Infinity" else "Infinity"
  | number => number.toText

/-! ### Writing -/

/-- The line break and blanks before an item at a level, in layouts with lines. -/
def lineStart (layout : JsonLayout) (level : Nat) : String :=
  match layout.indent with
  | some width => "\n" ++ String.ofList (List.replicate (width * level) ' ')
  | none => ""

/-- Pieces at a level between an opening and a closing bracket. -/
def bracketed (layout : JsonLayout) (level : Nat) (opening closing : String)
    (pieces : List String) : String :=
  if pieces.isEmpty then opening ++ closing
  else
    let start := lineStart layout (level + 1)
    opening ++ start ++ (layout.comma ++ start).intercalate pieces ++ lineStart layout level ++
      closing

mutual

/-- The text of a JSON value at a level. -/
def writeAt (layout : JsonLayout) (level : Nat) : Json → String
  | .null => "null"
  | .bool value => if value then "true" else "false"
  | .int value => toString value
  | .float value => encodeFloat value
  | .text value => encodeText layout.ascii value
  | .array items => bracketed layout level "[" "]" (writeItems layout (level + 1) items)
  | .object members =>
    bracketed layout level "\x7b" "\x7d" (writeMembers layout (level + 1) members)
  termination_by structural json => json

/-- The texts of the items of an array. -/
def writeItems (layout : JsonLayout) (level : Nat) : List Json → List String
  | [] => []
  | item :: rest => writeAt layout level item :: writeItems layout level rest
  termination_by structural items => items

/-- The texts of the members of an object. -/
def writeMembers (layout : JsonLayout) (level : Nat) : List (String × Json) → List String
  | [] => []
  | (name, value) :: rest =>
    (encodeText layout.ascii name ++ layout.colon ++ writeAt layout level value) ::
      writeMembers layout level rest
  termination_by structural members => members

end

/-- The text of a JSON value in a layout. -/
def write (layout : JsonLayout) (json : Json) : String := writeAt layout 0 json

/-! ### Member order -/

/-- Are the names of two members in order? -/
def nameOrder (first second : String × Json) : Bool := !(second.1 < first.1)

mutual

/-- The value with the members of every object in the order of their names. -/
def sortMembers : Json → Json
  | .array items => .array (sortItems items)
  | .object members => .object ((sortValues members).mergeSort nameOrder)
  | other => other
  termination_by structural json => json

/-- Sorts the members within the items of an array. -/
def sortItems : List Json → List Json
  | [] => []
  | item :: rest => sortMembers item :: sortItems rest
  termination_by structural items => items

/-- Sorts the members within the values of an object. -/
def sortValues : List (String × Json) → List (String × Json)
  | [] => []
  | (name, value) :: rest => (name, sortMembers value) :: sortValues rest
  termination_by structural members => members

end

/-- Puts a member: a name that is there keeps its place and gets the new value. -/
def put (members : List (String × Json)) (name : String) (value : Json) :
    List (String × Json) :=
  match members with
  | [] => [(name, value)]
  | (first, old) :: rest =>
    if first = name then (first, value) :: rest else (first, old) :: put rest name value

end Json

end Specimen
