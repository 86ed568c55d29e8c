/-
**Conversions between values.**

`Value.toInteger` reads an integer off a value, `Value.items` lists what a value contains, and
`Value.ceiling` and `Value.floor` round a number. Each fails on values it is not for.
-/

import Specimen.Fault
import Specimen.Text.Blank
import Specimen.Text.Word
import Specimen.Value.Order

namespace Specimen

/-! ### Integers in text -/

/-- Reads the rest of a digit string after `total`; single underscores may stand between digits. -/
def readDigits? (total : Nat) : List Char → Option Nat
  | [] => some total
  | '_' :: digit :: rest =>
    match decimalDigitValue? digit with
    | some value => readDigits? (total * 10 + value) rest
    | none => none
  | digit :: rest =>
    match decimalDigitValue? digit with
    | some value => readDigits? (total * 10 + value) rest
    | none => none

/-- Reads a digit string that starts with a digit. -/
def readNatural? : List Char → Option Nat
  | [] => none
  | digit :: rest =>
    match decimalDigitValue? digit with
    | some value => readDigits? value rest
    | none => none

/-- Reads an integer in decimal, with an optional sign and blanks around it. -/
def readInteger? (text : String) : Option Int :=
  match trimBlank text.toList with
  | '-' :: rest => (readNatural? rest).map fun value => -(value : Int)
  | '+' :: rest => (readNatural? rest).map fun value => (value : Int)
  | rest => (readNatural? rest).map fun value => (value : Int)

namespace Value

/-! ### Integers -/

/-- The integer that a float is rounded to by the given rounding. -/
def roundFloat (rounding : Rat → Int) : Binary64 → Except Fault Int
  | .nan _ => .error .outOfDomain
  | .infinite _ => .error .overflow
  | number => .ok (rounding number.toRat)

/-- The integer that a value denotes: a number without its fraction, or a text in decimal. -/
def toInteger : Value → Except Fault Int
  | .bool value => .ok (if value then 1 else 0)
  | .int value => .ok value
  | .float value => roundFloat truncateRat value
  | .text value =>
    match readInteger? value with
    | some result => .ok result
    | none => .error .outOfDomain
  | _ => .error .wrongType

/-- The least integer that is not below a number. -/
def ceiling : Value → Except Fault Int
  | .float value => roundFloat Rat.ceil value
  | value =>
    match value.toInt? with
    | some result => .ok result
    | none => .error .wrongType

/-- The greatest integer that is not above a number. -/
def floor : Value → Except Fault Int
  | .float value => roundFloat Rat.floor value
  | value =>
    match value.toInt? with
    | some result => .ok result
    | none => .error .wrongType

/-- The integer that an argument of an integral operation is: a float must be integral, and a text
is never one. -/
def toIndex : Value → Except Fault Int
  | .float value =>
    match value with
    | .nan _ => .error .outOfDomain
    | .infinite _ => .error .overflow
    | number => if number.isIntegral then .ok (truncateRat number.toRat) else .error .outOfDomain
  | .text _ => .error .outOfDomain
  | value =>
    match value.toInt? with
    | some result => .ok result
    | none => .error .wrongType

/-- The number as a binary64 number, rounded to the nearest. -/
def toBinary64 : Value → Except Fault Binary64
  | .float value => .ok value
  | value =>
    match value.toInt? with
    | some result =>
      match Binary64.ofInt? result with
      | some number => .ok number
      | none => .error .overflow
    | none => .error .wrongType

/-! ### Contents -/

/-- What a value contains: the characters of a text, the members of a collection, the keys of a
dictionary. -/
def items : Value → Except Fault (List Value)
  | .text value => .ok (value.toList.map fun member => .text (String.singleton member))
  | .list items => .ok items
  | .tuple items => .ok items
  | .set members _ => .ok members
  | .dictionary entries => .ok (entries.map (·.1))
  | _ => .error .wrongType

/-- The number of things a value contains. -/
def size : Value → Except Fault Nat
  | .dictionary entries => .ok entries.length
  | value => do pure (← value.items).length

/-- A comparison as a fault where there is no order. -/
def compares (comparison : Comparison) (first second : Value) : Except Fault Bool :=
  match first.holds comparison second with
  | .ok answer => .ok answer
  | .error _ => .error .wrongType

end Value

end Specimen
