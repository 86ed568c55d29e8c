/-
**Order between values.**

Numbers compare by value, texts by code point, lists and tuples at their first difference, sets by
inclusion, moments by the time they denote and days by date. All other pairs have no order, and
`Incomparable` says why.
-/

import Specimen.Value

namespace Specimen

/-- One of the four order comparisons. -/
inductive Comparison where
  | less
  | lessEqual
  | greater
  | greaterEqual
  deriving DecidableEq

namespace Comparison

/-- The sign of a comparison. -/
def symbol : Comparison → String
  | .less => "<"
  | .lessEqual => "<="
  | .greater => ">"
  | .greaterEqual => ">="

/-- Does the comparison hold of two things in this order? -/
def holdsOf : Comparison → Ordering → Bool
  | .less, ordering => ordering == .lt
  | .lessEqual, ordering => ordering != .gt
  | .greater, ordering => ordering == .gt
  | .greaterEqual, ordering => ordering != .lt

end Comparison

/-- Why two values have no order. -/
inductive Incomparable where
  /-- The types of the two values have no order between them. -/
  | types (comparison : Comparison) (first second : String)
  /-- One moment has an offset and the other has none. -/
  | mixedOffsets
  /-- One is a moment and the other a day. -/
  | momentWithDay
  deriving DecidableEq

namespace Incomparable

/-- The text of the reason. -/
def message : Incomparable → String
  | .types comparison first second =>
    "'" ++ comparison.symbol ++ "' not supported between instances of '" ++ first ++ "' and '" ++
      second ++ "'"
  | .mixedOffsets => "can't compare offset-naive and offset-aware datetimes"
  | .momentWithDay => "can't compare datetime.datetime to datetime.date"

end Incomparable

namespace Value

/-- The full name of the type of a value. -/
def qualifiedTypeName : Value → String
  | .moment _ => "datetime.datetime"
  | .day _ => "datetime.date"
  | value => value.typeName

/-- The comparison of two numbers; not-a-number compares with nothing. -/
def numbersHold (comparison : Comparison) (first second : Value) : Bool :=
  match first.toExtended?, second.toExtended? with
  | some left, some right => comparison.holdsOf (left.order right)
  | _, _ => false

/-- The comparison of two sets by inclusion. -/
def setsHold (comparison : Comparison) (first second : List Value) : Bool :=
  let within := includedIn first second
  let contains := includedIn second first
  match comparison with
  | .less => within && !contains
  | .lessEqual => within
  | .greater => contains && !within
  | .greaterEqual => contains

mutual

/-- Does a comparison hold of two values? -/
def holds (comparison : Comparison) : Value → Value → Except Incomparable Bool
  | .text first, .text second => .ok (comparison.holdsOf (compare first second))
  | .list first, .list second => itemsHold comparison first second
  | .tuple first, .tuple second => itemsHold comparison first second
  | .set first _, .set second _ => .ok (setsHold comparison first second)
  | .moment first, .moment second =>
    match first.order? second with
    | some ordering => .ok (comparison.holdsOf ordering)
    | none => .error .mixedOffsets
  | .moment _, .day _ => .error .momentWithDay
  | .day _, .moment _ => .error .momentWithDay
  | .day first, .day second => .ok (comparison.holdsOf (compare first.index second.index))
  | first, second =>
    if first.isNumeric && second.isNumeric then .ok (numbersHold comparison first second)
    else .error (.types comparison first.qualifiedTypeName second.qualifiedTypeName)
  termination_by structural first => first

/-- Does a comparison hold of two lists? The first difference decides, or else the lengths. -/
def itemsHold (comparison : Comparison) : List Value → List Value → Except Incomparable Bool
  | first :: rest, other :: others =>
    if same first other then itemsHold comparison rest others else holds comparison first other
  | first, second => .ok (comparison.holdsOf (compare first.length second.length))
  termination_by structural first => first

end

end Value

end Specimen
