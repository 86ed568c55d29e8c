/-
**Bounds.**

The checks of a node boil down to bounds. A later check of a kind replaces an earlier one, and a
length is a lower and an upper bound at once; a bound that is null is none.

* `NumberBounds.integers` gives the closed interval of the integers within the bounds.
* `SizeBounds.resolve` gives the interval of sizes to draw from; of two bounds that exclude each
  other the upper one wins.
* `DateBounds.ofChecks` reads numbers as milliseconds since the epoch; if only one of two bounds
  has an offset, the other one is taken as universal time.
-/

import Specimen.Session
import Specimen.Value.Text

namespace Specimen

/-! ### Texts -/

/-- The bounds of a text: its length, a pattern that it matches and the formats that it has. -/
structure TextBounds where
  min : Option Value := none
  max : Option Value := none
  pattern : Option Value := none
  formats : List String := []

namespace TextBounds

/-- The bounds with one more check. -/
def declare (bounds : TextBounds) : Check → TextBounds
  | .min bound _ => { bounds with min := bound.nonNull? }
  | .max bound _ => { bounds with max := bound.nonNull? }
  | .length bound => { bounds with min := bound.nonNull?, max := bound.nonNull? }
  | .regex pattern => { bounds with pattern := pattern.nonNull? }
  | .integer => bounds
  | format => { bounds with formats := bounds.formats.insert format.name }

/-- The bounds that checks amount to. -/
def ofChecks (checks : List Check) : TextBounds := checks.foldl declare {}

end TextBounds

/-! ### Numbers -/

/-- The bounds of a number. -/
structure NumberBounds where
  min : Option Value := none
  max : Option Value := none
  minInclusive : Bool := true
  maxInclusive : Bool := true
  integer : Bool := false

namespace NumberBounds

/-- The bounds with one more check. -/
def declare (bounds : NumberBounds) : Check → NumberBounds
  | .min bound inclusive => { bounds with min := bound.nonNull?, minInclusive := inclusive }
  | .max bound inclusive => { bounds with max := bound.nonNull?, maxInclusive := inclusive }
  | .integer => { bounds with integer := true }
  | _ => bounds

/-- The bounds that checks amount to. -/
def ofChecks (checks : List Check) : NumberBounds := checks.foldl declare {}

/-- The least integer that a lower bound admits. -/
def lowest (bound : Value) (inclusive : Bool) : Except Fault Int := do
  let rounded ← bound.ceiling
  pure (if !inclusive && (Value.int rounded).equals bound then rounded + 1 else rounded)

/-- The greatest integer that an upper bound admits. -/
def highest (bound : Value) (inclusive : Bool) : Except Fault Int := do
  let rounded ← bound.floor
  pure (if !inclusive && (Value.int rounded).equals bound then rounded - 1 else rounded)

/-- The closed interval of the integers within the bounds, open where there is no bound. -/
def integers (bounds : NumberBounds) : Except Fault (Option Int × Option Int) := do
  let low ← bounds.min.mapM fun bound => lowest bound bounds.minInclusive
  let high ← bounds.max.mapM fun bound => highest bound bounds.maxInclusive
  pure (low, high)

end NumberBounds

/-! ### Sizes -/

/-- The bounds of the size of a collection. -/
structure SizeBounds where
  min : Option Value := none
  max : Option Value := none

namespace SizeBounds

/-- The bounds with one more check. -/
def declare (bounds : SizeBounds) : Check → SizeBounds
  | .min bound _ => { bounds with min := bound.nonNull? }
  | .max bound _ => { bounds with max := bound.nonNull? }
  | .length bound => ⟨bound.nonNull?, bound.nonNull?⟩
  | _ => bounds

/-- The bounds that checks amount to. -/
def ofChecks (checks : List Check) : SizeBounds := checks.foldl declare {}

/-- The interval of sizes, given the bounds to take where none are declared. A declared lower bound
above the upper one to take raises it; above a declared upper bound it is lowered to that. -/
def resolve (bounds : SizeBounds) (defaultMin defaultMax : Value) :
    Except Fault (Value × Value) := do
  let low := bounds.min.getD defaultMin
  let high := bounds.max.getD defaultMax
  let above ← low.compares .greater high
  pure (match bounds.max with
    | none => (low, if above then low else high)
    | some _ => (if above then high else low, high))

end SizeBounds

/-! ### Dates -/

/-- The bounds of a date. -/
structure DateBounds where
  min : Option Moment := none
  max : Option Moment := none

namespace DateBounds

/-- The first second of which a system clock has no date, counted from the epoch. -/
def clockEnd : Int := 67768036191676800

/-- The first second of which a system clock has a date, counted from the epoch. -/
def clockStart : Int := -67768040609740800

/-- Counts of seconds have magnitudes up to this. -/
def secondsBound : Int := Int.pow 2 63

/-- The moment at a number of seconds after the epoch, to the nearest microsecond. -/
def ofSeconds (seconds : Binary64) : Except Fault Moment :=
  match seconds with
  | .nan _ => .error .outOfDomain
  | .infinite _ => .error .overflow
  | number =>
    let whole := truncateRat number.toRat
    let fraction := Binary64.ofRat ((number.toRat - whole) * microsPerSecond)
    let micros := whole * microsPerSecond + roundRat fraction.toRat
    let second := micros.fdiv microsPerSecond
    if second < -secondsBound ∨ secondsBound ≤ second then .error .overflow
    else if second < clockStart ∨ clockEnd ≤ second then .error .platformLimit
    else
      match Moment.ofWall? (epochWall + micros) (some 0) with
      | some moment => .ok moment
      | none => .error .outOfDomain

/-- The moment that a bound denotes: itself, or a number of milliseconds after the epoch. -/
def momentOf (bound : Value) : Except Fault (Option Moment) :=
  match bound with
  | .moment value => .ok (some value)
  | .int _ => do pure (some (← ofSeconds ((← bound.toBinary64).divideNat 1000)))
  | .float value =>
    if value.isNan then .ok none else do pure (some (← ofSeconds (value.divideNat 1000)))
  | _ => .ok none

/-- The moment that a bound denotes; a bound that denotes none is logged. -/
def declared (name : String) (bound : Value) : Run (Option Moment) := do
  let found ← Run.lift (momentOf bound)
  if found.isNone then
    Run.log .warning .bounds ("Invalid " ++ name ++ " date value: " ++ bound.inspect)
  pure found

/-- The bounds with one more check. -/
def declare (bounds : DateBounds) (check : Check) : Run DateBounds :=
  match check with
  | .min bound _ => do pure { bounds with min := ← declared check.name bound }
  | .max bound _ => do pure { bounds with max := ← declared check.name bound }
  | _ => pure bounds

/-- The bounds on one clock: if only one has an offset, the other is taken as universal time. -/
def align (bounds : DateBounds) : DateBounds :=
  match bounds.min, bounds.max with
  | some low, some high =>
    if low.isAware = high.isAware then bounds
    else ⟨some low.assumeUniversal, some high.assumeUniversal⟩
  | _, _ => bounds

/-- The bounds that checks amount to. -/
def ofChecks (checks : List Check) : Run DateBounds := do
  pure (← checks.foldlM declare {}).align

end DateBounds

end Specimen
