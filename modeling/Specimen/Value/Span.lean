/-
**Spans between values.**

The arithmetic of dates with spans of time, and of numbers with fractions. A span is an integer of
microseconds. A moment moves by a whole span; a day moves by the whole days in it.
-/

import Specimen.Value.Convert

namespace Specimen

/-! ### Seconds -/

/-- A span in seconds, rounded to the nearest binary64 number. -/
def spanToSeconds (span : Int) : Binary64 :=
  .ofRatio (span < 0) span.natAbs microsPerSecond

/-- Is the span short enough to be one? -/
def isSpan (span : Int) : Bool := (spanDays span).natAbs < spanDayLimit

/-- The span of a number of seconds: whole seconds exactly, and the fraction times a million, itself
rounded to a binary64 number, to the nearest integer. -/
def spanOfSeconds (seconds : Binary64) : Except Fault Int :=
  match seconds with
  | .nan _ => .error .outOfDomain
  | .infinite _ => .error .overflow
  | number =>
    let whole := truncateRat number.toRat
    let fraction := Binary64.ofRat ((number.toRat - whole) * microsPerSecond)
    let span := whole * microsPerSecond + roundRat fraction.toRat
    if isSpan span then .ok span else .error .overflow

namespace Value

/-! ### Moving dates -/

/-- A date moved by a span, forwards or backwards. -/
def moved (backwards : Bool) (span : Int) : Value → Except Fault Value
  | .moment value =>
    match value.shift? (if backwards then -span else span) with
    | some result => .ok (.moment result)
    | none => .error .overflow
  | .day value =>
    match value.shift? (if backwards then -(spanDays span) else spanDays span) with
    | some result => .ok (.day result)
    | none => .error .overflow
  | _ => .error .wrongType

/-- A date moved forwards. -/
def later (date : Value) (span : Int) : Except Fault Value := date.moved false span

/-- A date moved backwards. -/
def earlier (date : Value) (span : Int) : Except Fault Value := date.moved true span

/-! ### Differences -/

/-- What lies between two values. -/
inductive Gap where
  | integer (size : Int)
  | float (size : Binary64)
  | span (size : Int)
  /-- The difference of two sets. -/
  | members

/-- What lies between two values, from the first to the second. -/
def gap (low high : Value) : Except Fault Gap :=
  match low, high with
  | .moment first, .moment second =>
    match second.difference? first with
    | some span => .ok (.span span)
    | none => .error .wrongType
  | .day first, .day second => .ok (.span (((second.index : Int) - first.index) * microsPerDay))
  | .set _ _, .set _ _ => .ok .members
  | first, second =>
    match first.toInt?, second.toInt? with
    | some left, some right => .ok (.integer (right - left))
    | _, _ => do
      if !first.isNumeric || !second.isNumeric then throw .wrongType
      let right ← second.toBinary64
      pure (.float (right.subtract (← first.toBinary64)))

/-- The point at a fraction of the way through a gap. -/
def through (low : Value) (gap : Gap) (fraction : Binary64) : Except Fault Value :=
  match gap with
  | .integer size => do
    let way := (← (Value.int size).toBinary64).multiply fraction
    pure (.float ((← low.toBinary64).add way))
  | .float size => do
    let way := size.multiply fraction
    pure (.float ((← low.toBinary64).add way))
  | .span size => low.later (roundRat (size * fraction.toRat))
  | .members => .error .wrongType

/-- The span between two dates, from the first to the second. -/
def spanBetween (low high : Value) : Except Fault Int := do
  match ← low.gap high with
  | .span size => pure size
  | _ => throw .missingPart

/-- A number of days in seconds. -/
def daysInSeconds : Value → Except Fault Value
  | .float days => .ok (.float (days.multiply (.ofRatio false secondsPerDay 1)))
  | days =>
    match days.toInt? with
    | some count => .ok (.int (count * secondsPerDay))
    | none => .error .wrongType

end Value

end Specimen
