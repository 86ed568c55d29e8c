/-
**Days and moments.**

The calendar is the Gregorian one, extended backwards to year 1 and ending with year 9999. A `Day`
is the number of days since 0001-01-01; a `Moment` is a wall clock reading in microseconds since
the start of that day, with an optional offset from universal time. Spans of time are plain integers
of microseconds.

* `Day.ofCivil?` and `Day.civil` convert between a day and its year, month and day of month.
* `Moment.instant` is the reading in universal time; two moments with offsets compare by it.
* `Moment.shift?` adds a span and fails outside the calendar.
-/

namespace Specimen

/-! ### Days -/

/-- A day of the calendar, counted from 0001-01-01. -/
structure Day where
  index : Nat
  deriving DecidableEq

/-- A year, a month and a day of the month. -/
structure Civil where
  year : Nat
  month : Nat
  day : Nat
  deriving DecidableEq

namespace Civil

/-- Is the year a leap year? -/
def isLeap (year : Nat) : Bool := year % 4 == 0 && (year % 100 != 0 || year % 400 == 0)

/-- The lengths of the months of a year. -/
def monthLengths (year : Nat) : List Nat :=
  [31, if isLeap year then 29 else 28, 31, 30, 31, 30, 31, 31, 30, 31, 30, 31]

/-- The length of a month, zero if there is no such month. -/
def monthLength (year month : Nat) : Nat :=
  if month = 0 then 0 else (monthLengths year)[month - 1]?.getD 0

/-- The number of days before a year, from year 1 on. -/
def daysBeforeYear (year : Nat) : Nat :=
  let past := year - 1
  past * 365 + past / 4 - past / 100 + past / 400

/-- Is this a day of the calendar? -/
def valid (date : Civil) : Bool :=
  1 ≤ date.year && date.year ≤ 9999 && 1 ≤ date.month && date.month ≤ 12 && 1 ≤ date.day &&
    date.day ≤ monthLength date.year date.month

end Civil

namespace Day

/-- The number of days in the calendar. -/
def count : Nat := 3652059

/-- The index of a date. -/
def indexOf (date : Civil) : Nat :=
  Civil.daysBeforeYear date.year + ((Civil.monthLengths date.year).take (date.month - 1)).foldr (· + ·) 0 +
    (date.day - 1)

/-- The day of a date, if the calendar has it. -/
def ofCivil? (date : Civil) : Option Day :=
  if date.valid then some ⟨indexOf date⟩ else none

/-- The month and day of month of a day of the year, given the lengths of the months left. -/
def monthAndDay (month rest : Nat) : List Nat → Nat × Nat
  | [] => (month, rest + 1)
  | length :: lengths =>
    if rest < length then (month, rest + 1) else monthAndDay (month + 1) (rest - length) lengths

/-- The year, month and day of month. -/
def civil (date : Day) : Civil :=
  let era := date.index / 146097
  let inEra := date.index % 146097
  let century := min (inEra / 36524) 3
  let inCentury := inEra - century * 36524
  let quad := inCentury / 1461
  let inQuad := inCentury % 1461
  let single := min (inQuad / 365) 3
  let year := era * 400 + century * 100 + quad * 4 + single + 1
  let monthDay := monthAndDay 1 (inQuad - single * 365) (Civil.monthLengths year)
  ⟨year, monthDay.1, monthDay.2⟩

/-- The day of the week, Monday being 0. -/
def weekday (date : Day) : Nat := date.index % 7

/-- The day some number of days later, if the calendar has it. -/
def shift? (date : Day) (days : Int) : Option Day :=
  let index := (date.index : Int) + days
  if 0 ≤ index ∧ index < count then some ⟨index.toNat⟩ else none

end Day

/-! ### Spans -/

/-- Microseconds in a second. -/
def microsPerSecond : Nat := 1000000

/-- Seconds in a day. -/
def secondsPerDay : Nat := 86400

/-- Microseconds in a day. -/
def microsPerDay : Nat := secondsPerDay * microsPerSecond

/-- The longest span has fewer than this many days in either direction. -/
def spanDayLimit : Nat := 1000000000

/-- The whole days of a span, rounded down. -/
def spanDays (span : Int) : Int := span.fdiv microsPerDay

/-! ### Moments -/

/-- A wall clock reading in microseconds since 0001-01-01T00:00, and the offset of that clock from
universal time in microseconds, if it is known. -/
structure Moment where
  wall : Nat
  offset : Option Int
  deriving DecidableEq

namespace Moment

/-- The number of microseconds in the calendar. -/
def limit : Nat := Day.count * microsPerDay

/-- The moment of a wall clock reading, if the calendar has it. -/
def ofWall? (wall : Int) (offset : Option Int) : Option Moment :=
  if 0 ≤ wall ∧ wall < limit then some ⟨wall.toNat, offset⟩ else none

/-- Midnight at the start of a day. -/
def startOf (date : Day) (offset : Option Int) : Moment := ⟨date.index * microsPerDay, offset⟩

/-- The day of the wall clock. -/
def day (moment : Moment) : Day := ⟨moment.wall / microsPerDay⟩

/-- Microseconds since midnight. -/
def timeOfDay (moment : Moment) : Nat := moment.wall % microsPerDay

/-- The hour of the wall clock. -/
def hour (moment : Moment) : Nat := moment.timeOfDay / (3600 * microsPerSecond)

/-- The minute of the wall clock. -/
def minute (moment : Moment) : Nat := moment.timeOfDay / (60 * microsPerSecond) % 60

/-- The second of the wall clock. -/
def second (moment : Moment) : Nat := moment.timeOfDay / microsPerSecond % 60

/-- The microseconds past the second. -/
def microsecond (moment : Moment) : Nat := moment.timeOfDay % microsPerSecond

/-- Is the offset known? -/
def isAware (moment : Moment) : Bool := moment.offset.isSome

/-- The same wall clock reading, taken as universal time unless an offset is known. -/
def assumeUniversal (moment : Moment) : Moment :=
  match moment.offset with
  | some _ => moment
  | none => { moment with offset := some 0 }

/-- The reading in universal time; an unknown offset counts as zero. -/
def instant (moment : Moment) : Int := (moment.wall : Int) - moment.offset.getD 0

/-- The moment a span later on the same clock, if the calendar has it. -/
def shift? (moment : Moment) (span : Int) : Option Moment :=
  ofWall? ((moment.wall : Int) + span) moment.offset

/-- The order of two moments of which both or neither have an offset. -/
def order? (first second : Moment) : Option Ordering :=
  if first.isAware = second.isAware then some (compare first.instant second.instant) else none

/-- The span from the second moment to the first, if both or neither have an offset. -/
def difference? (first second : Moment) : Option Int :=
  if first.isAware = second.isAware then some (first.instant - second.instant) else none

/-- Do two moments denote the same time? A moment with an offset never equals one without. -/
def same (first second : Moment) : Bool := first.order? second == some .eq

end Moment

/-- Microseconds from 0001-01-01 to 1970-01-01. -/
def epochWall : Nat := 719162 * microsPerDay

end Specimen
