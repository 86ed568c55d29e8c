/-
**The ISO 8601 text of days and moments.**

`Day.toIso` and `Moment.toIso` write the extended format. `Moment.ofIso?` reads the calendar and
week formats, basic or extended, then any one separator and a time of day, then an offset. It reads
from a text that ends in an unbounded run of end marks, so a field that is cut short is a field with
a character that is no digit.
-/

import Specimen.Calendar

namespace Specimen

/-! ### Writing -/

/-- A natural number in decimal, padded with zeros to a width. -/
def padded (width value : Nat) : String :=
  let digits := Nat.toDigits 10 value
  String.ofList (List.replicate (width - digits.length) '0' ++ digits)

/-- The extended format of a date. -/
def Day.toIso (date : Day) : String :=
  let civil := date.civil
  padded 4 civil.year ++ "-" ++ padded 2 civil.month ++ "-" ++ padded 2 civil.day

/-- The extended format of an offset; seconds and fractions only where they are not zero. -/
def offsetToIso (offset : Int) : String :=
  let size := offset.natAbs
  let seconds := size / microsPerSecond
  let micros := size % microsPerSecond
  let sign := if offset < 0 then "-" else "+"
  sign ++ padded 2 (seconds / 3600) ++ ":" ++ padded 2 (seconds / 60 % 60) ++
    (if seconds % 60 = 0 ∧ micros = 0 then "" else ":" ++ padded 2 (seconds % 60)) ++
    (if micros = 0 then "" else "." ++ padded 6 micros)

namespace Moment

/-- The extended format of a moment with the given separator; microseconds only where they are
not zero. -/
def toIso (moment : Moment) (separator : String) : String :=
  moment.day.toIso ++ separator ++ padded 2 moment.hour ++ ":" ++ padded 2 moment.minute ++ ":" ++
    padded 2 moment.second ++
    (if moment.microsecond = 0 then "" else "." ++ padded 6 moment.microsecond) ++
    (match moment.offset with
      | some offset => offsetToIso offset
      | none => "")

end Moment

/-! ### Reading -/

namespace Iso

/-- The mark that stands past the end of a text. -/
def endMark : Char := Char.ofNat 0

/-- The first character of a text, or the end mark. -/
def next (text : List Char) : Char := text.headD endMark

/-- The number of bytes of a text in UTF-8. -/
def byteLength (text : List Char) : Nat := (text.map Char.utf8Size).foldr (· + ·) 0

/-- Reads exactly `count` digits. -/
def digits? : Nat → Nat → List Char → Option (Nat × List Char)
  | 0, total, text => some (total, text)
  | count + 1, total, digit :: rest =>
    if digit.isDigit then digits? count (total * 10 + (digit.toNat - '0'.toNat)) rest else none
  | _ + 1, _, [] => none

/-- The day of a week date, if the year has that week. -/
def ofWeek? (year week weekday : Nat) : Option Day :=
  let first : Nat := Civil.daysBeforeYear year
  let firstWeekday := first % 7
  let longYear := firstWeekday == 3 || (firstWeekday == 2 && Civil.isLeap year)
  if year = 0 ∨ week = 0 ∨ 53 < week ∨ (week = 53 ∧ !longYear) ∨ weekday = 0 ∨ 7 < weekday then none
  else
    let monday : Int := (first : Int) - firstWeekday + (if firstWeekday > 3 then 7 else 0)
    let index := monday + ((week - 1) * 7 + (weekday - 1) : Nat)
    if 0 ≤ index ∧ index < Day.count then some ⟨index.toNat⟩ else none

/-- Where the date of a date and time ends: the length of the date part. -/
def dateLength (text : List Char) : Nat :=
  let charAt (index : Nat) : Char := text[index]?.getD endMark
  if text.length = 7 then 7
  else if charAt 4 = '-' then
    if charAt 5 = 'W' then
      if 8 < text.length ∧ charAt 8 = '-' then
        if 10 < text.length ∧ (charAt 10).isDigit then 8 else 10
      else 8
    else 10
  else if charAt 4 = 'W' then
    let stop := 7 + ((text.drop 7).takeWhile Char.isDigit).length
    if stop < 9 then stop else if stop % 2 = 0 then 7 else 8
  else 8

/-- Passes over a hyphen if the format has hyphens, which then must be there. -/
def hyphen? (extended : Bool) (text : List Char) : Option (List Char) :=
  if extended then (if next text = '-' then some (text.drop 1) else none) else some text

/-- Reads the date at the start of a text, the date part having the given length. -/
def date? (text : List Char) (length : Nat) : Option Day := do
  let (year, rest) ← digits? 4 0 text
  let extended := next rest = '-'
  let rest := if extended then rest.drop 1 else rest
  if next rest = 'W' then
    let (week, rest) ← digits? 2 0 (rest.drop 1)
    if text.length - rest.length < length then
      let rest ← hyphen? extended rest
      let (weekday, _) ← digits? 1 0 rest
      ofWeek? year week weekday
    else ofWeek? year week 1
  else
    let (month, rest) ← digits? 2 0 rest
    let rest ← hyphen? extended rest
    let (day, _) ← digits? 2 0 rest
    Day.ofCivil? ⟨year, month, day⟩

/-- A time of day as it was read, and whether text was left over. -/
structure Clock where
  micros : Nat
  inRange : Bool
  leftover : Bool

/-- The clock of at most three fields and a fraction in microseconds; missing fields are zero. -/
def Clock.ofFields (fields : List Nat) (micros : Nat) (leftover : Bool) : Clock where
  micros :=
    ((fields[0]?.getD 0 * 60 + fields[1]?.getD 0) * 60 + fields[2]?.getD 0) * microsPerSecond +
      micros
  inRange := fields[0]?.getD 0 < 24 && fields[1]?.getD 0 < 60 && fields[2]?.getD 0 < 60
  leftover := leftover

/-- Reads the fraction of the last field from a text whose part before the offset has `room`
bytes. Digits past the sixth are dropped. -/
def fraction? (fields : List Nat) (text : List Char) (room : Nat) : Option Clock := do
  let count := min room 6
  let (value, rest) ← digits? count 0 text
  let rest := rest.dropWhile Char.isDigit
  pure (.ofFields fields (value * Nat.pow 10 (6 - count)) (next rest != endMark))

/-- Reads what follows a two-digit field: the end of the time, a decimal mark and a fraction, or
another field, of which at most `left` more may come. The `room` counts the bytes from the field to
the offset. What follows the third field is a fraction, whatever its mark. -/
def afterField? (colons : Bool) : Nat → List Nat → List Char → Nat → Option Clock
  | left, fields, rest, room =>
    let mark := next rest
    if room ≤ 3 then some (.ofFields fields 0 (mark != endMark))
    else if mark = '.' ∨ mark = ',' then fraction? fields (rest.drop 1) (room - 3)
    else if colons ∧ mark ≠ ':' then none
    else
      let (rest, room) := if colons then (rest.drop 1, room - 3) else (rest, room - 2)
      match left with
      | 0 => fraction? fields rest room
      | left + 1 => do
        let (value, rest) ← digits? 2 0 rest
        afterField? colons left (fields ++ [value]) rest room

/-- Reads a time of day from a text whose part before the offset has `room` bytes. -/
def clock? (text : List Char) (room : Nat) : Option Clock := do
  let (hour, rest) ← digits? 2 0 text
  afterField? (next rest = ':') 2 [hour] rest room

/-- Does an offset start with this character? -/
def startsOffset (mark : Char) : Bool := mark == '+' || mark == '-' || mark == 'Z'

/-- Reads a time of day and an offset. -/
def time? (text : List Char) : Option (Clock × Option Int) := do
  let before := text.takeWhile fun mark => !startsOffset mark
  let clock ← clock? text (byteLength before)
  match text.drop before.length with
  | [] => if clock.leftover then none else pure (clock, none)
  | 'Z' :: rest => if rest.isEmpty then pure (clock, some 0) else none
  | sign :: rest =>
    let zone ← clock? rest (byteLength rest)
    if zone.leftover then none
    else
      let size : Int := zone.micros
      pure (clock, some (if sign = '-' then -size else size))

end Iso

/-- Reads a date and time in one of the ISO 8601 formats. -/
def Moment.ofIso? (text : String) : Option Moment := do
  let chars := text.toList
  let length := Iso.dateLength chars
  let date ← Iso.date? chars length
  let start := Moment.startOf date none
  match chars.drop length with
  | [] => pure start
  | _ :: rest =>
    let (clock, offset) ← Iso.time? rest
    let zone := offset.map fun size => if size.natAbs < microsPerSecond then 0 else size
    if clock.inRange ∧ (zone.getD 0).natAbs < microsPerDay then
      pure ⟨start.wall + clock.micros, zone⟩
    else none

/-- Reads a date in one of the ISO 8601 formats. -/
def Day.ofIso? (text : String) : Option Day :=
  let chars := text.toList
  Iso.date? chars chars.length

end Specimen
