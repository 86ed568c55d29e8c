/-
**Moments as texts.**

What is written of a moment is read as that moment (`Moment.ofIso?_toIso`). A padded number is as
wide as it is read (`Iso.digits?_padded`), the seconds and the fraction that are left out are zero,
and the reader knows by the room before the offset where the fields of a clock end
(`Iso.clock?_clockText`). Only an offset of less than a second is not read as it was.
-/

import Specimen.Calendar.Iso
import Specimen.Proofs.Moments
import Mathlib.Algebra.Group.Nat.Defs

namespace Specimen

/-! ### Padded numbers -/

/-- A padded number is its digits behind as many zeros as are lacking. -/
theorem toList_padded (width value : Nat) : (padded width value).toList =
    List.replicate (width - (Nat.toDigits 10 value).length) '0' ++ Nat.toDigits 10 value :=
  String.toList_ofList

section Padded

variable {width value : Nat}

theorem isDigit_of_mem_padded {mark : Char} (mem : mark ∈ (padded width value).toList) :
    mark.isDigit = true := by
  rw [toList_padded, List.mem_append] at mem
  rcases mem with zero | digit
  · rw [List.eq_of_mem_replicate zero]
    rfl
  · exact Nat.isDigit_of_mem_toDigits (by decide) (by decide) digit

/-- A number that fits is padded to the width exactly. -/
theorem length_padded (positive : 0 < width) (fits : value < 10 ^ width) :
    (padded width value).toList.length = width := by
  have short := (Nat.length_toDigits_le_iff (by decide) positive).2 fits
  rw [toList_padded, List.length_append, List.length_replicate]
  omega

/-- Padding does not change the number. -/
theorem ofDigitChars_padded : Nat.ofDigitChars 10 (padded width value).toList 0 = value := by
  rw [toList_padded, Nat.ofDigitChars_append, Nat.ofDigitChars_replicate_zero, Nat.mul_zero,
    Nat.ofDigitChars_toDigits (by decide) (by decide)]

end Padded

namespace Iso

/-- So many digits are read off the front of a text. -/
theorem digits?_append {digits : List Char} (areDigits : ∀ mark ∈ digits, mark.isDigit = true)
    (total : Nat) (rest : List Char) :
    digits? digits.length total (digits ++ rest) = some (Nat.ofDigitChars 10 digits total, rest) := by
  induction digits generalizing total with
  | nil => rfl
  | cons mark digits hypothesis =>
    rw [List.forall_mem_cons] at areDigits
    rw [List.length_cons, List.cons_append, digits?, if_pos areDigits.1, hypothesis areDigits.2,
      Nat.ofDigitChars_cons, Nat.mul_comm]

/-- A number is read in the width that it is padded to. -/
theorem digits?_padded {width value : Nat} (positive : 0 < width) (fits : value < 10 ^ width)
    (rest : List Char) :
    digits? width 0 ((padded width value).toList ++ rest) = some (value, rest) := by
  have read : digits? (padded width value).toList.length 0 ((padded width value).toList ++ rest) =
      some (Nat.ofDigitChars 10 (padded width value).toList 0, rest) :=
    digits?_append (fun _ mem => isDigit_of_mem_padded mem) 0 rest
  rw [length_padded positive fits, ofDigitChars_padded] at read
  exact read

/-! ### Clocks -/

/-- What is written after the minute: nothing, the second, or the second and the microseconds. What
is not written is zero. -/
inductive IsTail : Nat → Nat → List Char → Prop
  | none : IsTail 0 0 []
  | second {second : Nat} (fits : second < 60) : IsTail second 0 (':' :: (padded 2 second).toList)
  | fraction {second micros : Nat} (fits : second < 60) (small : micros < microsPerSecond) :
      IsTail second micros (':' :: ((padded 2 second).toList ++ '.' :: (padded 6 micros).toList))

/-- An hour, a minute and what is written after them. -/
def clockText (hour minute : Nat) (tail : List Char) : List Char :=
  (padded 2 hour).toList ++ ':' :: ((padded 2 minute).toList ++ tail)

/-- The clock that was written, and whether text is left. -/
def Clock.written (hour minute second micros : Nat) (rest : List Char) : Clock where
  micros := ((hour * 60 + minute) * 60 + second) * microsPerSecond + micros
  inRange := hour < 24 && minute < 60 && second < 60
  leftover := next rest != endMark

section Fields

variable {colons : Bool} {left value room : Nat} {fields : List Nat} {rest : List Char}

/-- With no room for another field the time is over. -/
theorem afterField?_end (few : room ≤ 3) :
    afterField? colons left fields rest room = some (.ofFields fields 0 (next rest != endMark)) := by
  cases left <;> exact if_pos few

/-- Another field after a colon is read. -/
theorem afterField?_field (fits : value < 60) (some : 0 < room) :
    afterField? true (left + 1) fields (':' :: ((padded 2 value).toList ++ rest)) (room + 3) =
      afterField? true left (fields ++ [value]) rest room := by
  have read : digits? 2 0 ((padded 2 value).toList ++ rest) = .some (value, rest) :=
    digits?_padded (by decide) (Nat.lt_trans fits (by decide)) rest
  have more : ¬ room + 3 ≤ 3 := by omega
  rw [afterField?]
  simp only [if_neg more, next, List.headD_cons, List.drop_succ_cons, List.drop_zero,
    Nat.add_sub_cancel]
  rw [if_neg (by decide), if_neg (by decide)]
  simp only [if_true, read]
  rfl

theorem dropWhile_isDigit (ends : (next rest).isDigit = false) : rest.dropWhile Char.isDigit = rest := by
  cases rest with
  | nil => rfl
  | cons mark rest => exact List.dropWhile_cons_of_neg (ne_true_of_eq_false ends)

/-- A fraction ends the fields of a clock. -/
theorem afterField?_fraction {micros : Nat} (small : micros < microsPerSecond)
    (ends : (next rest).isDigit = false) :
    afterField? colons left fields ('.' :: ((padded 6 micros).toList ++ rest)) 9 =
      some (.ofFields fields micros (next rest != endMark)) := by
  have read : digits? 6 0 ((padded 6 micros).toList ++ rest) = some (micros, rest) :=
    digits?_padded (by decide) small rest
  have fraction : fraction? fields ((padded 6 micros).toList ++ rest) 6 =
      some (.ofFields fields micros (next rest != endMark)) := by
    unfold fraction?
    simp only [Nat.min_self, read, Option.bind_eq_bind, Option.bind_some, dropWhile_isDigit ends]
    exact congrArg (fun value => some (Clock.ofFields fields value (next rest != endMark)))
      (Nat.mul_one micros)
  cases left <;> exact fraction

end Fields

/-- A clock is read as it was written, if the room is what it takes up. -/
theorem clock?_clockText {hour minute second micros : Nat} {tail rest : List Char}
    (hours : hour < 24) (minutes : minute < 60) (isTail : IsTail second micros tail)
    (ends : (next rest).isDigit = false) :
    clock? (clockText hour minute tail ++ rest) (5 + tail.length) =
      some (.written hour minute second micros rest) := by
  have read : digits? 2 0 (clockText hour minute tail ++ rest) =
      some (hour, ':' :: ((padded 2 minute).toList ++ (tail ++ rest))) := by
    rw [clockText, List.append_assoc, digits?_padded (by decide) (Nat.lt_trans hours (by decide)),
      List.cons_append, List.append_assoc]
  have fields : clock? (clockText hour minute tail ++ rest) (5 + tail.length) =
      afterField? true 1 [hour, minute] (tail ++ rest) (2 + tail.length) := by
    unfold clock?
    rw [read]
    have room : 5 + tail.length = (2 + tail.length) + 3 := by omega
    rw [room]
    exact afterField?_field minutes (by omega)
  rw [fields]
  cases isTail with
  | none => exact afterField?_end (by decide)
  | second fits =>
    have length := length_padded (show 0 < 2 by decide) (Nat.lt_trans fits (by decide))
    rw [List.length_cons, length, List.cons_append]
    exact (afterField?_field fits (by decide)).trans (afterField?_end (by decide))
  | fraction fits small =>
    have second := length_padded (show 0 < 2 by decide) (Nat.lt_trans fits (by decide))
    have fraction := length_padded (show 0 < 6 by decide) small
    rw [List.length_cons, List.length_append, List.length_cons, second, fraction, List.cons_append,
      List.append_assoc, List.cons_append]
    exact (afterField?_field fits (by decide)).trans (afterField?_fraction small ends)

/-- The tail that leaves out a second and microseconds of zero. -/
theorem isTail_both {second micros : Nat} (fits : second < 60) (small : micros < microsPerSecond) :
    IsTail second micros ((if second = 0 ∧ micros = 0 then "" else ":" ++ padded 2 second) ++
      (if micros = 0 then "" else "." ++ padded 6 micros)).toList := by
  by_cases whole : micros = 0
  · subst whole
    by_cases zero : second = 0
    · subst zero
      exact .none
    · simpa [zero] using IsTail.second fits
  · simpa [whole] using IsTail.fraction fits small

/-- The tail that leaves out microseconds of zero. -/
theorem isTail_second {second micros : Nat} (fits : second < 60) (small : micros < microsPerSecond) :
    IsTail second micros (":" ++ padded 2 second ++
      (if micros = 0 then "" else "." ++ padded 6 micros)).toList := by
  by_cases whole : micros = 0
  · subst whole
    simpa using IsTail.second fits
  · simpa [whole] using IsTail.fraction fits small

/-! ### Marks -/

/-- The character stands in clocks. -/
def IsClockMark (mark : Char) : Prop := mark.isDigit = true ∨ mark = ':' ∨ mark = '.'

theorem IsClockMark.startsOffset_eq {mark : Char} (isMark : IsClockMark mark) :
    startsOffset mark = false := by
  rcases isMark with digit | rfl | rfl
  · rw [startsOffset]
    simp only [Bool.or_eq_false_iff, beq_eq_false_iff_ne]
    refine ⟨⟨?_, ?_⟩, ?_⟩ <;> rintro rfl <;> cases digit
  · rfl
  · rfl

/-- Universal time is not marked in clocks. -/
theorem IsClockMark.ne {mark : Char} (isMark : IsClockMark mark) : mark ≠ 'Z' := by
  rintro rfl
  cases isMark.startsOffset_eq

theorem IsClockMark.utf8Size_eq {mark : Char} (isMark : IsClockMark mark) : mark.utf8Size = 1 := by
  rcases isMark with digit | rfl | rfl
  · simp only [Char.isDigit, Bool.and_eq_true, decide_eq_true_eq] at digit
    exact Char.utf8Size_eq_one_iff.2 (UInt32.le_trans digit.2 (by decide))
  · rfl
  · rfl

/-- What follows the minutes consists of marks of a clock. -/
theorem IsTail.isClockMark {second micros : Nat} {tail : List Char} (isTail : IsTail second micros tail) :
    ∀ mark ∈ tail, IsClockMark mark := by
  have digits : ∀ {width value mark}, mark ∈ (padded width value).toList → IsClockMark mark :=
    fun mem => .inl (isDigit_of_mem_padded mem)
  cases isTail with
  | none => exact List.forall_mem_nil _
  | second => exact List.forall_mem_cons.2 ⟨.inr (.inl rfl), fun _ => digits⟩
  | fraction =>
    refine List.forall_mem_cons.2 ⟨.inr (.inl rfl), List.forall_mem_append.2 ⟨fun _ => digits, ?_⟩⟩
    exact List.forall_mem_cons.2 ⟨.inr (.inr rfl), fun _ => digits⟩

theorem isClockMark_clockText {hour minute second micros : Nat} {tail : List Char}
    (isTail : IsTail second micros tail) :
    ∀ mark ∈ clockText hour minute tail, IsClockMark mark := by
  have digits : ∀ {width value mark}, mark ∈ (padded width value).toList → IsClockMark mark :=
    fun mem => .inl (isDigit_of_mem_padded mem)
  refine List.forall_mem_append.2 ⟨fun _ => digits, List.forall_mem_cons.2 ⟨.inr (.inl rfl), ?_⟩⟩
  exact List.forall_mem_append.2 ⟨fun _ => digits, isTail.isClockMark⟩

/-- Marks of a clock are one byte each. -/
theorem byteLength_eq {text : List Char} (areMarks : ∀ mark ∈ text, IsClockMark mark) :
    byteLength text = text.length := by
  induction text with
  | nil => rfl
  | cons mark text hypothesis =>
    rw [List.forall_mem_cons] at areMarks
    have rest := hypothesis areMarks.2
    rw [byteLength] at rest ⊢
    rw [List.map_cons, List.foldr_cons, areMarks.1.utf8Size_eq, rest, List.length_cons, Nat.add_comm]

theorem byteLength_clockText {hour minute second micros : Nat} {tail : List Char}
    (hours : hour < 24) (minutes : minute < 60) (isTail : IsTail second micros tail) :
    byteLength (clockText hour minute tail) = 5 + tail.length := by
  have first := length_padded (show 0 < 2 by decide) (Nat.lt_trans hours (by decide))
  have other := length_padded (show 0 < 2 by decide) (Nat.lt_trans minutes (by decide))
  rw [byteLength_eq (isClockMark_clockText isTail), clockText, List.length_append, List.length_cons,
    List.length_append, first, other]
  omega

/-! ### Offsets -/

/-- The text of an offset that may be unknown. -/
def offsetText : Option Int → List Char
  | some offset => (offsetToIso offset).toList
  | none => []

/-- The text of an offset that may be unknown: nothing, or a sign and a clock that is read as its
size. -/
inductive IsOffset : Option Int → List Char → Prop
  | unknown : IsOffset none []
  | known {offset : Int} {sign : Char} {text : List Char} {clock : Clock}
      (isSign : sign = '+' ∨ sign = '-') (areMarks : ∀ mark ∈ text, IsClockMark mark)
      (read : clock? text (byteLength text) = some clock) (complete : clock.leftover = false)
      (size : (if sign = '-' then -(clock.micros : Int) else clock.micros) = offset) :
      IsOffset (some offset) (sign :: text)

theorem IsOffset.ne_of_mem {offset : Option Int} {text : List Char} (isOffset : IsOffset offset text) :
    ∀ mark ∈ text, mark ≠ 'Z' := by
  cases isOffset with
  | unknown => exact List.forall_mem_nil _
  | known isSign areMarks =>
    refine List.forall_mem_cons.2 ⟨?_, fun mark mem => (areMarks mark mem).ne⟩
    rcases isSign with rfl | rfl <;> decide

/-- The sign of an offset is a plus or a minus. -/
theorem exists_sign (offset : Int) : ∃ sign, (sign = '+' ∨ sign = '-') ∧
    String.toList (if offset < 0 then "-" else "+") = [sign] ∧
      (if sign = '-' then -(offset.natAbs : Int) else offset.natAbs) = offset := by
  by_cases negative : offset < 0
  · refine ⟨'-', .inr rfl, by rw [if_pos negative]; rfl, ?_⟩
    rw [if_pos rfl]
    omega
  · refine ⟨'+', .inl rfl, by rw [if_neg negative]; rfl, ?_⟩
    rw [if_neg (by decide)]
    omega

/-- The text of an offset shorter than a day is one that is read back. -/
theorem isOffset_toIso {offset : Int} (short : offset.natAbs < microsPerDay) :
    IsOffset (some offset) (offsetToIso offset).toList := by
  have day : microsPerDay = 86400 * 1000000 := rfl
  have second : microsPerSecond = 1000000 := rfl
  rw [day] at short
  have hours : offset.natAbs / microsPerSecond / 3600 < 24 := by
    rw [second]
    omega
  have minutes : offset.natAbs / microsPerSecond / 60 % 60 < 60 := Nat.mod_lt _ (by decide)
  have seconds : offset.natAbs / microsPerSecond % 60 < 60 := Nat.mod_lt _ (by decide)
  have micros : offset.natAbs % microsPerSecond < microsPerSecond := Nat.mod_lt _ (by decide)
  have isTail := isTail_both seconds micros
  have ends : (next []).isDigit = false := rfl
  have read := clock?_clockText hours minutes isTail ends
  rw [List.append_nil, ← byteLength_clockText hours minutes isTail] at read
  have total : ((offset.natAbs / microsPerSecond / 3600 * 60 +
      offset.natAbs / microsPerSecond / 60 % 60) * 60 + offset.natAbs / microsPerSecond % 60) *
        microsPerSecond + offset.natAbs % microsPerSecond = offset.natAbs := by
    rw [second]
    omega
  have colon : ":".toList = [':'] := rfl
  obtain ⟨sign, isSign, one, size⟩ := exists_sign offset
  have zone := IsOffset.known isSign (isClockMark_clockText isTail) read rfl (total ▸ size)
  unfold clockText at zone
  unfold offsetToIso
  simpa only [String.toList_append, List.append_assoc, colon, one, List.cons_append,
    List.nil_append] using zone

theorem isOffset_offsetText {offset : Option Int}
    (short : ∀ size, offset = some size → size.natAbs < microsPerDay) :
    IsOffset offset (offsetText offset) := by
  cases offset with
  | none => exact .unknown
  | some size => exact isOffset_toIso (short size rfl)

/-- A clock and an offset that may be unknown are read as they were written. -/
theorem time?_clockText {hour minute second micros : Nat} {tail rest : List Char}
    {offset : Option Int} (hours : hour < 24) (minutes : minute < 60)
    (isTail : IsTail second micros tail) (isOffset : IsOffset offset rest) :
    time? (clockText hour minute tail ++ rest) =
      some (.written hour minute second micros rest, offset) := by
  have split : (clockText hour minute tail ++ rest).takeWhile (fun mark => !startsOffset mark) =
      clockText hour minute tail := by
    rw [List.takeWhile_append_of_pos fun mark mem => by
      rw [(isClockMark_clockText isTail mark mem).startsOffset_eq]; rfl]
    cases isOffset with
    | unknown => exact List.append_nil _
    | known isSign => rcases isSign with rfl | rfl <;> exact List.append_nil _
  have ends : (next rest).isDigit = false := by
    cases isOffset with
    | unknown => rfl
    | known isSign => rcases isSign with rfl | rfl <;> rfl
  unfold time?
  simp only [split, byteLength_clockText hours minutes isTail, List.drop_left,
    clock?_clockText hours minutes isTail ends]
  cases isOffset with
  | unknown => rfl
  | known isSign _ read complete size =>
    rw [← size]
    rcases isSign with rfl | rfl <;>
    · show Option.bind (clock? _ _) _ = _
      rw [read, Option.bind_some, complete]
      rfl

/-! ### Dates -/

theorem next_cons (mark : Char) (rest : List Char) : next (mark :: rest) = mark := rfl

theorem next_eq (text : List Char) : next text = text[0]?.getD endMark := by
  cases text <;> rfl

theorem next_padded (width value : Nat) (rest : List Char) :
    (next ((padded width value).toList ++ rest)).isDigit = true := by
  have some : (padded width value).toList ≠ [] := by
    rw [toList_padded]
    exact List.append_ne_nil_of_right_ne_nil _ Nat.toDigits_ne_nil
  cases digits : (padded width value).toList with
  | nil => exact absurd digits some
  | cons mark digits =>
    have mem : mark ∈ (padded width value).toList := by
      rw [digits]
      exact List.mem_cons_self
    exact isDigit_of_mem_padded mem

theorem ne_of_isDigit {mark other : Char} (digit : mark.isDigit = true)
    (isOther : other.isDigit = false) : mark ≠ other := by
  rintro rfl
  cases digit.symm.trans isOther

/-- The extended format of a year, a month and a day of the month. -/
def dateText (date : Civil) : List Char :=
  (padded 4 date.year).toList ++ '-' :: ((padded 2 date.month).toList ++ '-' ::
    (padded 2 date.day).toList)

/-- The text of a date: year, month and day, joined by hyphens. -/
theorem toList_dateText (date : Civil) : (padded 4 date.year ++ "-" ++ padded 2 date.month ++ "-" ++
    padded 2 date.day).toList = dateText date := by
  have hyphen : "-".toList = ['-'] := rfl
  simp only [dateText, String.toList_append, List.append_assoc, hyphen, List.cons_append,
    List.nil_append]

theorem toList_toIso (date : Day) : date.toIso.toList = dateText date.civil :=
  toList_dateText date.civil

section Dates

variable {date : Civil} (valid : date.valid = true)

include valid

/-- The text of a date has ten characters. -/
theorem length_dateText : (dateText date).length = 10 := by
  obtain ⟨years, months, days⟩ := Civil.valid_bounds valid
  rw [dateText, List.length_append, List.length_cons, List.length_append, List.length_cons,
    length_padded (by decide) years, length_padded (by decide) (Nat.lt_trans months (by decide)),
    length_padded (by decide) (Nat.lt_trans days (by decide))]

/-- The date takes up ten characters of a date and time. -/
theorem dateLength_dateText (mark : Char) (rest : List Char) :
    dateLength (dateText date ++ mark :: rest) = 10 := by
  obtain ⟨years, months, days⟩ := Civil.valid_bounds valid
  have long : (dateText date ++ mark :: rest).length ≠ 7 := by
    rw [List.length_append, length_dateText valid]
    omega
  have year : (padded 4 date.year).toList.length = 4 := length_padded (by decide) years
  have hyphen : (dateText date ++ mark :: rest)[4]?.getD endMark = '-' := by
    rw [dateText, List.append_assoc, List.getElem?_append_right (Nat.le_of_eq year), year]
    rfl
  have noWeek : (dateText date ++ mark :: rest)[5]?.getD endMark ≠ 'W' := by
    have after : (padded 4 date.year).toList.length ≤ 5 := by omega
    rw [dateText, List.append_assoc, List.getElem?_append_right after, year, List.cons_append,
      List.getElem?_cons_succ, List.append_assoc, ← next_eq]
    exact ne_of_isDigit (next_padded 2 _ _) rfl
  unfold dateLength
  simp only [if_neg long, if_pos hyphen, if_neg noWeek]

/-- A year, a month and a day of the month are read as they were written. -/
theorem date?_dateText (rest : List Char) :
    date? (dateText date ++ rest) 10 = Day.ofCivil? date := by
  obtain ⟨years, months, days⟩ := Civil.valid_bounds valid
  have year : ∀ rest, digits? 4 0 ((padded 4 date.year).toList ++ rest) =
      some (date.year, rest) := digits?_padded (by decide) years
  have month : ∀ rest, digits? 2 0 ((padded 2 date.month).toList ++ rest) =
      some (date.month, rest) := digits?_padded (by decide) (Nat.lt_trans months (by decide))
  have day : ∀ rest, digits? 2 0 ((padded 2 date.day).toList ++ rest) =
      some (date.day, rest) := digits?_padded (by decide) (Nat.lt_trans days (by decide))
  have noWeek : ∀ rest, next ((padded 2 date.month).toList ++ rest) ≠ 'W' := fun rest =>
    ne_of_isDigit (next_padded 2 _ rest) rfl
  have hyphen : ∀ rest, hyphen? true ('-' :: rest) = some rest := fun _ => rfl
  rw [dateText, List.append_assoc, List.cons_append, List.append_assoc, List.cons_append]
  unfold date?
  simp only [year, Option.bind_eq_bind, Option.bind_some, next_cons, if_true, decide_true,
    List.drop_succ_cons, List.drop_zero, if_neg (noWeek _), month, hyphen, day]

end Dates

end Iso

/-! ### Moments -/

/-- The offset as it is read from its text: one of less than a second is none at all. -/
def Moment.readOffset (moment : Moment) : Option Int :=
  moment.offset.map fun size => if size.natAbs < microsPerSecond then 0 else size

/-- The hour, the minute, the second and the microseconds make up the time of day. -/
theorem Moment.time_eq (moment : Moment) :
    ((moment.hour * 60 + moment.minute) * 60 + moment.second) * microsPerSecond +
      moment.microsecond = moment.timeOfDay := by
  have second : microsPerSecond = 1000000 := rfl
  unfold hour minute Moment.second microsecond
  rw [second]
  omega

/-- The text of a moment: its date, a separator, its clock and its offset. -/
theorem Moment.toList_toIso {separator : String} {mark : Char} (one : separator.toList = [mark])
    (moment : Moment) : ∃ tail, (moment.toIso separator).toList = Iso.dateText moment.day.civil ++
      mark :: (Iso.clockText moment.hour moment.minute tail ++ Iso.offsetText moment.offset) ∧
        Iso.IsTail moment.second moment.microsecond tail := by
  have seconds : moment.second < 60 := Nat.mod_lt _ (by decide)
  have micros : moment.microsecond < microsPerSecond := Nat.mod_lt _ (by decide)
  refine ⟨_, ?_, Iso.isTail_second seconds micros⟩
  have colon : ":".toList = [':'] := rfl
  unfold toIso Iso.clockText
  cases moment.offset <;>
    simp only [String.toList_append, List.append_assoc, one, colon, List.cons_append,
      List.nil_append, Iso.offsetText, String.toList_empty, Iso.toList_toIso]

/-- **A moment is read as it was written**, with any character between the date and the time. -/
theorem Moment.ofIso?_toIso {separator : String} {mark : Char} (one : separator.toList = [mark])
    {moment : Moment} (valid : moment.IsValid) :
    ofIso? (moment.toIso separator) = some { moment with offset := moment.readOffset } := by
  obtain ⟨tail, written, isTail⟩ := moment.toList_toIso one
  have inside : moment.day.index < Day.count :=
    Nat.div_lt_of_lt_mul (Nat.lt_of_lt_of_eq valid.inCalendar (Nat.mul_comm _ _))
  have hours : moment.hour < 24 := by
    have time : moment.timeOfDay < microsPerDay := Nat.mod_lt _ (by decide)
    exact Nat.div_lt_of_lt_mul time
  have minutes : moment.minute < 60 := Nat.mod_lt _ (by decide)
  have isOffset := Iso.isOffset_offsetText valid.offset
  have isDay := Day.ofCivil?_civil inside
  have date := Day.civil_valid inside
  have rest : (Iso.dateText moment.day.civil ++ mark :: (Iso.clockText moment.hour moment.minute
      tail ++ Iso.offsetText moment.offset)).drop 10 = mark :: (Iso.clockText moment.hour
        moment.minute tail ++ Iso.offsetText moment.offset) := by
    rw [← Iso.length_dateText date, List.drop_left]
  have inRange : (Iso.Clock.written moment.hour moment.minute moment.second moment.microsecond
      (Iso.offsetText moment.offset)).inRange = true := by
    have seconds : moment.second < 60 := Nat.mod_lt _ (by decide)
    simp [Iso.Clock.written, hours, minutes, seconds]
  have short : (moment.readOffset.getD 0).natAbs < microsPerDay := by
    unfold readOffset
    cases found : moment.offset with
    | none => decide
    | some size =>
      rw [Option.map_some, Option.getD_some]
      split
      · decide
      · exact valid.offset size found
  have wall : (startOf moment.day none).wall + (Iso.Clock.written moment.hour moment.minute
      moment.second moment.microsecond (Iso.offsetText moment.offset)).micros = moment.wall := by
    rw [Iso.Clock.written, time_eq]
    exact Nat.div_add_mod' moment.wall microsPerDay
  unfold ofIso?
  simp only [written, Iso.dateLength_dateText date, Iso.date?_dateText date, isDay, rest,
    Iso.time?_clockText hours minutes isTail isOffset, Option.bind_eq_bind, Option.bind_some]
  rw [← readOffset, if_pos ⟨inRange, short⟩, wall]
  rfl

/-- No mark of universal time is written. -/
theorem Moment.ne_of_mem_toIso {separator : String} {mark : Char} (one : separator.toList = [mark])
    (other : mark ≠ 'Z') {moment : Moment} (valid : moment.IsValid) :
    ∀ written ∈ (moment.toIso separator).toList, written ≠ 'Z' := by
  obtain ⟨tail, written, isTail⟩ := moment.toList_toIso one
  have number : ∀ {width value found}, found ∈ (padded width value).toList → found ≠ 'Z' :=
    fun mem => Iso.ne_of_isDigit (isDigit_of_mem_padded mem) rfl
  have hyphen : '-' ≠ 'Z' := by decide
  have date : ∀ found ∈ Iso.dateText moment.day.civil, found ≠ 'Z' :=
    List.forall_mem_append.2 ⟨fun _ => number, List.forall_mem_cons.2 ⟨hyphen,
      List.forall_mem_append.2 ⟨fun _ => number, List.forall_mem_cons.2 ⟨hyphen,
        fun _ => number⟩⟩⟩⟩
  have offset := (Iso.isOffset_offsetText valid.offset).ne_of_mem
  rw [written]
  exact List.forall_mem_append.2 ⟨date, List.forall_mem_cons.2 ⟨other, List.forall_mem_append.2
    ⟨fun found mem => (Iso.isClockMark_clockText isTail found mem).ne, offset⟩⟩⟩

end Specimen
