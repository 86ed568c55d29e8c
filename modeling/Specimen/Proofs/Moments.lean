/-
**Days and moments of the calendar.**

The year, the month and the day of month of a day are those of which it is the day
(`Day.ofCivil?_civil`). A moment is valid if it is in the calendar and its offset is shorter than a
day; the moments that come from outside are.
-/

import Specimen.Calendar

namespace Specimen

/-! ### The calendar -/

/-- Years have at most four digits, months and days two. -/
theorem Civil.valid_bounds {date : Civil} (valid : date.valid = true) :
    date.year < 10000 ∧ date.month < 60 ∧ date.day < 60 := by
  have lengths : ∀ length ∈ monthLengths date.year, length < 60 := by
    unfold monthLengths
    split <;> decide
  have length : monthLength date.year date.month < 60 := by
    unfold monthLength
    split
    · decide
    · cases found : (monthLengths date.year)[date.month - 1]? with
      | none => decide
      | some length => exact lengths length (List.mem_of_getElem? found)
  unfold Civil.valid at valid
  simp only [Bool.and_eq_true, decide_eq_true_eq] at valid
  omega

namespace Day

/-- The month is one of those that are left, the day is one of its days, and the months passed over
take up the days before it. -/
theorem monthAndDay_spec {lengths : List Nat} {rest : Nat} (month : Nat)
    (inside : rest < lengths.foldr (· + ·) 0) : ∃ passed day,
      monthAndDay month rest lengths = (month + passed, day + 1) ∧ passed < lengths.length ∧
        day < lengths[passed]?.getD 0 ∧ (lengths.take passed).foldr (· + ·) 0 + day = rest := by
  induction lengths generalizing month rest with
  | nil => exact absurd inside (Nat.not_lt_zero _)
  | cons length lengths hypothesis =>
    rw [monthAndDay]
    split
    · next here => exact ⟨0, rest, rfl, Nat.succ_pos _, here, Nat.zero_add _⟩
    · next later =>
      rw [List.foldr_cons] at inside
      have left : rest - length < lengths.foldr (· + ·) 0 := by omega
      obtain ⟨passed, day, found, listed, short, total⟩ := hypothesis (month + 1) left
      refine ⟨passed + 1, day, ?_, Nat.succ_lt_succ listed, short, ?_⟩
      · rw [found, Nat.add_right_comm, Nat.add_assoc]
      · rw [List.take_succ_cons, List.foldr_cons]
        omega

/-- The number of days of a year. -/
theorem sum_monthLengths (year : Nat) : (Civil.monthLengths year).foldr (· + ·) 0 =
    if Civil.isLeap year then 366 else 365 := by
  unfold Civil.monthLengths
  split <;> rfl

/-- The year, month and day of month of the day at a place of a year. -/
def civilOf (year rest : Nat) : Civil :=
  ⟨year, (monthAndDay 1 rest (Civil.monthLengths year)).1,
    (monthAndDay 1 rest (Civil.monthLengths year)).2⟩

/-- A day is so many times four centuries, centuries, four years and years after the first one, and
the days of a year after that. The last day of a leap year is one of the fourth year of four, which
is the last of a century only if the century is the last of four. -/
theorem exists_parts (index : Nat) : ∃ era century quad single rest,
    index = era * 146097 + century * 36524 + quad * 1461 + single * 365 + rest ∧
      (century ≤ 3 ∧ quad ≤ 24 ∧ single ≤ 3 ∧ rest ≤ 365) ∧
        (rest = 365 → single = 3 ∧ (quad = 24 → century = 3)) ∧
          civil ⟨index⟩ = civilOf (era * 400 + century * 100 + quad * 4 + single + 1) rest := by
  have eras := Nat.div_add_mod index 146097
  have inEra := Nat.mod_lt index (show 0 < 146097 by decide)
  refine ⟨index / 146097, min (index % 146097 / 36524) 3,
    (index % 146097 - min (index % 146097 / 36524) 3 * 36524) / 1461,
    min ((index % 146097 - min (index % 146097 / 36524) 3 * 36524) % 1461 / 365) 3,
    (index % 146097 - min (index % 146097 / 36524) 3 * 36524) % 1461 -
      min ((index % 146097 - min (index % 146097 / 36524) 3 * 36524) % 1461 / 365) 3 * 365,
    ?_, ?_, ?_, rfl⟩
  all_goals generalize index % 146097 = left at *
  all_goals generalize index / 146097 = era at *
  · omega
  · omega
  · omega

/-- The days before a year, given how many years of each kind are before it. -/
theorem daysBeforeYear_parts {era century quad single : Nat} (centuries : century ≤ 3)
    (quads : quad ≤ 24) (singles : single ≤ 3) :
    Civil.daysBeforeYear (era * 400 + century * 100 + quad * 4 + single + 1) =
      era * 146097 + century * 36524 + quad * 1461 + single * 365 := by
  have ofQuads : (era * 400 + century * 100 + quad * 4 + single) / 4 =
      era * 100 + century * 25 + quad := by omega
  have ofCenturies : (era * 400 + century * 100 + quad * 4 + single) / 100 =
      era * 4 + century := by omega
  have ofEras : (era * 400 + century * 100 + quad * 4 + single) / 400 = era := by omega
  unfold Civil.daysBeforeYear
  simp only [Nat.add_sub_cancel, ofQuads, ofCenturies, ofEras]
  omega

/-- A day of the calendar is at a place of one of its years. -/
theorem exists_year {index : Nat} (inside : index < count) : ∃ year rest,
    1 ≤ year ∧ year ≤ 9999 ∧ Civil.daysBeforeYear year + rest = index ∧
      rest < (Civil.monthLengths year).foldr (· + ·) 0 ∧ civil ⟨index⟩ = civilOf year rest := by
  have days : count = 3652059 := rfl
  obtain ⟨era, century, quad, single, rest, total, few, last, isCivil⟩ := exists_parts index
  obtain ⟨centuries, quads, singles, short⟩ := few
  refine ⟨_, rest, Nat.succ_pos _, ?_, ?_, ?_, isCivil⟩
  · omega
  · rw [daysBeforeYear_parts centuries quads singles, total]
  · rw [sum_monthLengths]
    split
    · omega
    · next common =>
      simp only [Civil.isLeap, Bool.and_eq_true, Bool.or_eq_true, beq_iff_eq, bne_iff_ne] at common
      omega

/-- A day of the calendar is the day of its year, month and day of month. -/
theorem ofCivil?_civil {date : Day} (inside : date.index < count) :
    ofCivil? date.civil = some date := by
  obtain ⟨index⟩ := date
  obtain ⟨year, rest, first, last, before, short, isCivil⟩ := exists_year inside
  obtain ⟨passed, day, found, listed, within, total⟩ := monthAndDay_spec 1 short
  rw [civilOf, found] at isCivil
  have months : passed < 12 := listed
  have length : Civil.monthLength year (1 + passed) = (Civil.monthLengths year)[passed]?.getD 0 := by
    rw [Civil.monthLength, if_neg (by omega), Nat.add_sub_cancel_left]
  have valid : Civil.valid ⟨year, 1 + passed, day + 1⟩ = true := by
    simp only [Civil.valid, length, Bool.and_eq_true, decide_eq_true_eq]
    omega
  have same : indexOf ⟨year, 1 + passed, day + 1⟩ = index := by
    rw [indexOf, Nat.add_sub_cancel_left, Nat.add_sub_cancel, Nat.add_assoc, total]
    exact before
  rw [isCivil, ofCivil?, if_pos valid, same]

theorem civil_valid {date : Day} (inside : date.index < count) : date.civil.valid = true := by
  have isDay := ofCivil?_civil inside
  unfold ofCivil? at isDay
  split at isDay
  · assumption
  · cases isDay

end Day

/-! ### Moments -/

/-- The reading of the clock is in the calendar, and its offset is shorter than a day. -/
structure Moment.IsValid (moment : Moment) : Prop where
  inCalendar : moment.wall < Moment.limit
  offset : ∀ size, moment.offset = some size → size.natAbs < microsPerDay

/-- Taking the clock for one of universal time changes no instant. -/
theorem Moment.assumeUniversal_instant (moment : Moment) :
    moment.assumeUniversal.instant = moment.instant := by
  obtain ⟨wall, offset⟩ := moment
  cases offset <;> rfl

theorem Moment.assumeUniversal_isAware (moment : Moment) :
    moment.assumeUniversal.isAware = true := by
  obtain ⟨wall, offset⟩ := moment
  cases offset <;> rfl

theorem Moment.IsValid.instant_bounds {moment : Moment} (valid : moment.IsValid) :
    -(microsPerDay : Int) < moment.instant ∧
      moment.instant < (Moment.limit : Int) + microsPerDay := by
  obtain ⟨inCalendar, offset⟩ := valid
  have day : microsPerDay = 86400000000 := rfl
  unfold Moment.instant
  cases found : moment.offset with
  | none => simp only [Option.getD_none]; omega
  | some size =>
    have short := offset size found
    simp only [Option.getD_some]
    omega

end Specimen
