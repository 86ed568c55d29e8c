/-
**The text of a number reads back as the number.**

A finite number is written as a numeral: digits, a fraction and perhaps a power of ten
(`Binary64.Numeral`). A numeral is read as the number nearest to its value, and moving the point or
dropping zeros behind the digits keeps the value, so the text of a number has the value of its
shortest decimal and reads back as the number (`Binary64.ofText?_toText`). Different numbers, zeros
of both signs included, have different texts.
-/

import Mathlib.Data.List.TakeWhile
import Specimen.Proofs.JsonReading
import Specimen.Proofs.ShortestTexts

namespace Specimen

namespace Binary64

/-! ### Digits and their values -/

section Digits

variable {digits : List Char}

theorem digitsValue_append (first second : List Char) : digitsValue (first ++ second) =
    digitsValue first * 10 ^ second.length + digitsValue second := by
  induction second using List.reverseRecOn with
  | nil => simp [digitsValue]
  | append_singleton second mark hypothesis =>
    have last (digits : List Char) : digitsValue (digits ++ [mark]) =
        digitsValue digits * 10 + (mark.toNat - '0'.toNat) := by
      rw [digitsValue, List.foldl_append]
      rfl
    rw [← List.append_assoc, last, last, hypothesis, List.length_append, List.length_singleton,
      pow_succ]
    ring

theorem digitsValue_zeros (count : Nat) : digitsValue (List.replicate count '0') = 0 := by
  induction count with
  | zero => rfl
  | succ count hypothesis =>
    rw [List.replicate_succ', digitsValue_append, hypothesis]
    rfl

/-- The value of a digit string with the point before the digits, moved by some places. -/
def pointed (digits : List Char) (point : Int) : Rat :=
  digitsValue digits * (10 : Rat) ^ (point - digits.length)

/-- Zeros behind the digits do not count. -/
theorem pointed_append_zeros (digits : List Char) (count : Nat) (point : Int) :
    pointed (digits ++ List.replicate count '0') point = pointed digits point := by
  have places : point - digits.length = (point - (digits.length + count)) + count := by omega
  unfold pointed
  rw [digitsValue_append, digitsValue_zeros, List.length_append, List.length_replicate, places,
    zpow_add₀ (by norm_num), zpow_natCast]
  push_cast
  ring

/-- Zeros before the digits move the point. -/
theorem pointed_zeros_append (digits : List Char) (count : Nat) (point : Int) :
    pointed (List.replicate count '0' ++ digits) (point + count) = pointed digits point := by
  have places : point + count - (List.replicate count '0' ++ digits).length =
      point - digits.length := by
    rw [List.length_append, List.length_replicate]
    omega
  unfold pointed
  rw [places, digitsValue_append, digitsValue_zeros, Nat.zero_mul, Nat.zero_add]

theorem exists_dropTrailingZeros (digits : List Char) :
    ∃ count, digits = dropTrailingZeros digits ++ List.replicate count '0' := by
  have areZeros : ∀ mark ∈ digits.reverse.takeWhile (· == '0'), mark = '0' := by
    intro mark mem
    have isZero := List.mem_takeWhile_imp mem
    exact eq_of_beq isZero
  refine ⟨(digits.reverse.takeWhile (· == '0')).length, ?_⟩
  rw [← List.reverse_replicate, ← List.eq_replicate_of_mem areZeros, dropTrailingZeros,
    ← List.reverse_append, List.takeWhile_append_dropWhile, List.reverse_reverse]

/-- Digits end where something else comes. -/
theorem span_digits {rest : List Char} (areDigits : ∀ mark ∈ digits, mark.isDigit = true)
    (ends : ∀ mark ∈ rest.head?, mark.isDigit = false) :
    (digits ++ rest).takeWhile Char.isDigit = digits ∧
      (digits ++ rest).dropWhile Char.isDigit = rest := by
  rw [List.takeWhile_append_of_pos areDigits, List.dropWhile_append_of_pos areDigits]
  cases rest with
  | nil => exact ⟨List.append_nil digits, rfl⟩
  | cons mark rest =>
    have noDigit : ¬ mark.isDigit = true := ne_true_of_eq_false (ends mark rfl)
    rw [List.takeWhile_cons_of_neg noDigit, List.dropWhile_cons_of_neg noDigit]
    exact ⟨List.append_nil digits, rfl⟩

end Digits

/-! ### Numerals -/

/-- A number as it is written: digits, a fraction and perhaps a power of ten. -/
structure Numeral where
  whole : List Char
  fraction : List Char
  power? : Option Int

namespace Numeral

variable {numeral : Numeral}

/-- The digits of a power of ten, two or more. -/
def powerDigits (power : Int) : List Char :=
  let width := decimalDigits power.natAbs
  if width.length < 2 then '0' :: width else width

/-- The mark, the sign and the digits of a power of ten. -/
def powerText (power : Int) : List Char :=
  'e' :: (if power < 0 then '-' else '+') :: powerDigits power

/-- The text of a numeral. -/
def text (numeral : Numeral) : List Char :=
  numeral.whole ++ ((if numeral.fraction.isEmpty then [] else '.' :: numeral.fraction) ++
    numeral.power?.elim [] powerText)

def digits (numeral : Numeral) : List Char := numeral.whole ++ numeral.fraction

/-- The power of ten of the last digit. -/
def power (numeral : Numeral) : Int := numeral.power?.getD 0 - numeral.fraction.length

def value (numeral : Numeral) : Rat := digitsValue numeral.digits * (10 : Rat) ^ numeral.power

/-- A numeral with a digit in front, and with more than digits. -/
structure IsValid (numeral : Numeral) : Prop where
  areDigits : ∀ mark ∈ numeral.digits, mark.isDigit = true
  nonempty : numeral.whole ≠ []
  float : numeral.fraction ≠ [] ∨ numeral.power? ≠ none

theorem value_eq (numeral : Numeral) : numeral.value =
    pointed numeral.digits (numeral.whole.length + numeral.power?.getD 0) := by
  unfold value pointed power digits
  rw [List.length_append]
  congr 2
  push_cast
  ring

theorem isDigit_powerDigits (power : Int) : ∀ mark ∈ powerDigits power, mark.isDigit = true := by
  intro mark mem
  have isDigit (written : mark ∈ decimalDigits power.natAbs) : mark.isDigit = true :=
    Nat.isDigit_of_mem_toDigits (by decide) (by decide) written
  unfold powerDigits at mem
  simp only at mem
  split at mem
  · rcases List.mem_cons.1 mem with rfl | written
    · rfl
    · exact isDigit written
  · exact isDigit mem

theorem powerDigits_ne_nil (power : Int) : powerDigits power ≠ [] := by
  unfold powerDigits
  simp only
  split
  · exact List.cons_ne_nil _ _
  · exact Nat.toDigits_ne_nil

theorem digitsValue_powerDigits (power : Int) : digitsValue (powerDigits power) = power.natAbs := by
  have written : digitsValue (decimalDigits power.natAbs) = power.natAbs :=
    Json.digitsValue_toDigits power.natAbs
  unfold powerDigits
  simp only
  split
  · rw [← List.singleton_append, digitsValue_append, written]
    exact (congrArg (· + _) (Nat.zero_mul _)).trans (Nat.zero_add _)
  · exact written

/-- A power of ten has its sign behind the mark. -/
theorem powerText_sign (power : Int) :
    powerText power = 'e' :: '-' :: powerDigits power ∧ -|power| = power ∨
      powerText power = 'e' :: '+' :: powerDigits power ∧ |power| = power := by
  unfold powerText
  split
  · next below => exact .inl ⟨rfl, by rw [abs_of_neg below, neg_neg]⟩
  · next above => exact .inr ⟨rfl, abs_of_nonneg (not_lt.1 above)⟩

/-- **A numeral is read by its digits and its power of ten.** -/
theorem ofUnsignedText?_text (valid : numeral.IsValid) (negative : Bool) :
    ofUnsignedText? negative numeral.text =
      some (ofDecimal negative (digitsValue numeral.digits) numeral.power) := by
  obtain ⟨whole, fraction, power?⟩ := numeral
  obtain ⟨areDigits, nonempty, -⟩ := valid
  have wholeDigits : ∀ mark ∈ whole, mark.isDigit = true :=
    fun mark mem => areDigits mark (List.mem_append_left fraction mem)
  have fractionDigits : ∀ mark ∈ fraction, mark.isDigit = true :=
    fun mark mem => areDigits mark (List.mem_append_right whole mem)
  have wholeNe : whole ≠ [] := nonempty
  have tailEnds : ∀ mark ∈ (power?.elim [] powerText).head?, mark.isDigit = false := by
    intro mark mem
    cases power? with
    | none => cases mem
    | some power =>
      cases mem
      rfl
  have powerRead (power : Int) : powerDigits power ≠ [] ∧
      (powerDigits power).all Char.isDigit = true ∧
      digitsValue (powerDigits power) = power.natAbs :=
    ⟨powerDigits_ne_nil power, List.all_eq_true.2 (isDigit_powerDigits power),
      digitsValue_powerDigits power⟩
  simp only [text, digits, power]
  unfold ofUnsignedText?
  cases fraction with
  | nil =>
    have span := span_digits wholeDigits tailEnds
    simp only [List.isEmpty_nil, if_true, List.nil_append, span]
    cases power? with
    | none => simp [wholeNe]
    | some power =>
      rcases powerText_sign power with ⟨written, size⟩ | ⟨written, size⟩ <;>
        simp [written, size, wholeNe, powerRead, -List.all_eq_true]
  | cons digit fraction =>
    have pointEnds : ∀ mark ∈ (('.' :: digit :: fraction) ++ power?.elim [] powerText).head?,
        mark.isDigit = false := by
      intro mark mem
      cases mem
      rfl
    have span := span_digits wholeDigits pointEnds
    have more := span_digits fractionDigits tailEnds
    simp only [List.isEmpty_cons, Bool.false_eq_true, if_false, span]
    simp only [List.cons_append] at more ⊢
    simp only [more]
    cases power? with
    | none => simp
    | some power =>
      rcases powerText_sign power with ⟨written, size⟩ | ⟨written, size⟩ <;>
        simp [written, size, powerRead, -List.all_eq_true]

/-- A numeral begins with a digit. -/
theorem IsValid.exists_digit (valid : numeral.IsValid) :
    ∃ mark rest, numeral.text = mark :: rest ∧ mark.isDigit = true := by
  obtain ⟨mark, rest, written⟩ := List.exists_cons_of_ne_nil valid.nonempty
  refine ⟨mark, _, congrArg (· ++ _) written, valid.areDigits mark ?_⟩
  rw [digits, written]
  exact List.mem_cons_self

/-- Behind the digits in front comes a point or the mark of a power. -/
theorem IsValid.exists_mark (valid : numeral.IsValid) :
    ∃ mark rest, numeral.text = numeral.whole ++ mark :: rest ∧ (mark = '.' ∨ mark = 'e') := by
  obtain ⟨whole, fraction, power?⟩ := numeral
  cases fraction with
  | cons digit fraction => exact ⟨'.', _, rfl, .inl rfl⟩
  | nil =>
    cases power? with
    | some power => exact ⟨'e', _, rfl, .inr rfl⟩
    | none => exact absurd valid.float (not_or.2 ⟨absurd rfl, absurd rfl⟩)

/-! ### Placing the point -/

/-- Digits, and zeros if there are too few, cut behind some places; a digit comes after the cut. -/
def cut (digits : List Char) (places : Nat) : List Char × List Char :=
  let padded := digits ++ List.replicate (places - digits.length) '0'
  let fraction := padded.drop places
  (padded.take places, if fraction.isEmpty then ['0'] else fraction)

/-- The numeral of some digits with the point before them, moved by some places. -/
def placed (digits : List Char) (point : Int) : Numeral :=
  if -4 < point ∧ point ≤ 16 then
    if point ≤ 0 then ⟨['0'], List.replicate (-point).toNat '0' ++ digits, none⟩
    else ⟨(cut digits point.toNat).1, (cut digits point.toNat).2, none⟩
  else ⟨digits.take 1, digits.drop 1, some (point - 1)⟩

section Placed

variable {digits : List Char}

theorem length_cut (digits : List Char) (places : Nat) : (cut digits places).1.length = places := by
  simp only [cut, List.length_take, List.length_append, List.length_replicate]
  omega

theorem cut_ne_nil (digits : List Char) (places : Nat) : (cut digits places).2 ≠ [] := by
  unfold cut
  simp only
  split
  · exact List.cons_ne_nil _ _
  · next some => exact fun none => some (List.isEmpty_iff.2 none)

/-- A cut takes no digits away and adds zeros behind them. -/
theorem cut_append (digits : List Char) (places : Nat) : ∃ behind,
    (cut digits places).1 ++ (cut digits places).2 = digits ++ List.replicate behind '0' := by
  have whole := List.take_append_drop places
    (digits ++ List.replicate (places - digits.length) '0')
  unfold cut
  simp only
  split
  · next empty =>
    rw [List.isEmpty_iff.1 empty, List.append_nil] at whole
    refine ⟨places - digits.length + 1, ?_⟩
    rw [whole, List.replicate_succ', List.append_assoc]
  · exact ⟨_, whole⟩

/-- **Where the point is placed**: digits get zeros on both sides, and the point is moved by those
before them. -/
theorem placed_spec (nonempty : digits ≠ []) (point : Int) : ∃ before behind : Nat,
    (placed digits point).digits =
        List.replicate before '0' ++ (digits ++ List.replicate behind '0') ∧
      (placed digits point).whole.length + (placed digits point).power?.getD 0 = point + before ∧
      (placed digits point).whole ≠ [] ∧
      ((placed digits point).fraction ≠ [] ∨ (placed digits point).power? ≠ none) := by
  unfold placed
  split
  · split
    · refine ⟨(-point).toNat + 1, 0, ?_, ?_, List.cons_ne_nil _ _, .inl fun none => ?_⟩
      · rw [List.replicate_zero, List.append_nil]
        rfl
      · simp only [List.length_singleton, Option.getD_none]
        omega
      · exact nonempty (List.append_eq_nil_iff.1 none).2
    · next positive =>
      obtain ⟨behind, written⟩ := cut_append digits point.toNat
      have size := length_cut digits point.toNat
      refine ⟨0, behind, written, ?_, List.ne_nil_of_length_pos ?_, .inl (cut_ne_nil digits _)⟩
      · rw [size, Option.getD_none]
        omega
      · rw [size]
        omega
  · have one : (digits.take 1).length = 1 := List.length_take_of_le (List.length_pos_iff.2 nonempty)
    refine ⟨0, 0, ?_, ?_, ?_, .inr (Option.some_ne_none _)⟩
    · rw [List.replicate_zero, List.append_nil]
      exact List.take_append_drop 1 digits
    · rw [one, Option.getD_some]
      omega
    · exact List.ne_nil_of_length_pos (Nat.lt_of_lt_of_eq Nat.one_pos one.symm)

theorem placed_isValid (nonempty : digits ≠ []) (areDigits : ∀ mark ∈ digits, mark.isDigit = true)
    (point : Int) : (placed digits point).IsValid := by
  obtain ⟨before, behind, written, -, whole, float⟩ := placed_spec nonempty point
  refine ⟨fun mark mem => ?_, whole, float⟩
  have isDigit {count : Nat} (zero : mark ∈ List.replicate count '0') : mark.isDigit = true :=
    List.eq_of_mem_replicate zero ▸ rfl
  rw [written, List.mem_append, List.mem_append] at mem
  exact mem.elim isDigit (Or.elim · (areDigits mark) isDigit)

theorem value_placed (nonempty : digits ≠ []) (point : Int) :
    (placed digits point).value = pointed digits point := by
  obtain ⟨before, behind, written, place, -⟩ := placed_spec nonempty point
  rw [value_eq, written, place, pointed_zeros_append, pointed_append_zeros]

/-- The text with the point placed is the one of the numeral. -/
theorem text_placed (nonempty : digits ≠ []) (point : Int) :
    (placed digits point).text = placePoint digits point := by
  obtain ⟨first, rest, rfl⟩ := List.exists_cons_of_ne_nil nonempty
  unfold placed placePoint
  split
  · split
    · simp [text]
    · simp only [text, cut]
      split <;> simp_all
  · cases rest <;> simp [text, powerText, powerDigits]

end Placed

end Numeral

/-! ### Numbers -/

variable {significand : Nat} {exponent : Int}

/-- The numeral of a finite number without its sign. -/
def numeral (significand : Nat) (exponent : Int) : Numeral :=
  if significand = 0 then ⟨['0'], ['0'], none⟩
  else
    let decimal := shortest significand exponent
    let digits := decimalDigits decimal.1
    .placed (dropTrailingZeros digits) (digits.length + decimal.2)

/-- A number as values have it: one that is finite has the significand of its exponent, and
not-a-number is none. -/
inductive IsOrdinary : Binary64 → Prop
  | finite (negative : Bool) {significand : Nat} {exponent : Int}
      (canonical : IsCanonical significand exponent) :
      IsOrdinary (.finite negative significand exponent)
  | infinite (negative : Bool) : IsOrdinary (.infinite negative)

theorem IsCanonical.exponent_of_zero (canonical : IsCanonical 0 exponent) :
    exponent = minExponent :=
  canonical.full.resolve_left (by decide)

/-- The sign of a ratio is the sign of the number. -/
theorem ofRatio_of_unsigned {num den : Nat} (negative : Bool)
    (rounds : ofRatio false num den = .finite false significand exponent) :
    ofRatio negative num den = .finite negative significand exponent := by
  unfold ofRatio at rounds ⊢
  split at rounds
  · next none =>
    cases rounds
    exact if_pos none
  · next some =>
    rw [if_neg some]
    simp only at rounds ⊢
    generalize roundDiv (rescale num den (exponentOf num den)).1
      (rescale num den (exponentOf num den)).2 = rounded at rounds ⊢
    generalize (if rounded = significandBound then exponentOf num den + 1
      else exponentOf num den) = power at rounds ⊢
    split at rounds
    · cases rounds
    · next fits =>
      cases rounds
      exact if_neg fits

/-- The sign of a decimal is the sign of the number. -/
theorem ofDecimal_of_unsigned {digits : Nat} {power : Int} (negative : Bool)
    (reads : ofDecimal false digits power = .finite false significand exponent) :
    ofDecimal negative digits power = .finite negative significand exponent := by
  by_cases none : digits = 0
  · rw [none, ofDecimal_zero] at reads ⊢
    cases reads
    rfl
  · rw [ofDecimal_eq _ none] at reads ⊢
    split at reads
    · cases reads
    · next near =>
      rw [if_neg near]
      split at reads
      · next small =>
        cases reads
        exact if_pos small
      · next large =>
        rw [if_neg large]
        exact ofRatio_of_unsigned negative reads

theorem shortest_ne_zero (canonical : IsCanonical significand exponent)
    (nonzero : significand ≠ 0) : (shortest significand exponent).1 ≠ 0 := by
  intro none
  have reads := shortest_readsBack canonical nonzero
  rw [none, ofDecimal_zero] at reads
  cases reads
  exact nonzero rfl

/-- The digits of a number, without the zeros behind them. -/
theorem dropTrailingZeros_spec {number : Nat} (nonzero : number ≠ 0) :
    dropTrailingZeros (decimalDigits number) ≠ [] ∧
      (∀ mark ∈ dropTrailingZeros (decimalDigits number), mark.isDigit = true) ∧
      ∀ point, pointed (dropTrailingZeros (decimalDigits number)) point =
        number * (10 : Rat) ^ (point - (decimalDigits number).length) := by
  have read : digitsValue (decimalDigits number) = number := Json.digitsValue_toDigits number
  obtain ⟨count, written⟩ := exists_dropTrailingZeros (decimalDigits number)
  refine ⟨fun none => ?_, fun mark mem => ?_, fun point => ?_⟩
  · rw [none, List.nil_append] at written
    rw [written, digitsValue_zeros] at read
    exact nonzero read.symm
  · have listed : mark ∈ decimalDigits number := by
      rw [written]
      exact List.mem_append_left _ mem
    exact Nat.isDigit_of_mem_toDigits (by decide) (by decide) listed
  · have same := pointed_append_zeros (dropTrailingZeros (decimalDigits number)) count point
    rw [← same, ← written, pointed, read]

theorem numeral_spec (canonical : IsCanonical significand exponent) :
    (numeral significand exponent).IsValid ∧
      ∀ negative, ofDecimal negative (digitsValue (numeral significand exponent).digits)
        (numeral significand exponent).power = .finite negative significand exponent := by
  unfold numeral
  split
  · next isZero =>
    subst isZero
    rw [canonical.exponent_of_zero]
    have areDigits : ∀ mark ∈ ['0'] ++ ['0'], mark.isDigit = true :=
      List.forall_mem_cons.2 ⟨rfl, List.forall_mem_singleton.2 rfl⟩
    refine ⟨⟨areDigits, List.cons_ne_nil _ _, .inl (List.cons_ne_nil _ _)⟩, fun negative => ?_⟩
    exact ofDecimal_zero negative _
  · next nonzero =>
    obtain ⟨some, areDigits, value⟩ := dropTrailingZeros_spec (shortest_ne_zero canonical nonzero)
    have reads := shortest_readsBack canonical nonzero
    generalize shortest significand exponent = decimal at *
    refine ⟨Numeral.placed_isValid some areDigits _, fun negative => ?_⟩
    have same := Numeral.value_placed some ((decimalDigits decimal.1).length + decimal.2)
    rw [value, add_sub_cancel_left] at same
    exact (ofDecimal_congr negative same).trans (ofDecimal_of_unsigned negative reads)

theorem toText_finite (canonical : IsCanonical significand exponent) (negative : Bool) :
    (finite negative significand exponent).toText.toList =
      (if negative then ['-'] else []) ++ (numeral significand exponent).text := by
  unfold toText numeral
  simp only
  split
  · rw [String.toList_ofList]
    rfl
  · next nonzero =>
    obtain ⟨some, -⟩ := dropTrailingZeros_spec (shortest_ne_zero canonical nonzero)
    rw [String.toList_ofList, Numeral.text_placed some]

/-- A text with a digit in front is read without a sign. -/
theorem ofText?_digit {text : String} {mark : Char} {rest : List Char} (payload : Nat)
    (written : text.toList = mark :: rest) (isDigit : mark.isDigit = true) :
    ofText? text payload = ofUnsignedText? false (mark :: rest) := by
  unfold ofText?
  split
  · cases written
    cases isDigit
  · cases written
    cases isDigit
  · cases written
    cases isDigit
  · rw [written]
    split
    · next same =>
      cases same
      cases isDigit
    · next same =>
      cases same
      cases isDigit
    · rfl

theorem ofText?_minus {text : String} {mark : Char} {rest : List Char} (payload : Nat)
    (written : text.toList = '-' :: mark :: rest) (isDigit : mark.isDigit = true) :
    ofText? text payload = ofUnsignedText? true (mark :: rest) := by
  unfold ofText?
  split
  · cases written
  · cases written
  · cases written
    cases isDigit
  · rw [written]
    rfl

/-- **The text of a number reads back as the number.** -/
theorem ofText?_toText {number : Binary64} (ordinary : number.IsOrdinary) (payload : Nat) :
    ofText? number.toText payload = some number := by
  cases ordinary with
  | infinite negative => cases negative <;> rfl
  | @finite negative significand exponent canonical =>
    obtain ⟨valid, reads⟩ := numeral_spec canonical
    obtain ⟨mark, rest, begins, isDigit⟩ := valid.exists_digit
    have written := toText_finite canonical negative
    have read := Numeral.ofUnsignedText?_text valid negative
    rw [reads, begins] at read
    rw [begins] at written
    cases negative with
    | true => rw [ofText?_minus payload written isDigit, read]
    | false => rw [ofText?_digit payload written isDigit, read]

theorem toText_inj {first second : Binary64} (ordinary : first.IsOrdinary)
    (alsoOrdinary : second.IsOrdinary) (same : first.toText = second.toText) : first = second := by
  have read := ofText?_toText ordinary 0
  rw [same, ofText?_toText alsoOrdinary] at read
  exact (Option.some.inj read).symm

end Binary64

end Specimen
