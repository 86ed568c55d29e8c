/-
**Keys and their texts.**

Keys of dictionaries are written as texts, and different keys may have the same one, such as the
number one and the text of it. Among plain keys that does not happen: null and absent, truth values,
integers, floats, days, moments, members of enumerations whose classes have names of their own, and
texts that look like none of them have different texts if they are different
(`Value.IsPlainKey.same_of_display`). The look of a text tells
its kind (`Value.look`), and each kind of text can be read.
-/

import Specimen.Proofs.FloatTexts
import Specimen.Proofs.IsoText
import Specimen.Proofs.Sameness

namespace Specimen

/-! ### Texts that can be read -/

theorem toString_int_inj {first second : Int} (same : toString first = toString second) :
    first = second := by
  have read := Json.scalar?_toString first Json.stops_nil
  rw [same, Json.scalar?_toString second Json.stops_nil] at read
  exact (Json.int.inj (Prod.mk.inj (Option.some.inj read)).1).symm

theorem Day.toIso_inj {first second : Day} (inside : first.index < Day.count)
    (alsoInside : second.index < Day.count) (same : first.toIso = second.toIso) :
    first = second := by
  have read := Iso.date?_dateText (Day.civil_valid inside) []
  have alsoRead := Iso.date?_dateText (Day.civil_valid alsoInside) []
  rw [← Iso.toList_toIso, Day.ofCivil?_civil inside] at read
  rw [← Iso.toList_toIso, Day.ofCivil?_civil alsoInside, ← same, read] at alsoRead
  exact Option.some.inj alsoRead

namespace Moment

variable {moment first second : Moment} {separator : String} {mark : Char}

theorem IsValid.day_lt (valid : moment.IsValid) : moment.day.index < Day.count :=
  Nat.div_lt_of_lt_mul (Nat.lt_of_lt_of_eq valid.inCalendar (Nat.mul_comm _ _))

theorem IsValid.time?_toIso (one : separator.toList = [mark]) (valid : moment.IsValid) :
    ∃ clock, Iso.time? ((moment.toIso separator).toList.drop 11) = some (clock, moment.offset) := by
  obtain ⟨tail, written, isTail⟩ := moment.toList_toIso one
  have hours : moment.hour < 24 := by
    have time : moment.timeOfDay < microsPerDay := Nat.mod_lt _ (by decide)
    exact Nat.div_lt_of_lt_mul time
  have minutes : moment.minute < 60 := Nat.mod_lt _ (by decide)
  have dateLength : (Iso.dateText moment.day.civil ++ [mark]).length = 11 := by
    rw [List.length_append, Iso.length_dateText (Day.civil_valid valid.day_lt)]
    rfl
  rw [written, List.append_cons, ← dateLength, List.drop_left]
  exact ⟨_, Iso.time?_clockText hours minutes isTail (Iso.isOffset_offsetText valid.offset)⟩

theorem toIso_inj (one : separator.toList = [mark]) (valid : first.IsValid)
    (alsoValid : second.IsValid) (same : first.toIso separator = second.toIso separator) :
    first = second := by
  have read := ofIso?_toIso one valid
  rw [same, ofIso?_toIso one alsoValid] at read
  obtain ⟨wall, _⟩ := Moment.mk.inj (Option.some.inj read)
  obtain ⟨clock, time⟩ := valid.time?_toIso one
  obtain ⟨other, alsoTime⟩ := alsoValid.time?_toIso one
  rw [same, alsoTime] at time
  have offset := (Prod.mk.inj (Option.some.inj time)).2
  exact (Moment.mk.injEq _ _ _ _).mpr ⟨wall.symm, offset.symm⟩

end Moment

namespace Value

/-! ### What texts look like -/

/-- What the text of a key looks like. -/
inductive Look where
  | word
  | name
  | integer
  | float
  | day
  | moment
  deriving DecidableEq

/-- Does a digit come first, or behind a minus sign? -/
def startsNumber (text : List Char) : Bool :=
  (text.dropWhile (· == '-')).head?.any Char.isDigit

/-- Do digits come first, and a hyphen behind them? -/
def startsDate (text : List Char) : Bool :=
  text.head?.any Char.isDigit && (text.dropWhile Char.isDigit).head? == some '-'

/-- What a text looks like. -/
def look (text : List Char) : Look :=
  if startsNumber text then
    if startsDate text then if text.length = 10 then .day else .moment
    else if text.tail.all Char.isDigit then .integer else .float
  else if '.' ∈ text then .name
  else .word

/-- A name as types have it: it starts like no number, and has no point in it. -/
structure IsTypeName (name : String) : Prop where
  start : ∃ first rest, name.toList = first :: rest ∧ first.isDigit = false ∧ first ≠ '-'
  noPoint : '.' ∉ name.toList

/-- The texts of single values. -/
def words : List String := ["ABSENT", "None", "True", "False", "inf", "-inf"]

/-- A key whose text tells it apart from others like it. -/
inductive IsPlainKey : Value → Prop
  | absent : IsPlainKey .absent
  | null : IsPlainKey .null
  | bool (value : Bool) : IsPlainKey (.bool value)
  | int (value : Int) : IsPlainKey (.int value)
  | finite (negative : Bool) {significand : Nat} {exponent : Int}
      (canonical : Binary64.IsCanonical significand exponent) :
      IsPlainKey (.float (.finite negative significand exponent))
  | infinite (negative : Bool) : IsPlainKey (.float (.infinite negative))
  | text {value : String} (isWord : look value.toList = .word) (free : value ∉ words) :
      IsPlainKey (.text value)
  | day {value : Day} (inside : value.index < Day.count) : IsPlainKey (.day value)
  | moment {value : Moment} (valid : value.IsValid) : IsPlainKey (.moment value)
  | member {family : EnumClass} (isName : IsTypeName family.name) (name : String) (value : Value) :
      IsPlainKey (.member family name value)

/-- The class of a member of an enumeration. -/
def enumClass? : Value → Option EnumClass
  | .member family _ _ => some family
  | _ => none

/-- If the values are members of two enumerations, the classes of these have different names. -/
def AreOfNamedClasses (first second : Value) : Prop :=
  ∀ family ∈ first.enumClass?, ∀ other ∈ second.enumClass?,
    family.name = other.name → family = other

/-- What the text of a plain key looks like. -/
def expectedLook : Value → Look
  | .int _ => .integer
  | .float (.finite _ _ _) => .float
  | .day _ => .day
  | .moment _ => .moment
  | .member _ _ _ => .name
  | _ => .word

/-- A text with digits in front starts like a date if a hyphen comes behind them. -/
theorem starts_digits {digits rest : List Char} (nonempty : digits ≠ [])
    (areDigits : ∀ mark ∈ digits, mark.isDigit = true)
    (ends : ∀ mark ∈ rest.head?, mark.isDigit = false) :
    startsNumber (digits ++ rest) = true ∧
      startsDate (digits ++ rest) = (rest.head? == some '-') := by
  have after := (Binary64.span_digits areDigits ends).2
  obtain ⟨first, others, written⟩ := List.exists_cons_of_ne_nil nonempty
  have isDigit : first.isDigit = true := areDigits first (written ▸ List.mem_cons_self)
  have noSign : first ≠ '-' := by
    rintro rfl
    cases isDigit
  unfold startsDate startsNumber
  rw [after, written]
  simp [isDigit, noSign]

/-- Digits behind a minus sign start like a number and like no date. -/
theorem starts_minus {first : Char} (isDigit : first.isDigit = true) (rest : List Char) :
    startsNumber ('-' :: first :: rest) = true ∧ startsDate ('-' :: first :: rest) = false := by
  have noSign : first ≠ '-' := by
    rintro rfl
    cases isDigit
  exact ⟨by simp [startsNumber, isDigit, noSign], rfl⟩

/-- A date starts like a number and has a hyphen after the year. -/
theorem look_date {date : Civil} (valid : date.valid = true) (rest : List Char) :
    look (Iso.dateText date ++ rest) = if rest = [] then .day else .moment := by
  obtain ⟨years, _, _⟩ := Civil.valid_bounds valid
  have width : (padded 4 date.year).toList.length = 4 := length_padded (by decide) years
  have nonempty : (padded 4 date.year).toList ≠ [] := List.ne_nil_of_length_pos (by omega)
  have long : (Iso.dateText date ++ rest).length = 10 ↔ rest = [] := by
    rw [List.length_append, Iso.length_dateText valid, Nat.add_eq_left, List.length_eq_zero_iff]
  have starts : startsNumber (Iso.dateText date ++ rest) = true ∧
      startsDate (Iso.dateText date ++ rest) = true := by
    rw [Iso.dateText, List.append_assoc]
    refine starts_digits nonempty (fun _ => isDigit_of_mem_padded) fun mark mem => ?_
    cases mem
    rfl
  rw [look, starts.1, starts.2]
  simp only [if_true, long]

theorem look_of_starts {text : List Char} (starts : startsNumber text = true)
    (noDate : startsDate text = false) :
    look text = if text.tail.all Char.isDigit then .integer else .float := by
  rw [look, if_pos starts, if_neg (Bool.eq_false_iff.1 noDate)]

/-- Digits are an integer, with a sign or without, and a float if something comes behind them that
makes no date. -/
theorem look_number {digits rest : List Char} (nonempty : digits ≠ [])
    (areDigits : ∀ mark ∈ digits, mark.isDigit = true)
    (ends : ∀ mark ∈ rest.head?, mark.isDigit = false ∧ mark ≠ '-') (negative : Bool) :
    look ((if negative then ['-'] else []) ++ (digits ++ rest)) =
      if rest = [] then .integer else .float := by
  have all : ∀ found : List Char, (∀ mark ∈ found, mark.isDigit = true) →
      ((found ++ rest).all Char.isDigit = true ↔ rest = []) := by
    intro found areDigits
    rw [List.all_append, List.all_eq_true.2 areDigits, Bool.true_and]
    cases rest with
    | nil => simp
    | cons mark rest => simp [(ends mark rfl).1]
  cases negative with
  | true =>
    obtain ⟨first, others, written⟩ := List.exists_cons_of_ne_nil nonempty
    obtain ⟨starts, noDate⟩ := starts_minus (areDigits first (written ▸ List.mem_cons_self))
      (others ++ rest)
    have tail := all digits areDigits
    rw [written] at tail ⊢
    exact (look_of_starts starts noDate).trans (if_congr tail rfl rfl)
  | false =>
    obtain ⟨starts, dated⟩ := starts_digits nonempty areDigits fun mark mem => (ends mark mem).1
    have noDate : startsDate (digits ++ rest) = false := by
      rw [dated]
      exact Bool.eq_false_iff.2 fun hyphen => (ends '-' (eq_of_beq hyphen)).2 rfl
    have tail := all digits.tail fun mark mem => areDigits mark (List.mem_of_mem_tail mem)
    rw [← List.tail_append_of_ne_nil nonempty] at tail
    exact (look_of_starts starts noDate).trans (if_congr tail rfl rfl)

theorem look_int (number : Int) : look (toString number).toList = .integer := by
  have digits (natural : Nat) (negative : Bool) :
      look ((if negative then ['-'] else []) ++ Nat.toDigits 10 natural) = .integer := by
    have areDigits : ∀ mark ∈ Nat.toDigits 10 natural, mark.isDigit = true :=
      fun mark mem => Nat.isDigit_of_mem_toDigits (by decide) (by decide) mem
    rw [← List.append_nil (Nat.toDigits 10 natural)]
    exact look_number Nat.toDigits_ne_nil areDigits (fun mark mem => by cases mem) negative
  cases number with
  | ofNat natural =>
    rw [Json.toList_ofNat]
    exact digits natural false
  | negSucc natural =>
    rw [Json.toList_negSucc]
    exact digits (natural + 1) true

/-- A numeral has a point or a power of ten. -/
theorem look_numeral {numeral : Binary64.Numeral} (valid : numeral.IsValid) (negative : Bool) :
    look ((if negative then ['-'] else []) ++ numeral.text) = .float := by
  have wholeDigits : ∀ mark ∈ numeral.whole, mark.isDigit = true :=
    fun mark mem => valid.areDigits mark (List.mem_append_left numeral.fraction mem)
  obtain ⟨mark, rest, written, isMark⟩ := valid.exists_mark
  have ends : ∀ first ∈ (mark :: rest).head?, first.isDigit = false ∧ first ≠ '-' := by
    intro first mem
    cases mem
    rcases isMark with rfl | rfl <;> decide
  rw [written, look_number valid.nonempty wholeDigits ends, if_neg (List.cons_ne_nil _ _)]

theorem toList_member (family : EnumClass) (name : String) (value : Value) :
    (Value.member family name value).display.toList = family.name.toList ++ '.' :: name.toList := by
  rw [display, String.toList_append, String.toList_append, List.append_assoc]
  rfl

theorem look_member {family : EnumClass} (isName : IsTypeName family.name) (name : String)
    (value : Value) : look (Value.member family name value).display.toList = .name := by
  obtain ⟨mark, rest, isFamily, noDigit, noSign⟩ := isName.start
  have noNumber : startsNumber (mark :: (rest ++ '.' :: name.toList)) = false := by
    simp [startsNumber, noDigit, noSign]
  have point : '.' ∈ mark :: (rest ++ '.' :: name.toList) := by simp
  rw [toList_member, isFamily, look, List.cons_append, noNumber, if_neg Bool.false_ne_true,
    if_pos point]

/-- The text of a plain key looks as is expected of its kind. -/
theorem IsPlainKey.look_display {key : Value} (plain : key.IsPlainKey) :
    look key.display.toList = key.expectedLook := by
  cases plain with
  | absent | null => rfl
  | bool value => cases value <;> rfl
  | int value => exact look_int value
  | finite negative canonical =>
    show look (Binary64.toText _).toList = _
    rw [Binary64.toText_finite canonical negative]
    exact look_numeral (Binary64.numeral_spec canonical).1 negative
  | infinite negative => cases negative <;> rfl
  | text isWord free => exact isWord
  | @day value inside =>
    have date := look_date (Day.civil_valid inside) []
    rwa [List.append_nil, ← Iso.toList_toIso] at date
  | @moment value valid =>
    have one : " ".toList = [' '] := rfl
    obtain ⟨tail, written, _⟩ := value.toList_toIso one
    show look (value.toIso " ").toList = _
    rw [written, look_date (Day.civil_valid valid.day_lt)]
    rfl
  | member isName name value => exact look_member isName name value

/-! ### Keys by their texts -/

/-- A text is split in one way at the first mark of a kind. -/
theorem eq_of_split {mark : Char} {front other rest more : List Char} (absent : mark ∉ front)
    (alsoAbsent : mark ∉ other) (same : front ++ mark :: rest = other ++ mark :: more) :
    front = other ∧ rest = more := by
  have takeFront {front : List Char} (absent : mark ∉ front) (rest : List Char) :
      (front ++ mark :: rest).takeWhile (· != mark) = front := by
    have areOthers : ∀ letter ∈ front, (letter != mark) = true :=
      fun letter mem => bne_iff_ne.2 fun isMark => absent (isMark ▸ mem)
    rw [List.takeWhile_append_of_pos areOthers, List.takeWhile_cons_of_neg (by simp),
      List.append_nil]
  have fronts : front = other := by
    rw [← takeFront absent rest, same, takeFront alsoAbsent more]
  rw [fronts] at same
  exact ⟨fronts, (List.cons.inj (List.append_cancel_left same)).2⟩

/-- Names of members are told apart by their texts: no name of a class has a point in it. -/
theorem member_inj {family other : EnumClass} (isName : IsTypeName family.name)
    (alsoName : IsTypeName other.name) {name otherName : String} {value otherValue : Value}
    (same : (Value.member family name value).display =
      (Value.member other otherName otherValue).display) :
    family.name = other.name ∧ name = otherName := by
  have texts := congrArg String.toList same
  rw [toList_member, toList_member] at texts
  obtain ⟨families, names⟩ := eq_of_split isName.noPoint alsoName.noPoint texts
  exact ⟨String.toList_inj.1 families, String.toList_inj.1 names⟩

theorem display_bool_mem (truth : Bool) : (Value.bool truth).display ∈ words := by
  cases truth <;> decide

theorem display_infinite_mem (negative : Bool) :
    (Value.float (.infinite negative)).display ∈ words := by
  cases negative <;> decide

/-- **Plain keys with the same text are the same.** -/
theorem IsPlainKey.same_of_display {first second : Value} (plain : first.IsPlainKey)
    (alsoPlain : second.IsPlainKey) (named : first.AreOfNamedClasses second)
    (same : first.display = second.display) : first.same second = true := by
  have looks : first.expectedLook = second.expectedLook := by
    rw [← plain.look_display, ← alsoPlain.look_display, same]
  have notWord {value : String} (free : value ∉ words) {key : Value}
      (listed : key.display ∈ words) : (Value.text value).display ≠ key.display := by
    intro same
    rw [← same] at listed
    exact free listed
  -- Only keys that look alike remain: two words, or two keys of one kind.
  cases plain <;> cases alsoPlain <;> try cases looks
  case int.int number other =>
    obtain rfl := toString_int_inj same
    exact same_refl _
  case finite.finite negative _ _ canonical alsoNegative _ _ alsoCanonical =>
    rw [Binary64.toText_inj (.finite negative canonical) (.finite alsoNegative alsoCanonical) same]
    exact same_refl _
  case day.day value inside other alsoInside =>
    obtain rfl := Day.toIso_inj inside alsoInside same
    exact same_refl _
  case moment.moment value valid other alsoValid =>
    obtain rfl := Moment.toIso_inj rfl valid alsoValid same
    exact same_refl _
  case member.member family isName name value otherFamily alsoName otherName otherValue =>
    obtain ⟨names, rfl⟩ := member_inj isName alsoName same
    obtain rfl := named family rfl otherFamily rfl names
    simp only [Value.same, BEq.rfl, Bool.and_self]
  case bool.bool value other | infinite.infinite value other =>
    cases value <;> cases other <;> first | rfl | exact absurd same (by decide)
  case text.text value isWord free other alsoWord alsoFree =>
    obtain rfl : value = other := same
    exact same_refl _
  case text.absent value isWord free | text.null value isWord free =>
    exact absurd same (notWord free (by decide))
  case absent.text value isWord free | null.text value isWord free =>
    exact absurd same.symm (notWord free (by decide))
  case text.bool value isWord free truth =>
    exact absurd same (notWord free (display_bool_mem truth))
  case bool.text truth value isWord free =>
    exact absurd same.symm (notWord free (display_bool_mem truth))
  case text.infinite value isWord free negative =>
    exact absurd same (notWord free (display_infinite_mem negative))
  case infinite.text negative value isWord free =>
    exact absurd same.symm (notWord free (display_infinite_mem negative))
  all_goals
    clear named
    first | rfl | exact absurd same (by decide +revert)

end Value

end Specimen
