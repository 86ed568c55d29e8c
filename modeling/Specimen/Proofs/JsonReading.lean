/-
**Reading JSON that was written.**

What is written of a JSON value is read as that value, in every layout (`Json.read?_write`): the
layouts differ in white space, which the reader passes over, and in escapes, which it knows all of.
The values are those whose numbers are integers and whose objects have different names; of a float
the text need not be exact, and of a name that comes twice only one member is read.

What is read has to end where it was written to end. For a number that is so if nothing that may
belong to a number comes next (`Json.Stops`), and commas, brackets and white space never do.
-/

import Specimen.Json.Reader
import Specimen.Proofs.JsonForms

namespace Specimen

namespace Json

/-! ### Values and layouts -/

/-- Every number is an integer, and every object has different names. -/
inductive IsFloatFree : Json → Prop
  | null : IsFloatFree .null
  | bool (value : Bool) : IsFloatFree (.bool value)
  | int (value : Int) : IsFloatFree (.int value)
  | text (value : String) : IsFloatFree (.text value)
  | array {items : List Json} (each : ∀ item ∈ items, IsFloatFree item) : IsFloatFree (.array items)
  | object {members : List (String × Json)} (distinct : (members.map (·.1)).Nodup)
      (each : ∀ member ∈ members, IsFloatFree member.2) : IsFloatFree (.object members)

/-- The text is a mark with white space after it. -/
def IsMark (mark : Char) (text : String) : Prop :=
  ∃ blanks, text.toList = mark :: blanks ∧ ∀ blank ∈ blanks, isSpace blank = true

/-- Between items stands a comma, and between a name and its value a colon. -/
structure IsReadable (layout : JsonLayout) : Prop where
  comma : IsMark ',' layout.comma
  colon : IsMark ':' layout.colon

theorem compact_isReadable : IsReadable .compact :=
  ⟨⟨[], rfl, List.forall_mem_nil _⟩, ⟨[], rfl, List.forall_mem_nil _⟩⟩

theorem spaced_isReadable : IsReadable .spaced :=
  ⟨⟨[' '], rfl, List.forall_mem_singleton.2 rfl⟩, ⟨[' '], rfl, List.forall_mem_singleton.2 rfl⟩⟩

/-! ### White space -/

section Space

variable {blanks rest : List Char} {mark : Char}

/-- White space consists of the four marks that the grammar names. -/
theorem isSpace_iff : isSpace mark = true ↔ mark = ' ' ∨ mark = '\t' ∨ mark = '\n' ∨ mark = '\r' := by
  simp [isSpace, or_assoc]

/-- Any white space in front is skipped. -/
theorem skipSpace_append (areBlank : ∀ blank ∈ blanks, isSpace blank = true) (rest : List Char) :
    skipSpace (blanks ++ rest) = skipSpace rest := List.dropWhile_append_of_pos areBlank

/-- Nothing is skipped in front of a mark that can be seen. -/
theorem skipSpace_cons (visible : isSpace mark = false) (rest : List Char) :
    skipSpace (mark :: rest) = mark :: rest :=
  List.dropWhile_cons_of_neg (ne_true_of_eq_false visible)

/-- A line starts with white space alone, whatever the layout. -/
theorem isSpace_lineStart (layout : JsonLayout) (level : Nat) :
    ∀ blank ∈ (lineStart layout level).toList, isSpace blank = true := by
  unfold lineStart
  split
  · intro blank mem
    simp only [String.toList_append, String.toList_ofList, List.mem_append] at mem
    rcases mem with line | space
    · rw [List.mem_singleton.1 line]
      rfl
    · rw [List.eq_of_mem_replicate space]
      rfl
  · exact List.forall_mem_nil _

end Space

/-! ### Numbers -/

/-- Nothing that may belong to a number comes next. -/
def Stops (rest : List Char) : Prop :=
  ∀ mark ∈ rest.head?, mark.isDigit = false ∧ mark ≠ '.' ∧ mark ≠ 'e' ∧ mark ≠ 'E'

section Numbers

variable {rest : List Char}

theorem stops_nil : Stops [] := nofun

/-- A mark that may follow a number stops it. -/
theorem stops_cons {mark : Char} (ends : mark = ',' ∨ mark = ']' ∨ mark = '\x7d' ∨ isSpace mark = true) :
    Stops (mark :: rest) := by
  rw [isSpace_iff] at ends
  intro other isFirst
  cases isFirst
  rcases ends with rfl | rfl | rfl | rfl | rfl | rfl | rfl <;> decide

theorem stops_blanks {blanks : List Char} (areBlank : ∀ blank ∈ blanks, isSpace blank = true)
    (stops : Stops rest) : Stops (blanks ++ rest) := by
  cases blanks with
  | nil => exact stops
  | cons blank others => exact stops_cons (.inr (.inr (.inr (areBlank blank List.mem_cons_self))))

/-- The digits of a number are read back as the number. -/
theorem digitsValue_toDigits (number : Nat) : Binary64.digitsValue (Nat.toDigits 10 number) = number := by
  have same : Binary64.digitsValue (Nat.toDigits 10 number) =
      Nat.ofDigitChars 10 (Nat.toDigits 10 number) 0 := by
    simp only [Binary64.digitsValue, Nat.ofDigitChars, Nat.mul_comm]
  rw [same, Nat.ofDigitChars_toDigits (by decide) (by decide)]

/-- Only zero is written with a zero in front. -/
theorem head?_toDigits {number : Nat} (positive : 0 < number) :
    (Nat.toDigits 10 number).head? ≠ some '0' := by
  induction number using Nat.strongRecOn with
  | ind number hypothesis =>
    by_cases small : number < 10
    · have single : ∀ digit < 10, 0 < digit → Nat.digitChar digit ≠ '0' := by decide
      rw [Nat.toDigits_of_lt_base small]
      exact fun same => single number small positive (Option.some.inj same)
    · rw [Nat.toDigits_of_base_le (by decide) (Nat.not_lt.1 small),
        List.head?_append_of_ne_nil _ Nat.toDigits_ne_nil]
      exact hypothesis (number / 10) (by omega) (by omega)

/-- The digits of a number are read as the number. -/
theorem number?_toDigits (negative : Bool) (number : Nat) (stops : Stops rest) :
    number? negative (Nat.toDigits 10 number ++ rest) =
      some (.int (if negative then -(number : Int) else number), rest) := by
  have areDigits : ∀ mark ∈ Nat.toDigits 10 number, mark.isDigit = true :=
    fun mark mem => Nat.isDigit_of_mem_toDigits (by decide) (by decide) mem
  have taken : (Nat.toDigits 10 number ++ rest).takeWhile Char.isDigit = Nat.toDigits 10 number := by
    have none : rest.takeWhile Char.isDigit = [] := by
      cases rest with
      | nil => rfl
      | cons mark tail => exact List.takeWhile_cons_of_neg (ne_true_of_eq_false (stops mark rfl).1)
    rw [List.takeWhile_append_of_pos areDigits, none, List.append_nil]
  have whole : (if (Nat.toDigits 10 number).head? == some '0' then ['0']
      else Nat.toDigits 10 number) = Nat.toDigits 10 number := by
    rcases Nat.eq_zero_or_pos number with rfl | positive
    · rfl
    · rw [if_neg (fun zero => head?_toDigits positive (eq_of_beq zero))]
  have noFraction : fraction rest = ([], rest) := by
    unfold fraction
    split
    · next tail => exact absurd rfl (stops '.' rfl).2.1
    · rfl
  have noExponent : exponent rest = ([], rest) := by
    cases rest with
    | nil => rfl
    | cons mark tail =>
      obtain ⟨_, _, small, large⟩ := stops mark rfl
      simp [exponent, small, large]
  have some : (Nat.toDigits 10 number).isEmpty = false :=
    List.isEmpty_eq_false_iff.2 Nat.toDigits_ne_nil
  simp only [number?, taken, whole, some, List.drop_left, noFraction, noExponent]
  rw [digitsValue_toDigits]
  rfl

/-- A scalar that starts with a digit is a number. -/
theorem scalar?_digit {mark : Char} (isDigit : mark.isDigit = true) (rest : List Char) :
    scalar? (mark :: rest) = number? false (mark :: rest) := by
  unfold scalar?
  split
  all_goals
    first
    | rfl
    | next same =>
      cases same
      exact absurd isDigit (by decide)

/-- A scalar that starts with a minus sign and a digit is a negative number. -/
theorem scalar?_minus {mark : Char} (isDigit : mark.isDigit = true) (rest : List Char) :
    scalar? ('-' :: mark :: rest) = number? true (mark :: rest) := by
  rw [scalar?]
  rintro tail same
  cases same
  exact absurd isDigit (by decide)

/-- A number has at least one digit. -/
theorem exists_digit (number : Nat) :
    ∃ mark others, Nat.toDigits 10 number = mark :: others ∧ mark.isDigit = true := by
  cases digits : Nat.toDigits 10 number with
  | nil => exact absurd digits Nat.toDigits_ne_nil
  | cons mark others =>
    have mem : mark ∈ Nat.toDigits 10 number := digits ▸ List.mem_cons_self
    exact ⟨mark, others, rfl, Nat.isDigit_of_mem_toDigits (by decide) (by decide) mem⟩

theorem toList_negSucc (number : Nat) :
    (toString (Int.negSucc number)).toList = '-' :: Nat.toDigits 10 (number + 1) := by
  show ("-" ++ Nat.repr (number + 1)).toList = _
  rw [String.toList_append, Nat.toList_repr]
  rfl

theorem toList_ofNat (number : Nat) :
    (toString (Int.ofNat number)).toList = Nat.toDigits 10 number := Nat.toList_repr

/-- What is written of an integer is read as the integer. -/
theorem scalar?_toString (number : Int) (stops : Stops rest) :
    scalar? ((toString number).toList ++ rest) = some (.int number, rest) := by
  cases number with
  | ofNat number =>
    obtain ⟨mark, others, digits, isDigit⟩ := exists_digit number
    rw [toList_ofNat, digits, List.cons_append, scalar?_digit isDigit, ← List.cons_append, ← digits]
    exact number?_toDigits false number stops
  | negSucc number =>
    obtain ⟨mark, others, digits, isDigit⟩ := exists_digit (number + 1)
    rw [toList_negSucc, digits, List.cons_append, List.cons_append, scalar?_minus isDigit,
      ← List.cons_append, ← digits]
    exact number?_toDigits true (number + 1) stops

/-- What is written of an integer starts with a digit or a sign. -/
theorem exists_sign_or_digit (number : Int) : ∃ mark others,
    (toString number).toList = mark :: others ∧ (mark = '-' ∨ mark.isDigit = true) := by
  cases number with
  | ofNat number =>
    obtain ⟨mark, others, digits, isDigit⟩ := exists_digit number
    exact ⟨mark, others, (toList_ofNat number).trans digits, .inr isDigit⟩
  | negSucc number => exact ⟨'-', _, toList_negSucc number, .inl rfl⟩

end Numbers

/-! ### Texts -/

section Texts

variable {rest : List Char}

/-- A hexadecimal digit is read back. -/
theorem hexDigit?_digitChar : ∀ digit < 16, hexDigit? (Nat.digitChar digit) = some digit := by decide

/-- A padded number loses its last digit. -/
theorem hexPadded_succ {width number : Nat} (some : 0 < width) :
    Quoted.hexPadded (width + 1) number =
      Quoted.hexPadded width (number / 16) ++ [Nat.digitChar (number % 16)] := by
  unfold Quoted.hexPadded
  by_cases small : number < 16
  · have none : number / 16 = 0 := Nat.div_eq_of_lt small
    rw [Nat.toDigits_of_lt_base small, none, Nat.mod_eq_of_lt small, Nat.toDigits_zero]
    obtain ⟨less, rfl⟩ : ∃ less, width = less + 1 := ⟨width - 1, by omega⟩
    show List.replicate (less + 1) '0' ++ _ = List.replicate less '0' ++ ['0'] ++ _
    rw [List.replicate_succ']
  · rw [Nat.toDigits_of_base_le (by decide) (Nat.not_lt.1 small)]
    simp only [List.length_append, List.length_singleton, Nat.add_sub_add_right, List.append_assoc]

/-- The four digits of a code unit. -/
theorem hexPadded_four {unit : Nat} (fits : unit < 0x10000) : Quoted.hexPadded 4 unit =
    [Nat.digitChar (unit / 16 / 16 / 16), Nat.digitChar (unit / 16 / 16 % 16),
      Nat.digitChar (unit / 16 % 16), Nat.digitChar (unit % 16)] := by
  have one : Quoted.hexPadded 1 (unit / 16 / 16 / 16) = [Nat.digitChar (unit / 16 / 16 / 16)] := by
    rw [Quoted.hexPadded, Nat.toDigits_of_lt_base (by omega)]
    rfl
  rw [hexPadded_succ (by decide), hexPadded_succ (by decide), hexPadded_succ (by decide), one]
  rfl

/-- A code unit is read from its four digits. -/
theorem unit?_hexPadded {unit : Nat} (fits : unit < 0x10000) (rest : List Char) :
    unit? (Quoted.hexPadded 4 unit ++ rest) = some (unit, rest) := by
  rw [hexPadded_four fits]
  simp only [List.cons_append, List.nil_append, unit?]
  rw [hexDigit?_digitChar _ (by omega), hexDigit?_digitChar _ (by omega),
    hexDigit?_digitChar _ (by omega), hexDigit?_digitChar _ (by omega)]
  show some (((unit / 16 / 16 / 16 * 16 + unit / 16 / 16 % 16) * 16 + unit / 16 % 16) * 16 + unit % 16,
    rest) = _
  congr 2
  omega

/-- The codes of characters; those of surrogates are left out. -/
theorem code_bounds (member : Char) :
    member.toNat < 0xD800 ∨ 0xDFFF < member.toNat ∧ member.toNat < 0x110000 := member.valid

/-- A code unit that stands for a character alone. -/
theorem unitChar?_single {member : Char} (small : member.toNat < 0x10000) (rest : List Char) :
    unitChar? member.toNat rest = some (member, rest) := by
  have bounds := code_bounds member
  have noPair : ¬ (0xD800 ≤ member.toNat ∧ member.toNat < 0xDC00) := by omega
  have noSecond : ¬ (0xDC00 ≤ member.toNat ∧ member.toNat < 0xE000) := by omega
  unfold unitChar?
  rw [if_neg noPair, if_neg noSecond, Char.ofNat_toNat]

/-- A code unit with its second one next. -/
theorem unitChar?_surrogates {high low : Nat} (isHigh : 0xD800 ≤ high ∧ high < 0xDC00)
    (isLow : 0xDC00 ≤ low ∧ low < 0xE000) (rest : List Char) :
    unitChar? high (unitEscape low ++ rest) =
      some (Char.ofNat (0x10000 + (high - 0xD800) * 0x400 + (low - 0xDC00)), rest) := by
  simp only [unitChar?, unitEscape, List.cons_append]
  rw [if_pos isHigh, unit?_hexPadded (by omega), Option.bind_eq_bind, Option.bind_some]
  simp only
  rw [if_pos isLow]
  rfl

/-- The two code units of a character have their ranges, and give its code. -/
theorem surrogates_bounds {code : Nat} (large : 0x10000 ≤ code) (limit : code < 0x110000) :
    (0xD800 ≤ 0xD800 + (code - 0x10000) / 0x400 ∧ 0xD800 + (code - 0x10000) / 0x400 < 0xDC00) ∧
    (0xDC00 ≤ 0xDC00 + (code - 0x10000) % 0x400 ∧ 0xDC00 + (code - 0x10000) % 0x400 < 0xE000) ∧
    0x10000 + (0xD800 + (code - 0x10000) / 0x400 - 0xD800) * 0x400 +
      (0xDC00 + (code - 0x10000) % 0x400 - 0xDC00) = code := by
  omega

/-- Two code units that stand for a character together. -/
theorem unitChar?_pair {member : Char} (large : 0x10000 ≤ member.toNat) (rest : List Char) :
    unitChar? (0xD800 + (member.toNat - 0x10000) / 0x400)
        (unitEscape (0xDC00 + (member.toNat - 0x10000) % 0x400) ++ rest) = some (member, rest) := by
  have limit : member.toNat < 0x110000 := by
    have bounds := code_bounds member
    omega
  obtain ⟨isHigh, isLow, joined⟩ := surrogates_bounds large limit
  rw [unitChar?_surrogates isHigh isLow, joined, Char.ofNat_toNat]

/-- An escaped unit is read as the character that it stands for. -/
theorem textBody?_unit {unit : Nat} {member : Char} {after : List Char} (fits : unit < 0x10000)
    (read : unitChar? unit rest = some (member, after)) (fuel : Nat) :
    textBody? (fuel + 1) (unitEscape unit ++ rest) =
      (textBody? fuel after).map fun body => (member :: body.1, body.2) := by
  simp only [unitEscape, List.cons_append, textBody?]
  rw [unit?_hexPadded fits, Option.bind_eq_bind, Option.bind_some, read, Option.bind_eq_bind,
    Option.bind_some]
  cases textBody? fuel after <;> rfl

/-- An escaped mark is read as the character that it stands for. -/
theorem textBody?_escape {mark member : Char} (noUnit : mark ≠ 'u')
    (escape : escaped? mark = some member) (fuel : Nat) :
    textBody? (fuel + 1) ('\\' :: mark :: rest) =
      (textBody? fuel rest).map fun body => (member :: body.1, body.2) := by
  rw [textBody?]
  · rw [escape, Option.bind_eq_bind, Option.bind_some]
    cases textBody? fuel rest <;> rfl
  · exact noUnit

/-- A character that needs no escape is read as it is. -/
theorem textBody?_plain {member : Char} (noQuote : member ≠ '"') (noEscape : member ≠ '\\')
    (visible : 32 ≤ member.toNat) (fuel : Nat) :
    textBody? (fuel + 1) (member :: rest) =
      (textBody? fuel rest).map fun body => (member :: body.1, body.2) := by
  rw [textBody?]
  · rw [if_neg (Nat.not_lt.2 visible)]
    cases textBody? fuel rest <;> rfl
  · exact noQuote
  · exact fun _ same _ => noEscape same
  · exact fun _ _ same _ => noEscape same

/-- The ways to write a character of a text: as it is, by a letter, by its code unit or by two of
them.
-/
inductive Codes (member : Char) : List Char → Prop
  | plain (noQuote : member ≠ '"') (noEscape : member ≠ '\\') (visible : 32 ≤ member.toNat) :
      Codes member [member]
  | letter {mark : Char} (noUnit : mark ≠ 'u') (escape : escaped? mark = some member) :
      Codes member ['\\', mark]
  | unit (small : member.toNat < 0x10000) : Codes member (unitEscape member.toNat)
  | pair (large : 0x10000 ≤ member.toNat) :
      Codes member (unitEscape (0xD800 + (member.toNat - 0x10000) / 0x400) ++
        unitEscape (0xDC00 + (member.toNat - 0x10000) % 0x400))

theorem charEscape_codes (member : Char) : Codes member (charEscape member) := by
  unfold charEscape
  simp only
  split
  · next small => exact .unit small
  · next large => exact .pair (Nat.not_lt.1 large)

/-- What is written for a character is one of the ways to write it. -/
theorem encodeChar_codes (ascii : Bool) (member : Char) : Codes member (encodeChar ascii member) := by
  have named {other mark : Char} (same : (member == other) = true) (noUnit : mark ≠ 'u')
      (escape : escaped? mark = some other) : Codes member ['\\', mark] :=
    .letter noUnit (by rw [escape, eq_of_beq same])
  have numbered {code : Nat} {mark : Char} (same : (member.toNat == code) = true)
      (noUnit : mark ≠ 'u') (escape : escaped? mark = some (Char.ofNat code)) :
      Codes member ['\\', mark] :=
    .letter noUnit (by rw [escape, ← eq_of_beq same, Char.ofNat_toNat])
  unfold encodeChar
  split
  · next quote => exact named quote (by decide) rfl
  split
  · next escape => exact named escape (by decide) rfl
  split
  · next newline => exact named newline (by decide) rfl
  split
  · next carriageReturn => exact named carriageReturn (by decide) rfl
  split
  · next tab => exact named tab (by decide) rfl
  split
  · next backspace => exact numbered backspace (by decide) rfl
  split
  · next formFeed => exact numbered formFeed (by decide) rfl
  split
  · exact .unit (by omega)
  split
  · exact charEscape_codes member
  · next noQuote noEscape _ _ _ _ _ visible _ =>
    exact .plain (fun same => noQuote (beq_iff_eq.2 same)) (fun same => noEscape (beq_iff_eq.2 same))
      (by omega)

/-- Something is written for every character. -/
theorem Codes.ne_nil {member : Char} {written : List Char} (codes : Codes member written) :
    written ≠ [] := by
  cases codes <;> exact List.cons_ne_nil _ _

/-- A character is read, however it is written. -/
theorem Codes.isRead {member : Char} {written : List Char} (codes : Codes member written)
    (fuel : Nat) :
    textBody? (fuel + 1) (written ++ rest) =
      (textBody? fuel rest).map fun body => (member :: body.1, body.2) := by
  cases codes with
  | plain noQuote noEscape visible => exact textBody?_plain noQuote noEscape visible fuel
  | letter noUnit escape => exact textBody?_escape noUnit escape fuel
  | unit small => exact textBody?_unit small (unitChar?_single small rest) fuel
  | pair large =>
    rw [List.append_assoc]
    have bounds := code_bounds member
    exact textBody?_unit (by omega) (unitChar?_pair large rest) fuel

/-- What is written of the characters of a text is read as them, up to the closing quote. -/
theorem textBody?_encoded (ascii : Bool) (members : List Char) (rest : List Char) {fuel : Nat}
    (enough : members.length < fuel) :
    textBody? fuel (members.flatMap (encodeChar ascii) ++ '"' :: rest) = some (members, rest) := by
  induction members generalizing fuel with
  | nil =>
    obtain ⟨less, rfl⟩ : ∃ less, fuel = less + 1 := ⟨fuel - 1, by omega⟩
    rfl
  | cons member others hypothesis =>
    obtain ⟨less, rfl⟩ : ∃ less, fuel = less + 1 := ⟨fuel - 1, by omega⟩
    rw [List.length_cons] at enough
    rw [List.flatMap_cons, List.append_assoc, (encodeChar_codes ascii member).isRead,
      hypothesis (by omega)]
    rfl

/-- What is written of a text is no shorter than the text. -/
theorem length_encoded (ascii : Bool) (members : List Char) :
    members.length ≤ (members.flatMap (encodeChar ascii)).length := by
  induction members with
  | nil => exact Nat.zero_le _
  | cons member others hypothesis =>
    have some := List.length_pos_of_ne_nil (encodeChar_codes ascii member).ne_nil
    rw [List.flatMap_cons, List.length_append, List.length_cons]
    omega

theorem toList_encodeText (ascii : Bool) (text : String) : (encodeText ascii text).toList =
    '"' :: (text.toList.flatMap (encodeChar ascii) ++ ['"']) := String.toList_ofList

/-- What is written of a text is read as the text. -/
theorem text?_encoded (ascii : Bool) (text : String) (rest : List Char) :
    text? (text.toList.flatMap (encodeChar ascii) ++ '"' :: rest) = some (text, rest) := by
  have enough : text.toList.length <
      (text.toList.flatMap (encodeChar ascii) ++ '"' :: rest).length + 1 := by
    have longer := length_encoded ascii text.toList
    rw [List.length_append]
    omega
  rw [text?, textBody?_encoded ascii _ rest enough, Option.bind_eq_bind, Option.bind_some]
  show some (String.ofList text.toList, rest) = _
  rw [String.ofList_toList]

end Texts

/-! ### Collections -/

/-- What stands between two items of a collection whose items are at a level. -/
def between (layout : JsonLayout) (level : Nat) : List Char :=
  layout.comma.toList ++ (lineStart layout level).toList

/-- The pieces of a collection with what stands between them. -/
def joined (layout : JsonLayout) (level : Nat) (pieces : List String) : List Char :=
  (between layout level).intercalate (pieces.map String.toList)

section Collections

variable {layout : JsonLayout} {level : Nat} {opening closing : String} {pieces : List String}
variable {rest : List Char}

theorem joined_single (piece : String) : joined layout level [piece] = piece.toList :=
  List.intercalate_singleton

/-- The first of several pieces is followed by what stands between two of them. -/
theorem joined_cons (piece : String) (some : pieces ≠ []) : joined layout level (piece :: pieces) =
    piece.toList ++ between layout level ++ joined layout level pieces := by
  cases pieces with
  | nil => exact absurd rfl some
  | cons next others => exact List.intercalate_cons_cons

/-- The text of a collection: the brackets, with the pieces on lines of their own. -/
theorem toList_bracketed (some : pieces ≠ []) :
    (bracketed layout level opening closing pieces).toList = opening.toList ++
      ((lineStart layout (level + 1)).toList ++ (joined layout (level + 1) pieces ++
        ((lineStart layout level).toList ++ closing.toList))) := by
  unfold bracketed
  rw [if_neg (fun none => some (List.isEmpty_iff.1 none))]
  simp only [String.toList_append, String.toList_intercalate, joined, between, List.append_assoc]

theorem toList_bracketed_nil :
    (bracketed layout level opening closing []).toList = opening.toList ++ closing.toList := by
  rw [bracketed, List.isEmpty_nil, if_pos rfl, String.toList_append]

/-- What is written of a collection, and what comes after it. -/
theorem bracketed_append {first last : Char} (opens : opening.toList = [first])
    (closes : closing.toList = [last]) (some : pieces ≠ []) (rest : List Char) :
    (bracketed layout level opening closing pieces).toList ++ rest =
      first :: ((lineStart layout (level + 1)).toList ++ (joined layout (level + 1) pieces ++
        ((lineStart layout level).toList ++ last :: rest))) := by
  rw [toList_bracketed some, opens, closes]
  simp only [List.cons_append, List.nil_append, List.append_assoc]

/-- Between two items stands a comma with white space after it. -/
theorem between_eq (readable : IsReadable layout) (level : Nat) :
    ∃ blanks, between layout level = ',' :: blanks ∧ ∀ blank ∈ blanks, isSpace blank = true := by
  obtain ⟨blanks, isComma, areBlank⟩ := readable.comma
  refine ⟨blanks ++ (lineStart layout level).toList, by rw [between, isComma]; rfl, ?_⟩
  exact List.forall_mem_append.2 ⟨areBlank, isSpace_lineStart layout level⟩

/-- The items of an array may have white space in front. -/
theorem items?_append {blanks : List Char} (areBlank : ∀ blank ∈ blanks, isSpace blank = true)
    (fuel : Nat) (rest : List Char) : items? fuel (blanks ++ rest) = items? fuel rest := by
  cases fuel with
  | zero => rfl
  | succ fuel => rw [items?, items?, skipSpace_append areBlank]

/-- The members of an object may have white space in front. -/
theorem members?_append {blanks : List Char} (areBlank : ∀ blank ∈ blanks, isSpace blank = true)
    (fuel : Nat) (found : List (String × Json)) (rest : List Char) :
    members? fuel found (blanks ++ rest) = members? fuel found rest := by
  cases fuel with
  | zero => rfl
  | succ fuel => rw [members?, members?, skipSpace_append areBlank]

end Collections

/-! ### Values -/

/-- What is written of the value is read as the value, at any level and before anything that does
not go on with it. -/
def IsRead (layout : JsonLayout) (json : Json) : Prop :=
  ∀ {level fuel rest}, Stops rest → (writeAt layout level json).toList.length < fuel →
    value? fuel ((writeAt layout level json).toList ++ rest) = some (json, rest)

/-- The text starts with a mark that is neither white space nor a closing bracket. -/
def IsOpen (text : List Char) : Prop :=
  ∃ mark rest, text = mark :: rest ∧ isSpace mark = false ∧ mark ≠ ']' ∧ mark ≠ '\x7d'

section Values

variable {layout : JsonLayout} {level fuel : Nat} {json : Json} {rest : List Char}

namespace IsOpen

variable {text : List Char}

/-- A text that starts with a visible mark does so whatever follows it. -/
theorem append (isOpen : IsOpen text) (rest : List Char) : IsOpen (text ++ rest) := by
  obtain ⟨mark, tail, rfl, differs⟩ := isOpen
  exact ⟨mark, tail ++ rest, rfl, differs⟩

theorem skipSpace_eq (isOpen : IsOpen text) : skipSpace text = text := by
  obtain ⟨mark, tail, rfl, visible, _⟩ := isOpen
  exact skipSpace_cons visible _

theorem joined {piece : String} (isOpen : IsOpen piece.toList) (pieces : List String) :
    IsOpen (joined layout level (piece :: pieces)) := by
  cases pieces with
  | nil => rwa [joined_single]
  | cons next others =>
    rw [joined_cons _ (List.cons_ne_nil _ _), List.append_assoc]
    exact isOpen.append _

theorem bracketed {mark : Char} {opening closing : String} (isOpening : opening.toList = [mark])
    (differs : isSpace mark = false ∧ mark ≠ ']' ∧ mark ≠ '\x7d') (pieces : List String) :
    IsOpen (bracketed layout level opening closing pieces).toList := by
  by_cases none : pieces = []
  · rw [none, toList_bracketed_nil, isOpening]
    exact ⟨mark, _, rfl, differs⟩
  · rw [toList_bracketed none, isOpening]
    exact ⟨mark, _, rfl, differs⟩

end IsOpen

/-- What is written of a value starts with a visible mark. -/
theorem IsFloatFree.isOpen (free : json.IsFloatFree) : IsOpen (writeAt layout level json).toList := by
  cases free with
  | null => exact ⟨'n', "ull".toList, by rw [writeAt]; rfl, by decide⟩
  | bool value =>
    cases value
    · exact ⟨'f', "alse".toList, by rw [writeAt]; rfl, by decide⟩
    · exact ⟨'t', "rue".toList, by rw [writeAt]; rfl, by decide⟩
  | int value =>
    obtain ⟨mark, others, written, starts⟩ := exists_sign_or_digit value
    refine ⟨mark, others, by rwa [writeAt], ?_⟩
    rcases starts with rfl | isDigit
    · decide
    · refine ⟨?_, ?_, ?_⟩
      · by_contra space
        rcases isSpace_iff.1 (Bool.not_eq_false _ ▸ space) with rfl | rfl | rfl | rfl <;>
          exact absurd isDigit (by decide)
      · exact fun same => absurd (same ▸ isDigit) (by decide)
      · exact fun same => absurd (same ▸ isDigit) (by decide)
  | text value => exact ⟨'"', _, by rw [writeAt]; exact toList_encodeText _ value, by decide⟩
  | array =>
    have opens : "[".toList = ['['] := rfl
    rw [writeAt]
    exact .bracketed opens (by decide) _
  | object =>
    have opens : "\x7b".toList = ['\x7b'] := rfl
    rw [writeAt]
    exact .bracketed opens (by decide) _

/-- Anything but a text, an array or an object is a scalar. -/
theorem value?_scalar {mark : Char} (text : mark ≠ '"') (array : mark ≠ '[') (object : mark ≠ '\x7b') :
    value? (fuel + 1) (mark :: rest) = scalar? (mark :: rest) := by
  rw [value?]
  · exact fun _ same => text (List.cons.inj same).1
  · exact fun _ same => array (List.cons.inj same).1
  · exact fun _ same => object (List.cons.inj same).1

theorem value?_text : value? (fuel + 1) ('"' :: rest) =
    (text? rest).map fun read => (.text read.1, read.2) := rfl

/-- After an opening bracket the items of an array are read. -/
theorem value?_array {blanks text : List Char} (areBlank : ∀ blank ∈ blanks, isSpace blank = true)
    (isOpen : IsOpen text) : value? (fuel + 1) ('[' :: (blanks ++ text)) =
      (items? fuel text).map fun read => (.array read.1, read.2) := by
  rw [value?, skipSpace_append areBlank, isOpen.skipSpace_eq]
  obtain ⟨mark, tail, rfl, _, differs, _⟩ := isOpen
  split
  · next same => exact absurd (List.cons.inj same).1 differs
  · rfl

/-- After an opening brace the members of an object are read. -/
theorem value?_object {blanks text : List Char} (areBlank : ∀ blank ∈ blanks, isSpace blank = true)
    (isOpen : IsOpen text) : value? (fuel + 1) ('\x7b' :: (blanks ++ text)) =
      (members? fuel [] text).map fun read => (.object read.1, read.2) := by
  rw [value?, skipSpace_append areBlank, isOpen.skipSpace_eq]
  obtain ⟨mark, tail, rfl, _, _, differs⟩ := isOpen
  split
  · next same => exact absurd (List.cons.inj same).1 differs
  · rfl

/-! #### Arrays -/

/-- The items of an array are read up to the closing bracket. -/
theorem items?_written (readable : IsReadable layout) {first : Json} {others : List Json}
    (each : ∀ item ∈ first :: others, item.IsFloatFree ∧ IsRead layout item)
    {blanks : List Char} (areBlank : ∀ blank ∈ blanks, isSpace blank = true)
    (enough : (joined layout level (writeItems layout level (first :: others))).length + 1 < fuel) :
    items? fuel (joined layout level (writeItems layout level (first :: others)) ++
      (blanks ++ ']' :: rest)) = some (first :: others, rest) := by
  induction others generalizing first fuel with
  | nil =>
    obtain ⟨free, isRead⟩ := each first List.mem_cons_self
    obtain ⟨less, rfl⟩ : ∃ less, fuel = less + 1 := ⟨fuel - 1, by omega⟩
    rw [writeItems, writeItems, joined_single] at enough ⊢
    have ends : Stops (blanks ++ ']' :: rest) :=
      stops_blanks areBlank (stops_cons (.inr (.inl rfl)))
    rw [items?, (free.isOpen.append _).skipSpace_eq, isRead ends (by omega), Option.bind_eq_bind,
      Option.bind_some]
    simp only
    rw [skipSpace_append areBlank, skipSpace_cons (by decide)]
    rfl
  | cons second others hypothesis =>
    rw [List.forall_mem_cons] at each
    obtain ⟨⟨free, isRead⟩, later⟩ := each
    obtain ⟨less, rfl⟩ : ∃ less, fuel = less + 1 := ⟨fuel - 1, by omega⟩
    obtain ⟨spaces, isComma, areSpaces⟩ := between_eq readable level
    have two : writeItems layout level (second :: others) ≠ [] := by
      rw [writeItems]
      exact List.cons_ne_nil _ _
    rw [writeItems, joined_cons _ two, isComma, List.length_append, List.length_append,
      List.length_cons] at enough
    rw [writeItems, joined_cons _ two, isComma, List.append_assoc, List.append_assoc,
      List.cons_append, items?, (free.isOpen.append _).skipSpace_eq,
      isRead (stops_cons (.inl rfl)) (by omega), Option.bind_eq_bind, Option.bind_some]
    simp only
    rw [skipSpace_cons (by decide)]
    simp only
    rw [items?_append areSpaces, hypothesis later (by omega)]
    rfl

/-- An array is read if its items are. -/
theorem array_isRead (readable : IsReadable layout) {items : List Json}
    (each : ∀ item ∈ items, item.IsFloatFree ∧ IsRead layout item) : IsRead layout (.array items) := by
  intro level fuel rest _ enough
  obtain ⟨less, rfl⟩ : ∃ less, fuel = less + 1 := ⟨fuel - 1, by omega⟩
  cases items with
  | nil =>
    rw [writeAt, writeItems, toList_bracketed_nil]
    rfl
  | cons first others =>
    have some : writeItems layout (level + 1) (first :: others) ≠ [] := by
      rw [writeItems]
      exact List.cons_ne_nil _ _
    have isOpen : IsOpen (joined layout (level + 1)
        (writeItems layout (level + 1) (first :: others))) := by
      rw [writeItems]
      exact .joined (each first List.mem_cons_self).1.isOpen _
    have text : (writeAt layout level (.array (first :: others))).toList ++ rest =
        '[' :: ((lineStart layout (level + 1)).toList ++
          (joined layout (level + 1) (writeItems layout (level + 1) (first :: others)) ++
            ((lineStart layout level).toList ++ ']' :: rest))) := by
      have opens : "[".toList = ['['] := rfl
      have closes : "]".toList = [']'] := rfl
      rw [writeAt, bracketed_append opens closes some]
    have longer := congrArg List.length text
    simp only [List.length_append, List.length_cons] at longer
    rw [text, value?_array (isSpace_lineStart layout _) (isOpen.append _),
      items?_written readable each (isSpace_lineStart layout _) (by omega)]
    rfl

/-! #### Objects -/

/-- What is written of a member of an object. -/
def memberText (layout : JsonLayout) (level : Nat) (member : String × Json) : String :=
  encodeText layout.ascii member.1 ++ layout.colon ++ writeAt layout level member.2

/-- Members are written one by one. -/
theorem writeMembers_eq (members : List (String × Json)) :
    writeMembers layout level members = members.map (memberText layout level) := by
  induction members with
  | nil => rfl
  | cons first others hypothesis =>
    obtain ⟨name, json⟩ := first
    rw [writeMembers, hypothesis]
    rfl

/-- The text of a member: its name as a text, a colon and its value. -/
theorem toList_memberText (member : String × Json) : (memberText layout level member).toList =
    '"' :: (member.1.toList.flatMap (encodeChar layout.ascii) ++
      '"' :: (layout.colon.toList ++ (writeAt layout level member.2).toList)) := by
  rw [memberText, String.toList_append, String.toList_append, toList_encodeText]
  simp only [List.cons_append, List.append_assoc, List.nil_append]

theorem isOpen_memberText (member : String × Json) :
    IsOpen (memberText layout level member).toList :=
  ⟨'"', _, toList_memberText member, by decide⟩

/-- A member is read up to what comes after its value. -/
theorem members?_member (readable : IsReadable layout) {member : String × Json}
    (free : member.2.IsFloatFree) (isRead : IsRead layout member.2)
    {found : List (String × Json)} (stops : Stops rest)
    (enough : (memberText layout level member).toList.length ≤ fuel) :
    members? (fuel + 1) found ((memberText layout level member).toList ++ rest) =
      match skipSpace rest with
      | ',' :: rest => members? fuel (put found member.1 member.2) rest
      | '\x7d' :: rest => some (put found member.1 member.2, rest)
      | _ => none := by
  obtain ⟨blanks, isColon, areBlank⟩ := readable.colon
  have text : (memberText layout level member).toList ++ rest =
      '"' :: (member.1.toList.flatMap (encodeChar layout.ascii) ++
        '"' :: (':' :: (blanks ++ ((writeAt layout level member.2).toList ++ rest)))) := by
    rw [toList_memberText, isColon]
    simp only [List.cons_append, List.append_assoc]
  have longer := congrArg List.length text
  simp only [List.length_append, List.length_cons] at longer
  have opened (tail : List Char) : word? ['"'] (skipSpace ('"' :: tail)) = some tail := by
    rw [skipSpace_cons (by decide)]
    rfl
  have parted (tail : List Char) : word? [':'] (skipSpace (':' :: tail)) = some tail := by
    rw [skipSpace_cons (by decide)]
    rfl
  have valued : value? fuel (skipSpace (blanks ++ ((writeAt layout level member.2).toList ++ rest))) =
      some (member.2, rest) := by
    rw [skipSpace_append areBlank, (free.isOpen.append _).skipSpace_eq]
    exact isRead stops (by omega)
  rw [text]
  simp only [members?, opened, text?_encoded, parted, valued, Option.bind_eq_bind, Option.bind_some]
  rfl

/-- Among members of different names the next one is new. -/
theorem new_of_nodup {first : String × Json} {found others : List (String × Json)}
    (distinct : ((found ++ first :: others).map (·.1)).Nodup) : first.1 ∉ found.map (·.1) := by
  rw [List.map_append, List.map_cons] at distinct
  exact fun mem => (List.nodup_append.1 distinct).2.2 _ mem _ List.mem_cons_self rfl

/-- The members of an object are read up to the closing bracket. -/
theorem members?_written (readable : IsReadable layout) {first : String × Json}
    {others found : List (String × Json)}
    (each : ∀ member ∈ first :: others, member.2.IsFloatFree ∧ IsRead layout member.2)
    (distinct : ((found ++ first :: others).map (·.1)).Nodup)
    {blanks : List Char} (areBlank : ∀ blank ∈ blanks, isSpace blank = true)
    (enough : (joined layout level (writeMembers layout level (first :: others))).length < fuel) :
    members? fuel found (joined layout level (writeMembers layout level (first :: others)) ++
      (blanks ++ '\x7d' :: rest)) = some (found ++ first :: others, rest) := by
  induction others generalizing first found fuel with
  | nil =>
    obtain ⟨free, isRead⟩ := each first List.mem_cons_self
    obtain ⟨less, rfl⟩ : ∃ less, fuel = less + 1 := ⟨fuel - 1, by omega⟩
    rw [writeMembers_eq, List.map_singleton, joined_single] at enough ⊢
    have ends : Stops (blanks ++ '\x7d' :: rest) :=
      stops_blanks areBlank (stops_cons (.inr (.inr (.inl rfl))))
    rw [members?_member readable free isRead ends (by omega), skipSpace_append areBlank,
      skipSpace_cons (by decide), put_new (new_of_nodup distinct)]
    rfl
  | cons second others hypothesis =>
    rw [List.forall_mem_cons] at each
    obtain ⟨⟨free, isRead⟩, later⟩ := each
    obtain ⟨less, rfl⟩ : ∃ less, fuel = less + 1 := ⟨fuel - 1, by omega⟩
    obtain ⟨spaces, isComma, areSpaces⟩ := between_eq readable level
    have two : writeMembers layout level (second :: others) ≠ [] := by
      rw [writeMembers_eq]
      exact List.cons_ne_nil _ _
    have text : writeMembers layout level (first :: second :: others) =
        memberText layout level first :: writeMembers layout level (second :: others) := by
      rw [writeMembers_eq, writeMembers_eq, List.map_cons]
    rw [text, joined_cons _ two, isComma, List.length_append, List.length_append,
      List.length_cons] at enough
    rw [text, joined_cons _ two, isComma, List.append_assoc, List.append_assoc, List.cons_append,
      members?_member readable free isRead (stops_cons (.inl rfl)) (by omega),
      skipSpace_cons (by decide)]
    simp only
    have apart : (((found ++ [first]) ++ second :: others).map (·.1)).Nodup := by
      rwa [List.append_assoc]
    rw [members?_append areSpaces, put_new (new_of_nodup distinct),
      hypothesis later apart (by omega), List.append_assoc]
    rfl

/-- An object is read if its members are. -/
theorem object_isRead (readable : IsReadable layout) {members : List (String × Json)}
    (distinct : (members.map (·.1)).Nodup)
    (each : ∀ member ∈ members, member.2.IsFloatFree ∧ IsRead layout member.2) :
    IsRead layout (.object members) := by
  intro level fuel rest _ enough
  obtain ⟨less, rfl⟩ : ∃ less, fuel = less + 1 := ⟨fuel - 1, by omega⟩
  cases members with
  | nil =>
    rw [writeAt, writeMembers, toList_bracketed_nil]
    rfl
  | cons first others =>
    have some : writeMembers layout (level + 1) (first :: others) ≠ [] := by
      rw [writeMembers_eq]
      exact List.cons_ne_nil _ _
    have isOpen : IsOpen (joined layout (level + 1)
        (writeMembers layout (level + 1) (first :: others))) := by
      rw [writeMembers_eq]
      exact .joined (isOpen_memberText first) _
    have text : (writeAt layout level (.object (first :: others))).toList ++ rest =
        '\x7b' :: ((lineStart layout (level + 1)).toList ++
          (joined layout (level + 1) (writeMembers layout (level + 1) (first :: others)) ++
            ((lineStart layout level).toList ++ '\x7d' :: rest))) := by
      have opens : "\x7b".toList = ['\x7b'] := rfl
      have closes : "\x7d".toList = ['\x7d'] := rfl
      rw [writeAt, bracketed_append opens closes some]
    have longer := congrArg List.length text
    simp only [List.length_append, List.length_cons] at longer
    rw [text, value?_object (isSpace_lineStart layout _) (isOpen.append _),
      members?_written readable each distinct (isSpace_lineStart layout _) (by omega)]
    rfl

/-! #### All values -/

/-- What is written of a value is read as the value. -/
theorem IsFloatFree.isRead (readable : IsReadable layout) (free : json.IsFloatFree) :
    IsRead layout json := by
  induction free with
  | null =>
    intro level fuel rest _ enough
    obtain ⟨less, rfl⟩ : ∃ less, fuel = less + 1 := ⟨fuel - 1, by omega⟩
    rw [writeAt]
    rfl
  | bool value =>
    intro level fuel rest _ enough
    obtain ⟨less, rfl⟩ : ∃ less, fuel = less + 1 := ⟨fuel - 1, by omega⟩
    cases value <;> rw [writeAt] <;> rfl
  | int value =>
    intro level fuel rest stops enough
    obtain ⟨less, rfl⟩ : ∃ less, fuel = less + 1 := ⟨fuel - 1, by omega⟩
    obtain ⟨mark, others, written, starts⟩ := exists_sign_or_digit value
    have scalar : value? (less + 1) ((toString value).toList ++ rest) =
        scalar? ((toString value).toList ++ rest) := by
      rw [written]
      rcases starts with rfl | isDigit
      · exact value?_scalar (by decide) (by decide) (by decide)
      · refine value?_scalar ?_ ?_ ?_ <;> rintro rfl <;> exact absurd isDigit (by decide)
    rw [writeAt, scalar]
    exact scalar?_toString value stops
  | text value =>
    intro level fuel rest _ enough
    obtain ⟨less, rfl⟩ : ∃ less, fuel = less + 1 := ⟨fuel - 1, by omega⟩
    rw [writeAt, toList_encodeText, List.cons_append, List.append_assoc, value?_text]
    simp only [List.cons_append, List.nil_append]
    rw [text?_encoded]
    rfl
  | @array items each hypothesis =>
    exact array_isRead readable fun item mem => ⟨each item mem, hypothesis item mem⟩
  | @object members distinct each hypothesis =>
    exact object_isRead readable distinct fun member mem =>
      ⟨each member mem, hypothesis member mem⟩

end Values

section Whole

variable {layout : JsonLayout} {first second json : Json}

/-- **What is written of a value without floats is read as that value.** -/
theorem read?_write (readable : IsReadable layout) (free : json.IsFloatFree) :
    read? (json.write layout) = some json := by
  have visible : skipSpace (json.write layout).toList = (json.write layout).toList :=
    free.isOpen.skipSpace_eq
  have isRead : value? ((json.write layout).toList.length + 1) ((json.write layout).toList ++ []) =
      some (json, []) := free.isRead readable stops_nil (Nat.lt_succ_self _)
  rw [List.append_nil] at isRead
  simp only [read?, visible, isRead, Option.bind_eq_bind, Option.bind_some]
  rfl

/-- Where nothing follows that could go on with what is written, two texts are the same only if the
values are and the same follows. -/
theorem write_append_inj (readable : IsReadable layout) (free : first.IsFloatFree)
    (alsoFree : second.IsFloatFree) {rest tail : List Char} (stops : Stops rest)
    (alsoStops : Stops tail)
    (same : (first.write layout).toList ++ rest = (second.write layout).toList ++ tail) :
    first = second ∧ rest = tail := by
  -- Both are read with one and the same amount of fuel, so the two readings agree.
  obtain ⟨fuel, isFuel⟩ : ∃ fuel, fuel =
    (first.write layout).toList.length + (second.write layout).toList.length + 1 := ⟨_, rfl⟩
  have isRead : value? fuel ((first.write layout).toList ++ rest) = some (first, rest) :=
    free.isRead readable stops (by show (first.write layout).toList.length < fuel; omega)
  have alsoRead : value? fuel ((second.write layout).toList ++ tail) = some (second, tail) :=
    alsoFree.isRead readable alsoStops (by show (second.write layout).toList.length < fuel; omega)
  rw [same, alsoRead] at isRead
  have read := Option.some.inj isRead
  exact ⟨(Prod.mk.inj read).1.symm, (Prod.mk.inj read).2.symm⟩

end Whole

end Json

end Specimen
