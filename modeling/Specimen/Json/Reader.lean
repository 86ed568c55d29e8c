/-
**Reading JSON.**

A reader for the JSON grammar, with the three names `NaN`, `Infinity` and `-Infinity` for the
numbers that have no decimal form. Members of an object keep their order; a name that comes again
keeps its place and takes the later value. A number with a fraction or an exponent is a binary64
number, any other an integer. A text with a surrogate that is not one of a pair is not read, since
it is no sequence of Unicode scalar values.

Each reader takes the text at its start and gives what it read and the rest of the text.
-/

import Specimen.Json

namespace Specimen

namespace Json

/-- Is the character white space between JSON tokens? -/
def isSpace (member : Char) : Bool :=
  member == ' ' || member == '\t' || member == '\n' || member == '\r'

/-- The text after the white space at its start. -/
def skipSpace (input : List Char) : List Char := input.dropWhile isSpace

/-- The text after a word at its start. -/
def word? (word input : List Char) : Option (List Char) :=
  if word.isPrefixOf input then some (input.drop word.length) else none

/-! ### Texts -/

/-- The value of a hexadecimal digit. -/
def hexDigit? (digit : Char) : Option Nat :=
  let code := digit.toNat
  if digit.isDigit then some (code - '0'.toNat)
  else if 'a' ≤ digit ∧ digit ≤ 'f' then some (code - 'a'.toNat + 10)
  else if 'A' ≤ digit ∧ digit ≤ 'F' then some (code - 'A'.toNat + 10)
  else none

/-- Reads a code unit of four hexadecimal digits. -/
def unit? : List Char → Option (Nat × List Char)
  | a :: b :: c :: d :: rest => do
    let (a, b, c, d) := (← hexDigit? a, ← hexDigit? b, ← hexDigit? c, ← hexDigit? d)
    pure (((a * 16 + b) * 16 + c) * 16 + d, rest)
  | _ => none

/-- The character of a code unit, joined with a second one in the text where the two are a surrogate
pair; a surrogate alone is no character. -/
def unitChar? (unit : Nat) (rest : List Char) : Option (Char × List Char) :=
  if 0xD800 ≤ unit ∧ unit < 0xDC00 then
    match rest with
    | '\\' :: 'u' :: tail => do
      let (low, tail) ← unit? tail
      if 0xDC00 ≤ low ∧ low < 0xE000 then
        pure (Char.ofNat (0x10000 + (unit - 0xD800) * 0x400 + (low - 0xDC00)), tail)
      else none
    | _ => none
  else if 0xDC00 ≤ unit ∧ unit < 0xE000 then none
  else some (Char.ofNat unit, rest)

/-- The character of a one-letter escape. -/
def escaped? : Char → Option Char
  | '"' => some '"'
  | '\\' => some '\\'
  | '/' => some '/'
  | 'b' => some (Char.ofNat 8)
  | 'f' => some (Char.ofNat 12)
  | 'n' => some '\n'
  | 'r' => some '\r'
  | 't' => some '\t'
  | _ => none

/-- Reads the rest of a text up to its closing quote; `fuel` bounds the number of characters. -/
def textBody? : Nat → List Char → Option (List Char × List Char)
  | 0, _ => none
  | fuel + 1, input =>
    match input with
    | [] => none
    | '"' :: rest => some ([], rest)
    | '\\' :: 'u' :: rest => do
      let (unit, rest) ← unit? rest
      let (member, rest) ← unitChar? unit rest
      let (others, rest) ← textBody? fuel rest
      pure (member :: others, rest)
    | '\\' :: mark :: rest => do
      let member ← escaped? mark
      let (others, rest) ← textBody? fuel rest
      pure (member :: others, rest)
    | member :: rest =>
      if member.toNat < 32 then none
      else do
        let (others, rest) ← textBody? fuel rest
        pure (member :: others, rest)

/-- Reads a text after its opening quote. -/
def text? (input : List Char) : Option (String × List Char) := do
  let (members, rest) ← textBody? (input.length + 1) input
  pure (String.ofList members, rest)

/-! ### Numbers -/

/-- Reads an exponent, if there is one at the start of the text. -/
def exponent (input : List Char) : List Char × List Char :=
  match input with
  | mark :: rest =>
    if mark == 'e' || mark == 'E' then
      let sign := match rest with
        | '-' :: _ => ['-']
        | '+' :: _ => ['+']
        | _ => []
      let digits := (rest.drop sign.length).takeWhile Char.isDigit
      if digits.isEmpty then ([], input)
      else ('e' :: sign ++ digits, rest.drop (sign.length + digits.length))
    else ([], input)
  | [] => ([], input)

/-- Reads a fraction, if there is one at the start of the text. -/
def fraction (input : List Char) : List Char × List Char :=
  match input with
  | '.' :: rest =>
    let digits := rest.takeWhile Char.isDigit
    if digits.isEmpty then ([], input) else ('.' :: digits, rest.drop digits.length)
  | _ => ([], input)

/-- Reads a number without its sign. -/
def number? (negative : Bool) (input : List Char) : Option (Json × List Char) :=
  let digits := input.takeWhile Char.isDigit
  let whole := if digits.head? == some '0' then ['0'] else digits
  if whole.isEmpty then none
  else
    let (tenths, rest) := fraction (input.drop whole.length)
    let (power, rest) := exponent rest
    if tenths.isEmpty && power.isEmpty then
      let value : Int := Binary64.digitsValue whole
      some (.int (if negative then -value else value), rest)
    else do
      let value ← Binary64.ofUnsignedText? negative (whole ++ tenths ++ power)
      pure (.float value, rest)

/-! ### Values -/

/-- Reads a value that is neither a text nor a collection. -/
def scalar? (input : List Char) : Option (Json × List Char) :=
  match input with
  | 'n' :: _ => (word? "null".toList input).map fun rest => (.null, rest)
  | 't' :: _ => (word? "true".toList input).map fun rest => (.bool true, rest)
  | 'f' :: _ => (word? "false".toList input).map fun rest => (.bool false, rest)
  | 'N' :: _ => (word? "NaN".toList input).map fun rest => (.float (.nan 0), rest)
  | 'I' :: _ => (word? "Infinity".toList input).map fun rest => (.float (.infinite false), rest)
  | '-' :: 'I' :: _ =>
    (word? "-Infinity".toList input).map fun rest => (.float (.infinite true), rest)
  | '-' :: rest => number? true rest
  | _ => number? false input

mutual

/-- Reads a value; `fuel` bounds the nesting and the number of items. -/
def value? : Nat → List Char → Option (Json × List Char)
  | 0, _ => none
  | fuel + 1, input =>
    match input with
    | '"' :: rest => (text? rest).map fun read => (.text read.1, read.2)
    | '[' :: rest =>
      match skipSpace rest with
      | ']' :: rest => some (.array [], rest)
      | rest => (items? fuel rest).map fun read => (.array read.1, read.2)
    | '\x7b' :: rest =>
      match skipSpace rest with
      | '\x7d' :: rest => some (.object [], rest)
      | rest => (members? fuel [] rest).map fun read => (.object read.1, read.2)
    | _ => scalar? input

/-- Reads the items of an array up to its closing bracket. -/
def items? : Nat → List Char → Option (List Json × List Char)
  | 0, _ => none
  | fuel + 1, input => do
    let (item, rest) ← value? fuel (skipSpace input)
    match skipSpace rest with
    | ',' :: rest =>
      let (items, rest) ← items? fuel rest
      pure (item :: items, rest)
    | ']' :: rest => pure ([item], rest)
    | _ => none

/-- Reads the members of an object up to its closing bracket, after those found already. -/
def members? : Nat → List (String × Json) → List Char → Option (List (String × Json) × List Char)
  | 0, _, _ => none
  | fuel + 1, found, input => do
    let rest ← word? ['"'] (skipSpace input)
    let (name, rest) ← text? rest
    let rest ← word? [':'] (skipSpace rest)
    let (value, rest) ← value? fuel (skipSpace rest)
    let found := Json.put found name value
    match skipSpace rest with
    | ',' :: rest => members? fuel found rest
    | '\x7d' :: rest => pure (found, rest)
    | _ => none

end

/-- Reads a whole text as a JSON value. -/
def read? (input : String) : Option Json := do
  let chars := skipSpace input.toList
  let (value, rest) ← value? (chars.length + 1) chars
  if (skipSpace rest).isEmpty then pure value else none

end Json

end Specimen
