/-
**Quoted text.**

A text is quoted in single quotes, or in double quotes if it has single quotes and no double ones.
The quote, the backslash and whatever is not printable are escaped.
-/

import Specimen.Text.Printable

namespace Specimen

namespace Quoted

/-- A natural number in lower case hexadecimal, padded with zeros to a width. -/
def hexPadded (width value : Nat) : List Char :=
  let digits := Nat.toDigits 16 value
  List.replicate (width - digits.length) '0' ++ digits

/-- The escape of a character that is not printable: two, four or eight hexadecimal digits. -/
def escape (member : Char) : List Char :=
  let code := member.toNat
  if code < 0x100 then '\\' :: 'x' :: hexPadded 2 code
  else if code < 0x10000 then '\\' :: 'u' :: hexPadded 4 code
  else '\\' :: 'U' :: hexPadded 8 code

/-- One character between the given quotes. -/
def encodeChar (quote member : Char) : List Char :=
  if member == quote || member == '\\' then ['\\', member]
  else if member == '\n' then ['\\', 'n']
  else if member == '\r' then ['\\', 'r']
  else if member == '\t' then ['\\', 't']
  else if isPrintable member then [member]
  else escape member

/-- The quote that fits a text. -/
def quoteFor (text : List Char) : Char :=
  if text.contains '\'' && !text.contains '"' then '"' else '\''

end Quoted

/-- A text in quotes. -/
def quoted (text : String) : String :=
  let chars := text.toList
  let quote := Quoted.quoteFor chars
  String.ofList (quote :: chars.flatMap (Quoted.encodeChar quote) ++ [quote])

end Specimen
