/-
**Sets of characters as ranges of code points.**

A character property of a standard is a table: a text of hexadecimal ranges separated by blanks,
`first-last` or a single code point. `CharRanges.ofText` reads such a text and
`CharRanges.contains` looks a character up.
-/

namespace Specimen

/-- A set of characters, as inclusive ranges of code points. -/
structure CharRanges where
  ranges : Array (Nat × Nat)

namespace CharRanges

/-- The value of a hexadecimal digit string, upper case. -/
def hexValue (digits : List Char) : Nat :=
  digits.foldl
    (fun total digit =>
      total * 16 +
        (if digit.isDigit then digit.toNat - '0'.toNat else digit.toNat - 'A'.toNat + 10))
    0

/-- One entry of a table: a range or a single code point. -/
def entryOfText (entry : List Char) : Nat × Nat :=
  let first := hexValue (entry.takeWhile (· != '-'))
  match entry.dropWhile (· != '-') with
  | [] => (first, first)
  | _ :: last => (first, hexValue last)

/-- Splits a text at its blanks, dropping empty pieces. -/
def pieces (text : List Char) : List (List Char) :=
  let step (state : List (List Char) × List Char) (next : Char) :=
    if next == ' ' || next == '\n' then
      (if state.2.isEmpty then state.1 else state.2.reverse :: state.1, [])
    else (state.1, next :: state.2)
  let final := text.foldl step ([], [])
  (if final.2.isEmpty then final.1 else final.2.reverse :: final.1).reverse

/-- Reads a table of ranges. -/
def ofText (text : String) : CharRanges where
  ranges := ((pieces text.toList).map entryOfText).toArray

/-- Is the character in the set? -/
def contains (table : CharRanges) (member : Char) : Bool :=
  table.ranges.any fun range => range.1 ≤ member.toNat && member.toNat ≤ range.2

/-- The range that holds the character. -/
def rangeOf? (table : CharRanges) (member : Char) : Option (Nat × Nat) :=
  table.ranges.find? fun range => range.1 ≤ member.toNat && member.toNat ≤ range.2

end CharRanges

end Specimen
