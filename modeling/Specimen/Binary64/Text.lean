/-
**The shortest text of a binary64 number.**

A finite number is written with the fewest significant digits that read back as the same number,
and of those digits the ones nearest to its value. `Binary64.shortest` searches the decimal grids
of one to seventeen digits and tests the two neighbours of the value on each; `Binary64.toText`
places the point: positional between `1e-4` and `1e16`, with an exponent outside.
-/

import Specimen.Binary64

namespace Specimen

namespace Binary64

/-! ### Digits -/

/-- The decimal digits of a natural number. -/
def decimalDigits (value : Nat) : List Char := Nat.toDigits 10 value

/-- The `point` with `10 ^ (point - 1) ≤ num / den < 10 ^ point`, for a positive ratio. -/
def decimalPoint (num den : Nat) : Int :=
  if den ≤ num then (decimalDigits (num / den)).length
  else 1 - ((decimalDigits ((den - 1) / num)).length : Int)

/-- The ratio `digits · 10 ^ power`. -/
def decimalRatio (digits : Nat) (power : Int) : Nat × Nat :=
  if power < 0 then (digits, Nat.pow 10 (-power).toNat) else (digits * Nat.pow 10 power.toNat, 1)

/-- The number nearest to `± digits · 10 ^ power`. -/
def ofDecimal (negative : Bool) (digits : Nat) (power : Int) : Binary64 :=
  if digits = 0 then zero negative
  else
    let point := (decimalDigits digits).length + power
    if 400 < point then .infinite negative
    else if point < -400 then zero negative
    else
      let ratio := decimalRatio digits power
      ofRatio negative ratio.1 ratio.2

/-- Of the two neighbours of `num / den` on the grid of `10 ^ power`, the nearest one that reads
back as `number`. -/
def gridHit? (number : Binary64) (num den : Nat) (power : Int) : Option Nat :=
  let scaled := if power < 0 then (num * Nat.pow 10 (-power).toNat, den)
    else (num, den * Nat.pow 10 power.toNat)
  let below := scaled.1 / scaled.2
  let readsBack (digits : Nat) : Bool := ofDecimal false digits power == number
  let nearest := roundDiv scaled.1 scaled.2
  let other := if nearest = below then below + 1 else below
  if readsBack nearest then some nearest else if readsBack other then some other else none

/-- The first grid of at most `fuel` finer ones that has a hit: digits and power of ten. -/
def searchGrids (number : Binary64) (num den : Nat) (point : Int) : Nat → Nat → Nat × Int
  | 0, count => (roundDiv num den, point - count)
  | fuel + 1, count =>
    match gridHit? number num den (point - count) with
    | some digits => (digits, point - count)
    | none => searchGrids number num den point fuel (count + 1)

/-- The shortest decimal `digits · 10 ^ power` that reads back as a positive finite number. -/
def shortest (significand : Nat) (exponent : Int) : Nat × Int :=
  let number := Binary64.finite false significand exponent
  let value := number.toRat
  let num := value.num.natAbs
  searchGrids number num value.den (decimalPoint num value.den) 17 1

/-! ### Writing -/

/-- A digit string without its trailing zeros. -/
def dropTrailingZeros (digits : List Char) : List Char :=
  (digits.reverse.dropWhile (· == '0')).reverse

/-- The text of `0.digits · 10 ^ point`: positional when the point lies near the digits, with an
exponent of at least two digits otherwise. -/
def placePoint (digits : List Char) (point : Int) : List Char :=
  if -4 < point ∧ point ≤ 16 then
    if point ≤ 0 then
      ['0', '.'] ++ List.replicate (-point).toNat '0' ++ digits
    else
      let whole := point.toNat
      let padded := digits ++ List.replicate (whole - digits.length) '0'
      let fraction := padded.drop whole
      padded.take whole ++ '.' :: (if fraction.isEmpty then ['0'] else fraction)
  else
    let exponent := point - 1
    let width := decimalDigits exponent.natAbs
    let head := match digits with
      | [] => ['0']
      | [digit] => [digit]
      | digit :: rest => digit :: '.' :: rest
    head ++ 'e' :: (if exponent < 0 then '-' else '+') ::
      (if width.length < 2 then '0' :: width else width)

/-- The shortest text that reads back as the number. -/
def toText : Binary64 → String
  | .nan _ => "nan"
  | .infinite negative => if negative then "-inf" else "inf"
  | .finite negative significand exponent =>
    let sign := if negative then ['-'] else []
    if significand = 0 then String.ofList (sign ++ ['0', '.', '0'])
    else
      let decimal := shortest significand exponent
      let digits := decimalDigits decimal.1
      let point : Int := digits.length + decimal.2
      String.ofList (sign ++ placePoint (dropTrailingZeros digits) point)

/-! ### Reading -/

/-- The value of a digit string. -/
def digitsValue (digits : List Char) : Nat :=
  digits.foldl (fun total digit => total * 10 + (digit.toNat - '0'.toNat)) 0

/-- The number written as digits, an optional fraction and an optional exponent; nothing if the
text has another form. -/
def ofUnsignedText? (negative : Bool) (text : List Char) : Option Binary64 :=
  let whole := text.takeWhile Char.isDigit
  let rest := text.dropWhile Char.isDigit
  let fraction := match rest with
    | '.' :: tail => tail.takeWhile Char.isDigit
    | _ => []
  let tail := match rest with
    | '.' :: tail => tail.dropWhile Char.isDigit
    | other => other
  if (whole ++ fraction).isEmpty then none
  else
    let finish (exponent : Int) : Binary64 :=
      ofDecimal negative (digitsValue (whole ++ fraction)) (exponent - fraction.length)
    match tail with
    | [] => some (finish 0)
    | mark :: exponent =>
      let signed := match exponent with
        | '-' :: digits => (true, digits)
        | '+' :: digits => (false, digits)
        | digits => (false, digits)
      if (mark == 'e' || mark == 'E') && !signed.2.isEmpty && signed.2.all Char.isDigit then
        let size : Int := digitsValue signed.2
        some (finish (if signed.1 then -size else size))
      else none

/-- The number that a text denotes: a decimal with optional sign, `inf`, `-inf` or `nan`. -/
def ofText? (text : String) (payload : Nat) : Option Binary64 :=
  match text with
  | "nan" => some (.nan payload)
  | "inf" => some (.infinite false)
  | "-inf" => some (.infinite true)
  | _ =>
    match text.toList with
    | '-' :: rest => ofUnsignedText? true rest
    | '+' :: rest => ofUnsignedText? false rest
    | rest => ofUnsignedText? false rest

end Binary64

end Specimen
