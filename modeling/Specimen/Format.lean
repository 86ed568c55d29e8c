/-
**Formats of texts.**

The four formats that a text can be checked for: an address of electronic mail, a universally unique
identifier, a location with a scheme and an authority, and a date and time. The first two admit one
line break at the end.

Dates and times are read as release 3.11 of the platform reads them. Releases do not agree on which
locations they read, so what they do differently is left open by `LocationRules`.
-/

import Specimen.Calendar.Iso
import Specimen.Fault
import Specimen.Text.Blank

namespace Specimen

namespace Format

/-- The text without a line break at its end. -/
def withoutFinalBreak (text : List Char) : List Char :=
  if text.getLast? = some '\n' then text.dropLast else text

/-! ### Mail addresses -/

/-- Can the character stand in a part of a mail address? -/
def isAddressCharacter (member : Char) : Bool := !isBlank member && member != '@'

/-- Is there a dot with something before and after it? -/
def hasInnerDot (domain : List Char) : Bool := (domain.drop 1).dropLast.contains '.'

/-- Is this a mail address: a name, an at sign and a domain with a dot inside, without blanks? -/
def isEmail (text : String) : Bool :=
  let address := withoutFinalBreak text.toList
  let name := address.takeWhile (· != '@')
  match address.dropWhile (· != '@') with
  | [] => false
  | _ :: domain =>
    !name.isEmpty && name.all isAddressCharacter && domain.all isAddressCharacter &&
      hasInnerDot domain

/-! ### Identifiers -/

/-- Is the character a hexadecimal digit? -/
def isHexDigit (member : Char) : Bool :=
  member.isDigit || ('a' ≤ member && member ≤ 'f') || ('A' ≤ member && member ≤ 'F')

/-- Does the text consist of hexadecimal digits in groups of the given lengths, joined by hyphens?
-/
def inGroups : List Nat → List Char → Bool
  | [], _ => false
  | [length], text => text.length == length && text.all isHexDigit
  | length :: lengths, text =>
    (text.take length).length == length && (text.take length).all isHexDigit &&
      (text.drop length).head? == some '-' && inGroups lengths (text.drop (length + 1))

/-- Is this a universally unique identifier? -/
def isUuid (text : String) : Bool :=
  inGroups [8, 4, 4, 4, 12] (withoutFinalBreak text.toList)

/-! ### Locations -/

/-- Is the character an ASCII letter? -/
def isLetter (member : Char) : Bool :=
  ('a' ≤ member && member ≤ 'z') || ('A' ≤ member && member ≤ 'Z')

/-- Can the character stand in a scheme? -/
def isSchemeCharacter (member : Char) : Bool :=
  isLetter member || member.isDigit || member == '+' || member == '-' || member == '.'

/-- Does the character end the authority of a location? -/
def endsAuthority (member : Char) : Bool := member == '/' || member == '?' || member == '#'

/-- Does the character stand for others of which one would split an authority? -/
def hidesDelimiter (member : Char) : Bool :=
  [0x2047, 0x2048, 0x2049, 0x2100, 0x2101, 0x2105, 0x2106, 0x2A74, 0xFE13, 0xFE16, 0xFE55, 0xFE56,
    0xFE5F, 0xFE6B, 0xFF03, 0xFF0F, 0xFF1A, 0xFF1F, 0xFF20].contains member.toNat

/-- The authority at the start of a text: what follows two slashes. -/
def authorityOf : List Char → List Char
  | '/' :: '/' :: rest => rest.takeWhile fun member => !endsAuthority member
  | _ => []

/-- What releases of the platform do differently when they read a location. -/
class LocationRules where
  /-- Is the character dropped at the start of a location? -/
  isLeading : Char → Bool
  /-- Is the character dropped wherever it stands? -/
  isDropped : Char → Bool
  /-- Can the character come first in a scheme? -/
  startsScheme : Char → Bool
  /-- Is an authority refused for what stands between its brackets? -/
  refuses : List Char → Bool

/-- The rules of release 3.11.2. From release 3.11.4 on, blanks and control characters are dropped
at the start, and only addresses may stand between brackets. -/
instance : LocationRules where
  isLeading _ := false
  isDropped member := member == '\t' || member == '\r' || member == '\n'
  startsScheme := isLetter
  refuses _ := false

section Locations

variable [LocationRules]

/-- Is this a scheme: a character that may come first, then letters, digits and some marks? -/
def isScheme : List Char → Bool
  | [] => false
  | first :: rest => LocationRules.startsScheme first && rest.all isSchemeCharacter

/-- Is this no authority at all: with a bracket that has no counterpart, with something between
brackets that is refused, or with a hidden delimiter? -/
def isBrokenAuthority (authority : List Char) : Bool :=
  authority.contains '[' != authority.contains ']' || LocationRules.refuses authority ||
    authority.any hidesDelimiter

/-- The scheme of a location, empty if it has none, and the text after it. -/
def splitScheme (text : List Char) : List Char × List Char :=
  let scheme := text.takeWhile (· != ':')
  if scheme.length < text.length && isScheme scheme then (scheme, text.drop (scheme.length + 1))
  else ([], text)

/-- Is this a location with a scheme and an authority? A broken authority is outside the domain. -/
def isUrl (text : String) : Except Fault Bool :=
  let kept := (text.toList.dropWhile LocationRules.isLeading).filter fun member =>
    !LocationRules.isDropped member
  let (scheme, rest) := splitScheme kept
  let authority := authorityOf rest
  if isBrokenAuthority authority then .error .outOfDomain
  else .ok (!scheme.isEmpty && !authority.isEmpty)

end Locations

/-! ### Dates -/

/-- The text with every mark of universal time written as an offset. -/
def spellOffset (text : String) : String :=
  String.ofList (text.toList.flatMap fun member =>
    if member == 'Z' then "+00:00".toList else [member])

/-- Is this a date and time? -/
def isDateTime (text : String) : Bool := (Moment.ofIso? (spellOffset text)).isSome

end Format

end Specimen
