/-
**Seeds and fingerprints.**

A seed is an integer or a sequence of integers; `Seed.toInteger` folds a sequence into 64 bits of a
digest of its decimal text. `fingerprint` names a list of values by sixteen hexadecimal digits of a
digest of their JSON text. `normalizedKey` is the form in which names of fields are compared.
-/

import Specimen.Digest
import Specimen.Text.Case
import Specimen.Value.Convert
import Specimen.Value.Json

namespace Specimen

namespace Seed

/-- The text of a sequence of integers: their decimal texts, joined by colons. -/
def sequenceText (parts : List Int) : String := ":".intercalate (parts.map toString)

/-- The first eight bytes of a digest as a number, most significant first. -/
def leadingNumber (digest : List UInt8) : Nat :=
  (digest.take 8).foldl (fun total byte => total * 256 + byte.toNat) 0

/-- The number that a sequence of integers is folded to. -/
def ofSequence (parts : List Int) : Int := leadingNumber (sha256Text (sequenceText parts))

/-- The integer of a seed. -/
def toInteger : Value → Except Fault Int
  | .bool _ => .error (.misuse .seedOfWrongType)
  | .int value => .ok value
  | value => do
    let parts ← (← value.items).mapM Value.toInteger
    pure (ofSequence parts)

end Seed

/-- The text whose digest names a list of values. -/
def fingerprintText (parts : List Value) : Except Fault String := do
  pure ((← (Value.list parts).encode).write .compact)

/-- Sixteen hexadecimal digits that name a list of values. -/
def fingerprint (parts : List Value) : Except Fault String := do
  pure (hexText ((sha256Text (← fingerprintText parts)).take 8))

/-- Does the character separate the words of a name? -/
def isSeparator (member : Char) : Bool := member == '_' || member == '-' || isBlank member

/-- A name in lower case without separators. -/
def normalizedKey (name : String) : String :=
  String.ofList ((lowerCase name).toList.filter fun member => !isSeparator member)

end Specimen
