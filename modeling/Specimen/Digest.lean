/-
**The SHA-256 digest.**

The message is padded with a one bit, zeros and its length, cut into blocks of sixteen words, and
the blocks are folded into eight chaining words. `sha256` gives the thirty-two digest bytes of a
list of bytes and `sha256Text` those of a text in UTF-8.
-/

namespace Specimen

namespace Sha256

/-- The sixty-four round constants. -/
def roundConstants : Array UInt32 := #[
  0x428a2f98, 0x71374491, 0xb5c0fbcf, 0xe9b5dba5, 0x3956c25b, 0x59f111f1, 0x923f82a4, 0xab1c5ed5,
  0xd807aa98, 0x12835b01, 0x243185be, 0x550c7dc3, 0x72be5d74, 0x80deb1fe, 0x9bdc06a7, 0xc19bf174,
  0xe49b69c1, 0xefbe4786, 0x0fc19dc6, 0x240ca1cc, 0x2de92c6f, 0x4a7484aa, 0x5cb0a9dc, 0x76f988da,
  0x983e5152, 0xa831c66d, 0xb00327c8, 0xbf597fc7, 0xc6e00bf3, 0xd5a79147, 0x06ca6351, 0x14292967,
  0x27b70a85, 0x2e1b2138, 0x4d2c6dfc, 0x53380d13, 0x650a7354, 0x766a0abb, 0x81c2c92e, 0x92722c85,
  0xa2bfe8a1, 0xa81a664b, 0xc24b8b70, 0xc76c51a3, 0xd192e819, 0xd6990624, 0xf40e3585, 0x106aa070,
  0x19a4c116, 0x1e376c08, 0x2748774c, 0x34b0bcb5, 0x391c0cb3, 0x4ed8aa4a, 0x5b9cca4f, 0x682e6ff3,
  0x748f82ee, 0x78a5636f, 0x84c87814, 0x8cc70208, 0x90befffa, 0xa4506ceb, 0xbef9a3f7, 0xc67178f2]

/-- The eight chaining words. -/
structure Chain where
  a : UInt32
  b : UInt32
  c : UInt32
  d : UInt32
  e : UInt32
  f : UInt32
  g : UInt32
  h : UInt32

/-- The chaining words before the first block. -/
def initial : Chain :=
  ⟨0x6a09e667, 0xbb67ae85, 0x3c6ef372, 0xa54ff53a, 0x510e527f, 0x9b05688c, 0x1f83d9ab, 0x5be0cd19⟩

/-- Rotation to the right. -/
def rotate (word count : UInt32) : UInt32 := (word >>> count) ||| (word <<< (32 - count))

/-- One round with the sum of its constant and its schedule word. -/
def round (chain : Chain) (word : UInt32) : Chain :=
  let sumOne := rotate chain.e 6 ^^^ rotate chain.e 11 ^^^ rotate chain.e 25
  let choice := (chain.e &&& chain.f) ^^^ ((~~~ chain.e) &&& chain.g)
  let first := chain.h + sumOne + choice + word
  let sumZero := rotate chain.a 2 ^^^ rotate chain.a 13 ^^^ rotate chain.a 22
  let majority := (chain.a &&& chain.b) ^^^ (chain.a &&& chain.c) ^^^ (chain.b &&& chain.c)
  let second := sumZero + majority
  ⟨first + second, chain.a, chain.b, chain.c, chain.d + first, chain.e, chain.f, chain.g⟩

/-- The next word of the message schedule. -/
def scheduleWord (words : Array UInt32) : UInt32 :=
  let back (count : Nat) : UInt32 := words[words.size - count]?.getD 0
  let zero := rotate (back 15) 7 ^^^ rotate (back 15) 18 ^^^ (back 15 >>> 3)
  let one := rotate (back 2) 17 ^^^ rotate (back 2) 19 ^^^ (back 2 >>> 10)
  back 16 + zero + back 7 + one

/-- The schedule of sixty-four words that starts with the sixteen words of a block. -/
def schedule (block : Array UInt32) : Array UInt32 :=
  (List.range 48).foldl (fun words _ => words.push (scheduleWord words)) block

/-- Folds one block of sixteen words into the chain. -/
def compress (chain : Chain) (block : Array UInt32) : Chain :=
  let words := (schedule block).zip roundConstants
  let last := words.foldl (fun state pair => round state (pair.1 + pair.2)) chain
  ⟨chain.a + last.a, chain.b + last.b, chain.c + last.c, chain.d + last.d, chain.e + last.e,
    chain.f + last.f, chain.g + last.g, chain.h + last.h⟩

/-- The `count` low bytes of a number, the most significant first. -/
def bigEndian (count value : Nat) : List UInt8 :=
  (List.range count).reverse.map fun place => UInt8.ofNat (value >>> (8 * place))

/-- The message followed by a one bit, zeros up to a whole block, and its length in bits. -/
def pad (message : List UInt8) : List UInt8 :=
  message ++ 0x80 :: List.replicate ((119 - message.length % 64) % 64) 0 ++
    bigEndian 8 (message.length * 8)

/-- The words of a byte string, four bytes to a word. -/
def words : List UInt8 → List UInt32
  | a :: b :: c :: d :: rest =>
    (a.toUInt32 <<< 24 ||| b.toUInt32 <<< 16 ||| c.toUInt32 <<< 8 ||| d.toUInt32) :: words rest
  | _ => []

/-- Folds whole blocks of words into the chain; `fuel` bounds their number. -/
def compressAll (chain : Chain) (text : List UInt32) : Nat → Chain
  | 0 => chain
  | fuel + 1 =>
    if text.isEmpty then chain
    else compressAll (compress chain (text.take 16).toArray) (text.drop 16) fuel

end Sha256

/-- The digest of a list of bytes. -/
def sha256 (message : List UInt8) : List UInt8 :=
  let text := Sha256.words (Sha256.pad message)
  let chain := Sha256.compressAll Sha256.initial text (text.length / 16)
  [chain.a, chain.b, chain.c, chain.d, chain.e, chain.f, chain.g, chain.h].flatMap fun word =>
    Sha256.bigEndian 4 word.toNat

/-- The hexadecimal text of bytes. -/
def hexText (bytes : List UInt8) : String :=
  String.ofList (bytes.flatMap fun byte =>
    [Nat.digitChar (byte.toNat / 16), Nat.digitChar (byte.toNat % 16)])

/-- The digest of a text in UTF-8. -/
def sha256Text (text : String) : List UInt8 := sha256 text.toUTF8.toList

end Specimen
