/-
**The random number generator.**

A Mersenne twister of 624 words of 32 bits. `Twister.ofKey` mixes a key of words into the state,
`Twister.next` yields one tempered word, and everything else is built from words:

* `Twister.bits` draws any number of bits;
* `Twister.unit` draws a number of 53 bits, to be read as a fraction of `2 ^ 53`;
* `Twister.below` draws a number below a bound by rejection.
-/

namespace Specimen

/-- A generator: the state words and the place of the next one. -/
structure Twister where
  words : Array UInt32
  place : Nat

namespace Twister

/-- The number of state words. -/
def size : Nat := 624

/-- How far ahead a word is mixed with another. -/
def shift : Nat := 397

/-- A state word. -/
def word (words : Array UInt32) (index : Nat) : UInt32 := words[index]?.getD 0

/-! ### Seeding -/

/-- The state grown from one word. -/
def ofWord (seed : UInt32) : Array UInt32 :=
  (List.range (size - 1)).foldl
    (fun words index =>
      let last := word words index
      words.push ((1812433253 : UInt32) * (last ^^^ (last >>> 30)) + UInt32.ofNat (index + 1)))
    #[seed]

/-- Moves to the next place, carrying the last word around to the front at the end. -/
def advance (words : Array UInt32) (index : Nat) : Array UInt32 × Nat :=
  if size ≤ index + 1 then (words.setIfInBounds 0 (word words (size - 1)), 1)
  else (words, index + 1)

/-- One step of the first mixing pass, which adds a key word and its place. -/
def mixKey (key : Array UInt32) (state : Array UInt32 × Nat × Nat) : Array UInt32 × Nat × Nat :=
  let (words, index, place) := state
  let last := word words (index - 1)
  let mixed := (word words index ^^^ ((last ^^^ (last >>> 30)) * 1664525)) + word key place +
    UInt32.ofNat place
  let (words, index) := advance (words.setIfInBounds index mixed) index
  (words, index, if key.size ≤ place + 1 then 0 else place + 1)

/-- One step of the second mixing pass, which takes the place of the word away. -/
def mixPlace (state : Array UInt32 × Nat) : Array UInt32 × Nat :=
  let (words, index) := state
  let last := word words (index - 1)
  let mixed := (word words index ^^^ ((last ^^^ (last >>> 30)) * 1566083941)) - UInt32.ofNat index
  advance (words.setIfInBounds index mixed) index

/-- Applies a step a number of times. -/
def repeatStep {State : Type} (step : State → State) : Nat → State → State
  | 0, state => state
  | count + 1, state => repeatStep step count (step state)

/-- The generator of a key of at least one word. -/
def ofKey (key : Array UInt32) : Twister :=
  let (words, index, _) :=
    repeatStep (mixKey key) (max size key.size) (ofWord 19650218, 1, 0)
  let (words, _) := repeatStep mixPlace (size - 1) (words, index)
  ⟨words.setIfInBounds 0 0x80000000, size⟩

/-- The words of a natural number, least significant first; `fuel` bounds their number. -/
def keyWords : Nat → Nat → List UInt32
  | 0, _ => []
  | fuel + 1, value => if value = 0 then [] else
    UInt32.ofNat (value % 2 ^ 32) :: keyWords fuel (value / 2 ^ 32)

/-- The generator of an integer seed, which depends on its absolute value only. -/
def ofSeed (seed : Int) : Twister :=
  let value := seed.natAbs
  let words := keyWords (value.log2 / 32 + 1) value
  ofKey (if words.isEmpty then #[0] else words.toArray)

/-! ### Drawing words -/

/-- Recomputes one state word from its successors. -/
def twistAt (words : Array UInt32) (index : Nat) : Array UInt32 :=
  let joined := (word words index &&& 0x80000000) |||
    (word words ((index + 1) % size) &&& 0x7fffffff)
  let odd : UInt32 := if joined &&& 1 = 0 then 0 else 0x9908b0df
  words.setIfInBounds index (word words ((index + shift) % size) ^^^ (joined >>> 1) ^^^ odd)

/-- Recomputes all state words in order. -/
def twist (words : Array UInt32) : Array UInt32 := (List.range size).foldl twistAt words

/-- Spreads the bits of a state word. -/
def temper (word : UInt32) : UInt32 :=
  let word := word ^^^ (word >>> 11)
  let word := word ^^^ ((word <<< 7) &&& 0x9d2c5680)
  let word := word ^^^ ((word <<< 15) &&& 0xefc60000)
  word ^^^ (word >>> 18)

/-- Draws one word. -/
def next (twister : Twister) : UInt32 × Twister :=
  let twister := if size ≤ twister.place then ⟨twist twister.words, 0⟩ else twister
  (temper (word twister.words twister.place), { twister with place := twister.place + 1 })

/-! ### Drawing numbers -/

/-- Draws `count` bits: whole words from the least significant on, the last one cut to what is left
by dropping its low bits. -/
def bitsFrom (twister : Twister) : Nat → Nat → Nat × Twister
  | 0, _ => (0, twister)
  | fuel + 1, count =>
    let (drawn, twister) := twister.next
    if count ≤ 32 then (drawn.toNat >>> (32 - count), twister)
    else
      let (high, twister) := bitsFrom twister fuel (count - 32)
      (drawn.toNat + 2 ^ 32 * high, twister)

/-- Draws a number of `count` bits; no draw is made for no bits. -/
def bits (twister : Twister) (count : Nat) : Nat × Twister :=
  if count = 0 then (0, twister) else bitsFrom twister ((count + 31) / 32) count

/-- Draws a number of 53 bits. -/
def unit (twister : Twister) : Nat × Twister :=
  let (high, twister) := twister.next
  let (low, twister) := twister.next
  ((high >>> 5).toNat * 67108864 + (low >>> 6).toNat, twister)

/-- The number of bits of a natural number. -/
def bitLength (value : Nat) : Nat := if value = 0 then 0 else value.log2 + 1

/-- Draws numbers of `count` bits until one is below the bound. After `fuel` draws the remainder of
the last one is taken. -/
def rejectFrom (bound count : Nat) : Nat → Twister → Nat × Twister
  | 0, twister =>
    let (drawn, twister) := twister.bits count
    (drawn % bound, twister)
  | fuel + 1, twister =>
    let (drawn, twister) := twister.bits count
    if drawn < bound then (drawn, twister) else rejectFrom bound count fuel twister

/-- The number of rejections after which a draw is forced. Each draw is rejected with probability
at most one half. -/
def rejectionLimit : Nat := 100000

/-- Draws a number below a positive bound. -/
def below (twister : Twister) (bound : Nat) : Nat × Twister :=
  rejectFrom bound (bitLength bound) rejectionLimit twister

end Twister

end Specimen
