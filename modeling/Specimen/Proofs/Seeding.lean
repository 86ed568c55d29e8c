/-
**Which seeds give the same stream.**

A generator is made of the words of a seed in two passes over its state. A step of a pass replaces
one word and goes on to the next place (`replaceWord`). Every step of the second pass can be taken
back (`agree_of_stirred`), and what the first pass leaves tells what it added at every step
(`word_grown_next`, `addend_of_grown`): the word of the key whose turn it was, and the place of that
word. So keys of one or two words give the same stream exactly if the same was added
(`stream_ofKey_eq_iff`).

The place is added to the word, so the key of one word and the key of the same word and the word
before it cannot be told apart. Two seeds of 64 bits give the same stream exactly if they are the
same or such twins (`stream_ofSeed_eq_iff`).
-/

import Mathlib.Algebra.Group.Nat.Defs
import Specimen.Proofs.DrawnWords

namespace Specimen

namespace Twister

/-! ### One step of a pass -/

/-- Replaces the word at a place and goes on to the next place. -/
def replaceWord (words : Array UInt32) (index : Nat) (value : UInt32) : Array UInt32 × Nat :=
  advance (words.setIfInBounds index value) index

section Replace

variable {words : Array UInt32} {index place : Nat} {value : UInt32}

theorem size_replaceWord (words : Array UInt32) (index : Nat) (value : UInt32) :
    (replaceWord words index value).1.size = words.size := by
  unfold replaceWord advance
  split
  · exact Array.size_setIfInBounds.trans Array.size_setIfInBounds
  · exact Array.size_setIfInBounds

theorem index_replaceWord (words : Array UInt32) (index : Nat) (value : UInt32) :
    (replaceWord words index value).2 = if size ≤ index + 1 then 1 else index + 1 := by
  unfold replaceWord advance
  split <;> rfl

variable (full : words.size = size)

include full

theorem size_pos_replaced (index : Nat) (value : UInt32) :
    0 < (words.setIfInBounds index value).size := by
  rw [Array.size_setIfInBounds, full]
  decide

/-- At the end the first word becomes the last one. -/
theorem first_replaceWord (last : size ≤ index + 1) :
    word (replaceWord words index value).1 0 =
      word (replaceWord words index value).1 (size - 1) := by
  have first := size_pos_replaced full index value
  rw [replaceWord, advance, if_pos last, word_setIfInBounds first, word_setIfInBounds first,
    if_pos rfl, if_neg (by decide)]

/-- Behind the first word only the replaced one changes. -/
theorem word_replaceWord (inside : index < size) (behind : 0 < place) :
    word (replaceWord words index value).1 place =
      if place = index then value else word words place := by
  have bound : index < words.size := full ▸ inside
  unfold replaceWord advance
  split
  · rw [word_setIfInBounds (size_pos_replaced full index value), if_neg (Nat.ne_of_gt behind),
      word_setIfInBounds bound]
  · exact word_setIfInBounds bound value place

end Replace

/-! ### The first pass -/

/-- What a pass takes of the word in front. -/
def spread (word : UInt32) : UInt32 := word ^^^ (word >>> 30)

/-- What the first pass adds at a place of the key. -/
def addend (key : Array UInt32) (place : Nat) : UInt32 := word key place + UInt32.ofNat place

/-- What the first pass makes of a word. -/
def keyed (key words : Array UInt32) (index place : Nat) : UInt32 :=
  (word words index ^^^ spread (word words (index - 1)) * 1664525) + addend key place

theorem mixKey_eq (key words : Array UInt32) (index place : Nat) :
    mixKey key (words, index, place) =
      ((replaceWord words index (keyed key words index place)).1,
        (replaceWord words index (keyed key words index place)).2,
        if key.size ≤ place + 1 then 0 else place + 1) := by
  rw [keyed, addend, ← UInt32.add_assoc]
  rfl

/-- The words of the first pass after a number of steps. -/
def grown (key : Array UInt32) : Nat → Array UInt32
  | 0 => ofWord 19650218
  | count + 1 =>
    (replaceWord (grown key count) (count % (size - 1) + 1)
      (keyed key (grown key count) (count % (size - 1) + 1) (count % key.size))).1

theorem size_ofWord (seed : UInt32) : (ofWord seed).size = size := by
  have pushed (count : Nat) (next : Array UInt32 → Nat → UInt32) : ((List.range count).foldl
      (fun words index => words.push (next words index)) #[seed]).size = count + 1 := by
    induction count with
    | zero => rfl
    | succ count hypothesis =>
      rw [List.range_succ, List.foldl_append, List.foldl_cons, List.foldl_nil, Array.size_push,
        hypothesis]
  rw [ofWord, pushed]
  rfl

/-- Places are come to in a circle. -/
theorem next_mod (count : Nat) {bound : Nat} (some : 0 < bound) :
    (if bound ≤ count % bound + 1 then 0 else count % bound + 1) = (count + 1) % bound := by
  have below := Nat.mod_lt count some
  rw [← Nat.mod_add_mod count bound 1]
  by_cases last : bound ≤ count % bound + 1
  · have full : count % bound + 1 = bound := Nat.le_antisymm below last
    rw [if_pos last, full, Nat.mod_self]
  · rw [if_neg last, Nat.mod_eq_of_lt (Nat.not_le.1 last)]

theorem next_index (count : Nat) :
    (if size ≤ count % (size - 1) + 1 + 1 then 1 else count % (size - 1) + 1 + 1) =
      (count + 1) % (size - 1) + 1 := by
  rw [← next_mod count (by decide)]
  split <;> split <;> unfold size at * <;> omega

theorem index_inside (count : Nat) : count % (size - 1) + 1 < size := by
  have below := Nat.mod_lt count (show 0 < size - 1 by decide)
  unfold size at *
  omega

section Grown

variable {key other : Array UInt32} {count place : Nat}

/-- The first pass comes to the places of the state and of the key in turn. -/
theorem repeatStep_mixKey (some : 0 < key.size) (count : Nat) :
    repeatStep (mixKey key) count (ofWord 19650218, 1, 0) =
      (grown key count, count % (size - 1) + 1, count % key.size) := by
  induction count with
  | zero =>
    rw [Nat.zero_mod, Nat.zero_mod]
    rfl
  | succ count hypothesis =>
    rw [repeatStep_succ, hypothesis, mixKey_eq, index_replaceWord, next_index, next_mod count some]
    rfl

theorem size_grown (key : Array UInt32) (count : Nat) : (grown key count).size = size := by
  induction count with
  | zero => exact size_ofWord _
  | succ count hypothesis => exact (size_replaceWord _ _ _).trans hypothesis

theorem word_grown_succ (key : Array UInt32) (count : Nat) (behind : 0 < place) :
    word (grown key (count + 1)) place = if place = count % (size - 1) + 1 then
      keyed key (grown key count) (count % (size - 1) + 1) (count % key.size)
    else word (grown key count) place :=
  word_replaceWord (size_grown key count) (index_inside count) behind

/-- A word behind the second one is mixed once, in its turn. -/
theorem word_grown (few : count ≤ size) (behind : 1 < place) (inside : place < size) :
    word (grown key count) place =
      if place ≤ count then word (grown key place) place else word (ofWord 19650218) place := by
  induction count with
  | zero => rw [if_neg (Nat.not_le.2 (Nat.lt_of_succ_lt behind))]; rfl
  | succ count hypothesis =>
    by_cases now : place = count + 1
    · rw [now, if_pos (Nat.le_refl _)]
    · have turn : place ≠ count % (size - 1) + 1 := by
        unfold size at *
        omega
      have earlier : place ≤ count ↔ place ≤ count + 1 := by omega
      rw [word_grown_succ key count (Nat.lt_of_succ_lt behind), if_neg turn,
        hypothesis (Nat.le_of_succ_le few), if_congr earlier rfl rfl]

/-- What the first pass makes of a word behind the second one. -/
theorem word_grown_next (behind : 1 < place) (inside : place + 1 < size) :
    word (grown key size) (place + 1) =
      (word (ofWord 19650218) (place + 1) ^^^ spread (word (grown key size) place) * 1664525) +
        addend key (place % key.size) := by
  have turn : place % (size - 1) = place := Nat.mod_eq_of_lt (Nat.lt_pred_iff.2 inside)
  have here := Nat.lt_of_succ_lt inside
  rw [word_grown (Nat.le_refl size) behind here, if_pos (Nat.le_of_lt here),
    word_grown (Nat.le_refl size) (Nat.lt_succ_of_lt behind) inside, if_pos (Nat.le_of_lt inside),
    word_grown_succ key place (Nat.succ_pos place), turn, if_pos rfl, keyed,
    word_grown (Nat.le_of_lt here) (Nat.lt_succ_of_lt behind) inside,
    if_neg (Nat.not_succ_le_self place)]
  rfl

/-- What the first pass leaves tells what was added. -/
theorem addend_of_grown (agree : AgreeBehind (grown key size) (grown other size))
    (behind : 1 < place) (inside : place + 1 < size) :
    addend key (place % key.size) = addend other (place % other.size) := by
  have next := agree (place + 1) (Nat.succ_pos place) inside
  rw [word_grown_next behind inside, word_grown_next behind inside,
    agree place (Nat.lt_of_succ_lt behind) (Nat.lt_of_succ_lt inside)] at next
  exact (UInt32.add_right_inj _).1 next

/-- The first pass depends on the key only through what is added. -/
theorem grown_congr
    (same : ∀ place, addend key (place % key.size) = addend other (place % other.size))
    (count : Nat) : grown key count = grown other count := by
  induction count with
  | zero => rfl
  | succ count hypothesis => rw [grown, grown, hypothesis, keyed, keyed, same]

end Grown

/-! ### The second pass -/

/-- What the second pass makes of a word. -/
def placed (words : Array UInt32) (index : Nat) : UInt32 :=
  (word words index ^^^ spread (word words (index - 1)) * 1566083941) - UInt32.ofNat index

/-- The words of the second pass after a number of steps. -/
def stirred (words : Array UInt32) : Nat → Array UInt32
  | 0 => words
  | count + 1 => (replaceWord (stirred words count) ((count + 1) % (size - 1) + 1)
      (placed (stirred words count) ((count + 1) % (size - 1) + 1))).1

section Stirred

variable {words others : Array UInt32} {count place : Nat}

theorem repeatStep_mixPlace (words : Array UInt32) (count : Nat) :
    repeatStep mixPlace count (words, 2) =
      (stirred words count, (count + 1) % (size - 1) + 1) := by
  induction count with
  | zero => rfl
  | succ count hypothesis =>
    rw [repeatStep_succ, hypothesis]
    show replaceWord _ _ (placed _ _) = _
    rw [← next_index (count + 1), ← index_replaceWord]
    rfl

theorem size_stirred (words : Array UInt32) (count : Nat) :
    (stirred words count).size = words.size := by
  induction count with
  | zero => rfl
  | succ count hypothesis => exact (size_replaceWord _ _ _).trans hypothesis

variable (full : words.size = size)

include full

theorem word_stirred_succ (count : Nat) (behind : 0 < place) :
    word (stirred words (count + 1)) place = if place = (count + 1) % (size - 1) + 1 then
      placed (stirred words count) ((count + 1) % (size - 1) + 1)
    else word (stirred words count) place :=
  word_replaceWord ((size_stirred words count).trans full) (index_inside _) behind

/-- When the second pass comes to the end the first word becomes the last one. -/
theorem first_stirred (last : (count + 1) % (size - 1) + 1 = size - 1) :
    word (stirred words (count + 1)) 0 = word (stirred words (count + 1)) (size - 1) :=
  first_replaceWord ((size_stirred words count).trans full) (by rw [last]; decide)

variable (alsoFull : others.size = size)

include alsoFull

/-- A step of the second pass can be taken back: the word that it replaced can be read off the new
one and the word in front, which stays. -/
theorem agree_of_stirred_succ (few : count < size - 1)
    (agree : AgreeBehind (stirred words (count + 1)) (stirred others (count + 1))) :
    AgreeBehind (stirred words count) (stirred others count) := by
  have kept : ∀ place, 0 < place → place < size → place ≠ (count + 1) % (size - 1) + 1 →
      word (stirred words count) place = word (stirred others count) place := by
    intro place behind inside other
    have here := agree place behind inside
    rwa [word_stirred_succ full count behind, word_stirred_succ alsoFull count behind,
      if_neg other, if_neg other] at here
  have front : word (stirred words count) ((count + 1) % (size - 1)) =
      word (stirred others count) ((count + 1) % (size - 1)) := by
    by_cases start : (count + 1) % (size - 1) = 0
    · obtain ⟨before, rfl, last⟩ : ∃ before, count = before + 1 ∧
          (before + 1) % (size - 1) + 1 = size - 1 := by
        refine ⟨count - 1, ?_⟩
        unfold size at *
        omega
      rw [start, first_stirred full last, first_stirred alsoFull last]
      exact kept (size - 1) (by decide) (by decide) (by rw [start]; decide)
    · have inside := index_inside (count + 1)
      exact kept _ (Nat.pos_of_ne_zero start) (Nat.lt_of_succ_lt inside)
        (Nat.ne_of_lt (Nat.lt_succ_self _))
  intro place behind inside
  by_cases turn : place = (count + 1) % (size - 1) + 1
  · have here := agree place behind inside
    rw [word_stirred_succ full count behind, word_stirred_succ alsoFull count behind, if_pos turn,
      if_pos turn, placed, placed, Nat.add_sub_cancel, front] at here
    rw [turn]
    exact (UInt32.xor_left_inj _).1 ((UInt32.sub_left_inj _).1 here)
  · exact kept place behind inside turn

/-- The second pass can be taken back. -/
theorem agree_of_stirred (few : count ≤ size - 1)
    (agree : AgreeBehind (stirred words count) (stirred others count)) :
    AgreeBehind words others := by
  induction count with
  | zero => exact agree
  | succ count hypothesis =>
    exact hypothesis (Nat.le_of_succ_le few) (agree_of_stirred_succ full alsoFull few agree)

end Stirred

/-! ### Keys -/

section Keys

variable {key other : Array UInt32}

theorem ofKey_eq (some : 0 < key.size) (short : key.size ≤ size) :
    ofKey key = ⟨(stirred (grown key size) (size - 1)).setIfInBounds 0 0x80000000, size⟩ := by
  have mixed := repeatStep_mixKey some size
  have start : size % (size - 1) + 1 = 2 := by decide
  rw [start] at mixed
  unfold ofKey
  rw [Nat.max_eq_left short, mixed]
  simp only [repeatStep_mixPlace]

/-- **Keys of one or two words give the same stream exactly if the first pass adds the same.** -/
theorem stream_ofKey_eq_iff (short : key.size = 1 ∨ key.size = 2)
    (alsoShort : other.size = 1 ∨ other.size = 2) : stream (ofKey key) = stream (ofKey other) ↔
      ∀ place, addend key (place % key.size) = addend other (place % other.size) := by
  have made {key : Array UInt32} (short : key.size = 1 ∨ key.size = 2) :=
    @ofKey_eq key (by omega) (by unfold size; omega)
  have full (key : Array UInt32) : (stirred (grown key size) (size - 1)).size = size :=
    (size_stirred _ _).trans (size_grown key size)
  have cleared (key : Array UInt32) :
      AgreeBehind ((stirred (grown key size) (size - 1)).setIfInBounds 0 0x80000000)
        (stirred (grown key size) (size - 1)) := by
    intro place behind inside
    rw [word_setIfInBounds (by rw [full]; decide), if_neg (Nat.ne_of_gt behind)]
  rw [made short, made alsoShort]
  constructor
  · intro same place
    have words := agree_of_stream (Array.size_setIfInBounds.trans (full key))
      (Array.size_setIfInBounds.trans (full other)) same
    have agree := agree_of_stirred (size_grown key size) (size_grown other size) (Nat.le_refl _)
      fun place behind inside => (cleared key place behind inside).symm.trans
        ((words place behind inside).trans (cleared other place behind inside))
    -- The third and the fourth word tell what is added for even and for odd places.
    have added := addend_of_grown agree (show 1 < place % 2 + 2 by omega)
      (by unfold size; omega)
    have turn {bound : Nat} (short : bound = 1 ∨ bound = 2) :
        (place % 2 + 2) % bound = place % bound := by
      rcases short with rfl | rfl <;> omega
    rwa [turn short, turn alsoShort] at added
  · intro same
    rw [grown_congr same]

end Keys

/-! ### Numbers -/

/-- The key of a number: its words, the low one first. -/
def numberKey (number : Nat) : Array UInt32 :=
  if number < 2 ^ 32 then #[UInt32.ofNat number]
  else #[UInt32.ofNat (number % 2 ^ 32), UInt32.ofNat (number / 2 ^ 32)]

/-- The second number has two words: the first number and, above it, the word before that. -/
structure AreTwins (single double : Nat) : Prop where
  long : 2 ^ 32 ≤ double
  low : double % 2 ^ 32 = single
  high : (double / 2 ^ 32 + 1) % 2 ^ 32 = single

section Numbers

variable {number first second : Nat}

theorem keyWords_zero (fuel : Nat) : keyWords (fuel + 1) 0 = [] := rfl

theorem keyWords_pos (fuel : Nat) (some : number ≠ 0) : keyWords (fuel + 1) number =
    UInt32.ofNat (number % 2 ^ 32) :: keyWords fuel (number / 2 ^ 32) := if_neg some

theorem ofSeed_natCast (fits : number < 2 ^ 64) : ofSeed number = ofKey (numberKey number) := by
  have words : (if (keyWords (number.log2 / 32 + 1) number).isEmpty then #[0]
      else (keyWords (number.log2 / 32 + 1) number).toArray) = numberKey number := by
    unfold numberKey
    by_cases zero : number = 0
    · rw [zero, keyWords_zero]
      rfl
    by_cases short : number < 2 ^ 32
    · have single : number.log2 / 32 = 0 :=
        Nat.div_eq_of_lt ((Nat.log2_lt zero).2 short)
      rw [if_pos short, single, keyWords_pos 0 zero, Nat.mod_eq_of_lt short]
      rfl
    · have high : number / 2 ^ 32 ≠ 0 := by omega
      have double : number.log2 / 32 = 1 := by
        have low := (Nat.le_log2 zero).2 (Nat.not_lt.1 short)
        have limit := (Nat.log2_lt zero).2 fits
        omega
      have last : number / 2 ^ 32 % 2 ^ 32 = number / 2 ^ 32 := by omega
      rw [if_neg short, double, keyWords_pos 1 zero, keyWords_pos 0 high, last]
      rfl
  unfold ofSeed
  rw [Int.natAbs_natCast]
  simp only [words]

theorem size_numberKey (number : Nat) :
    (numberKey number).size = 1 ∨ (numberKey number).size = 2 := by
  unfold numberKey
  split
  · exact .inl rfl
  · exact .inr rfl

/-- What is added for a number. -/
theorem toNat_addend (fits : number < 2 ^ 64) (place : Nat) :
    (addend (numberKey number) (place % (numberKey number).size)).toNat =
      if number < 2 ^ 32 ∨ place % 2 = 0 then number % 2 ^ 32
      else (number / 2 ^ 32 + 1) % 2 ^ 32 := by
  have first (key : Array UInt32) : addend key 0 = word key 0 := UInt32.add_zero _
  unfold numberKey
  by_cases short : number < 2 ^ 32
  · rw [if_pos short, if_pos (.inl short)]
    show (addend _ (place % 1)).toNat = _
    rw [Nat.mod_one, first]
    exact UInt32.toNat_ofNat'
  · rw [if_neg short]
    show (addend _ (place % 2)).toNat = _
    rcases Nat.mod_two_eq_zero_or_one place with even | odd
    · rw [even, first, if_pos (.inr rfl)]
      exact UInt32.toNat_ofNat'.trans (Nat.mod_mod _ _)
    · rw [odd, if_neg (by omega)]
      show (UInt32.ofNat (number / 2 ^ 32) + 1).toNat = _
      rw [UInt32.toNat_add, UInt32.toNat_ofNat']
      exact Nat.mod_add_mod _ _ _

/-- **Two seeds of 64 bits give the same stream exactly if they are the same or twins.** -/
theorem stream_ofSeed_eq_iff (fits : first < 2 ^ 64) (alsoFits : second < 2 ^ 64) :
    stream (ofSeed first) = stream (ofSeed second) ↔
      first = second ∨ AreTwins first second ∨ AreTwins second first := by
  rw [ofSeed_natCast fits, ofSeed_natCast alsoFits,
    stream_ofKey_eq_iff (size_numberKey first) (size_numberKey second)]
  simp only [← UInt32.toNat_inj, toNat_addend fits, toNat_addend alsoFits]
  constructor
  · intro same
    have even := same 0
    have odd := same 1
    simp only [Nat.zero_mod, or_true, if_true] at even
    simp only [Nat.one_mod, Nat.one_ne_zero, or_false] at odd
    by_cases short : first < 2 ^ 32 <;> by_cases alsoShort : second < 2 ^ 32
    · rw [Nat.mod_eq_of_lt short, Nat.mod_eq_of_lt alsoShort] at even
      exact .inl even
    · rw [if_pos short, if_neg alsoShort, Nat.mod_eq_of_lt short] at odd
      rw [Nat.mod_eq_of_lt short] at even
      exact .inr (.inl ⟨Nat.not_lt.1 alsoShort, even.symm, odd.symm⟩)
    · rw [if_neg short, if_pos alsoShort, Nat.mod_eq_of_lt alsoShort] at odd
      rw [Nat.mod_eq_of_lt alsoShort] at even
      exact .inr (.inr ⟨Nat.not_lt.1 short, even, odd⟩)
    · rw [if_neg short, if_neg alsoShort] at odd
      exact .inl (by omega)
  · have twins {single double : Nat} (twins : AreTwins single double) (place : Nat) :
        (if single < 2 ^ 32 ∨ place % 2 = 0 then single % 2 ^ 32
          else (single / 2 ^ 32 + 1) % 2 ^ 32) =
        if double < 2 ^ 32 ∨ place % 2 = 0 then double % 2 ^ 32
          else (double / 2 ^ 32 + 1) % 2 ^ 32 := by
      obtain ⟨long, low, high⟩ := twins
      split <;> split <;> omega
    rintro (rfl | areTwins | areTwins) place
    · rfl
    · exact twins areTwins place
    · exact (twins areTwins place).symm

/-- The generator does not tell two from the number that has two as its low word and one above. -/
example : AreTwins 2 (2 + 2 ^ 32) := ⟨by decide, by decide, by decide⟩

end Numbers

end Twister

end Specimen
