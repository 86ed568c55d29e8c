/-
**The words that are drawn tell the state.**

A fresh generator twists its words once and then draws a tempered form of each of them. Tempering
loses nothing (`temper_inj`), and a twist loses nothing but the low bits of the first word
(`twist_inj`): every twisted word is made of a word that is known by then, and of the high bit of
one word and the low bits of the next one, which can be read off what they give (`folded_inj`). So
two fresh generators with the same stream have the same words from the second one on
(`agree_of_stream`).
-/

import Mathlib.Logic.Basic
import Specimen.Random.Twister

namespace Specimen

namespace Twister

/-- The generator after a number of draws. -/
def after (twister : Twister) (count : Nat) : Twister :=
  repeatStep (fun current => (next current).2) count twister

/-- The words that are drawn, one after the other. -/
def stream (twister : Twister) (place : Nat) : UInt32 := (next (twister.after place)).1

/-- The words behind the first one are the same. -/
def AgreeBehind (words others : Array UInt32) : Prop :=
  ∀ place, 0 < place → place < size → word words place = word others place

/-! ### Tempering -/

/-- A word can be read off itself mixed with the same word shifted to the right. -/
theorem xor_shiftRight_inj {width count : Nat} (shifted : 0 < count) {first second : BitVec width}
    (same : first ^^^ (first >>> count) = second ^^^ (second >>> count)) : first = second := by
  -- The highest bits are kept, so the induction goes down from them.
  have bits (depth : Nat) : ∀ place, width - place ≤ depth →
      first.getLsbD place = second.getLsbD place := by
    induction depth with
    | zero =>
      intro place high
      rw [BitVec.getLsbD_of_ge _ _ (by omega), BitVec.getLsbD_of_ge _ _ (by omega)]
    | succ depth hypothesis =>
      intro place high
      have mixed := congrArg (BitVec.getLsbD · place) same
      simp only [BitVec.getLsbD_xor, BitVec.getLsbD_ushiftRight] at mixed
      by_cases inside : place < width
      · rw [hypothesis (count + place) (by omega)] at mixed
        exact Bool.xor_left_inj.1 mixed
      · rw [BitVec.getLsbD_of_ge _ _ (by omega), BitVec.getLsbD_of_ge _ _ (by omega)]
  exact BitVec.eq_of_getLsbD_eq fun place _ => bits (width - place) place (Nat.le_refl _)

/-- A word can be read off itself mixed with some bits of the same word shifted to the left. -/
theorem xor_shiftLeft_inj {width count : Nat} (shifted : 0 < count)
    {mask first second : BitVec width}
    (same : first ^^^ (first <<< count &&& mask) = second ^^^ (second <<< count &&& mask)) :
    first = second := by
  have bits : ∀ place, first.getLsbD place = second.getLsbD place := by
    intro place
    induction place using Nat.strongRecOn with
    | ind place hypothesis =>
      have mixed := congrArg (BitVec.getLsbD · place) same
      simp only [BitVec.getLsbD_xor, BitVec.getLsbD_and, BitVec.getLsbD_shiftLeft] at mixed
      by_cases low : place < count
      · simpa [low] using mixed
      · rw [hypothesis (place - count) (by omega)] at mixed
        exact Bool.xor_left_inj.1 mixed
  exact BitVec.eq_of_getLsbD_eq fun place _ => bits place

/-- A word can be read off its tempered form. -/
theorem temper_inj {first second : UInt32} (same : temper first = temper second) :
    first = second := by
  -- The four mixing steps are taken back from the last one on.
  have words := congrArg UInt32.toBitVec same
  replace words := xor_shiftRight_inj (show 0 < 18 by decide) words
  replace words := xor_shiftLeft_inj (show 0 < 15 by decide) words
  replace words := xor_shiftLeft_inj (show 0 < 7 by decide) words
  replace words := xor_shiftRight_inj (show 0 < 11 by decide) words
  exact UInt32.toBitVec_inj.1 words

/-! ### What words give -/

/-- A bit of a word, the lowest one at place zero. -/
def bit (word : UInt32) (place : Nat) : Bool := word.toBitVec.getLsbD place

theorem word_ext {first second : UInt32} (high : bit first 31 = bit second 31)
    (low : ∀ place < 31, bit first place = bit second place) : first = second := by
  refine UInt32.toBitVec_inj.1 (BitVec.eq_of_getLsbD_eq fun place inside => ?_)
  by_cases last : place = 31
  · rw [last]
    exact high
  · exact low place (by omega)

/-- The high bit of one word with the low bits of another one. -/
def joined (upper lower : UInt32) : UInt32 := (upper &&& 0x80000000) ||| (lower &&& 0x7fffffff)

/-- What a word gives to a word that is twisted. -/
def folded (word : UInt32) : UInt32 := (word >>> 1) ^^^ (if word &&& 1 = 0 then 0 else 0x9908b0df)

theorem bit_joined (upper lower : UInt32) {place : Nat} (inside : place < 32) :
    bit (joined upper lower) place = if place = 31 then bit upper 31 else bit lower place := by
  have masks : ∀ place < 32, bit 0x80000000 place = decide (place = 31) ∧
      bit 0x7fffffff place = decide (place ≠ 31) := by decide
  obtain ⟨high, low⟩ := masks place inside
  simp only [bit, joined] at high low ⊢
  rw [UInt32.toBitVec_or, UInt32.toBitVec_and, UInt32.toBitVec_and, BitVec.getLsbD_or,
    BitVec.getLsbD_and, BitVec.getLsbD_and, high, low]
  by_cases last : place = 31 <;> simp [last]

theorem and_one_eq_zero_iff (word : UInt32) : word &&& 1 = 0 ↔ bit word 0 = false := by
  rw [← UInt32.toBitVec_inj, UInt32.toBitVec_and]
  show word.toBitVec &&& 1#32 = 0#32 ↔ _
  rw [BitVec.and_one_eq_setWidth_ofBool_getLsbD]
  unfold bit
  cases word.toBitVec.getLsbD 0 <;> decide

theorem bit_folded (word : UInt32) (place : Nat) :
    bit (folded word) place = (bit word (place + 1) ^^ (bit word 0 && bit 0x9908b0df place)) := by
  have added : bit (if word &&& 1 = 0 then 0 else 0x9908b0df) place =
      (bit word 0 && bit 0x9908b0df place) := by
    by_cases even : word &&& 1 = 0
    · rw [if_pos even, (and_one_eq_zero_iff word).1 even, Bool.false_and]
      exact BitVec.getLsbD_zero
    · have odd := mt (and_one_eq_zero_iff word).2 even
      rw [if_neg even, Bool.of_not_eq_false odd, Bool.true_and]
  have shifted : bit (word >>> 1) place = bit word (place + 1) := by
    rw [Nat.add_comm]
    exact BitVec.getLsbD_ushiftRight word.toBitVec 1 place
  rw [← added, ← shifted]
  exact BitVec.getLsbD_xor

/-- A word can be read off what it gives: the highest bit of that is the lowest bit of the word. -/
theorem folded_inj {first second : UInt32} (same : folded first = folded second) :
    first = second := by
  have bits (place : Nat) := congrArg (bit · place) same
  simp only [bit_folded] at bits
  have lowest : bit first 0 = bit second 0 := by
    have beyond (word : UInt32) : bit word 32 = false := BitVec.getLsbD_of_ge _ _ (Nat.le_refl _)
    have odd : bit 0x9908b0df 31 = true := by decide
    have highest := bits 31
    rwa [beyond, beyond, odd, Bool.false_xor, Bool.false_xor, Bool.and_true,
      Bool.and_true] at highest
  have next (place : Nat) : bit first (place + 1) = bit second (place + 1) := by
    have mixed := bits place
    rw [lowest] at mixed
    exact Bool.xor_left_inj.1 mixed
  refine word_ext (next 30) fun place _ => ?_
  cases place with
  | zero => exact lowest
  | succ place => exact next place

/-! ### The twist -/

theorem word_setIfInBounds {words : Array UInt32} {index : Nat} (bound : index < words.size)
    (value : UInt32) (place : Nat) : word (words.setIfInBounds index value) place =
      if place = index then value else word words place := by
  unfold word
  rw [Array.getElem?_setIfInBounds]
  by_cases same : place = index
  · rw [if_pos same.symm, if_pos same, if_pos bound, Option.getD_some]
  · rw [if_neg (Ne.symm same), if_neg same]

/-- The words of which the first ones are twisted. -/
def twisted (words : Array UInt32) (count : Nat) : Array UInt32 :=
  (List.range count).foldl twistAt words

variable {words others : Array UInt32} {place : Nat}

theorem twisted_succ (words : Array UInt32) (count : Nat) :
    twisted words (count + 1) = twistAt (twisted words count) count := by
  unfold twisted
  rw [List.range_succ, List.foldl_append, List.foldl_cons, List.foldl_nil]

theorem size_twisted (words : Array UInt32) (count : Nat) :
    (twisted words count).size = words.size := by
  induction count with
  | zero => rfl
  | succ count hypothesis =>
    rw [twisted_succ, ← hypothesis]
    exact Array.size_setIfInBounds

/-- One step of the twist. -/
theorem word_twisted_succ (inside : count < words.size) (place : Nat) :
    word (twisted words (count + 1)) place = if place = count then
      word (twisted words count) ((count + shift) % size) ^^^ folded (joined
        (word (twisted words count) count) (word (twisted words count) ((count + 1) % size)))
    else word (twisted words count) place := by
  rw [twisted_succ, twistAt, word_setIfInBounds (by rwa [size_twisted]), UInt32.xor_assoc]
  rfl

/-- A word is twisted once, in its turn. -/
theorem word_twisted_eq {count : Nat} (few : count ≤ words.size) (place : Nat) :
    word (twisted words count) place =
      if place < count then word (twisted words (place + 1)) place else word words place := by
  induction count with
  | zero => rfl
  | succ count hypothesis =>
    by_cases last : place = count
    · rw [last, if_pos (Nat.lt_succ_self count)]
    · rw [word_twisted_succ few, if_neg last, hypothesis (Nat.le_of_succ_le few)]
      exact if_congr (by omega) rfl rfl

section Full

variable (full : words.size = size)

include full

/-- Words in front are twisted as they stay, the others are as they were. -/
theorem word_twisted {count : Nat} (few : count ≤ size) (inside : place < size) :
    word (twisted words count) place =
      if place < count then word (twist words) place else word words place := by
  have last : word (twist words) place = word (twisted words (place + 1)) place :=
    (word_twisted_eq (Nat.le_of_eq full.symm) place).trans (if_pos inside)
  rw [word_twisted_eq (full ▸ few), last]

/-- What a twisted word is made of. -/
theorem word_twist (inside : place < size) : word (twist words) place =
    word (twisted words place) ((place + shift) % size) ^^^ folded
      (joined (word words place) (word (twisted words place) ((place + 1) % size))) := by
  have last := word_twisted full (show place + 1 ≤ size from inside) inside
  rw [if_pos (Nat.lt_succ_self place), word_twisted_succ (full ▸ inside), if_pos rfl] at last
  rw [← last, word_twisted full (Nat.le_of_lt inside) inside, if_neg (Nat.lt_irrefl place)]

end Full

section Same

variable (full : words.size = size) (alsoFull : others.size = size)

include full alsoFull

/-- The first words are mixed with the last ones. -/
theorem mixed_early (last : ∀ place, size - shift < place → place < size →
      word words place = word others place) (early : place < size - shift) :
    word (twisted words place) ((place + shift) % size) =
      word (twisted others place) ((place + shift) % size) := by
  have ahead : (place + shift) % size = place + shift := by
    unfold size shift at *
    omega
  have inside : place + shift < size := by
    unfold size shift at *
    omega
  have notYet : ¬ place + shift < place := Nat.not_lt.2 (Nat.le_add_right place shift)
  rw [ahead, word_twisted full (by omega) inside, if_neg notYet,
    word_twisted alsoFull (by omega) inside, if_neg notYet]
  refine last _ ?_ inside
  unfold size shift
  omega

variable (same : ∀ place < size, word (twist words) place = word (twist others) place)

include same

/-- Where twisted words agree and were mixed with words that agree, the high bits of the words
agree, and the low bits of the words after them. -/
theorem bits_of_twist (inside : place < size)
    (mixed : word (twisted words place) ((place + shift) % size) =
      word (twisted others place) ((place + shift) % size)) :
    bit (word words place) 31 = bit (word others place) 31 ∧ (place + 1 < size →
      ∀ low < 31, bit (word words (place + 1)) low = bit (word others (place + 1)) low) := by
  have twists := same place inside
  rw [word_twist full inside, word_twist alsoFull inside, mixed, UInt32.xor_right_inj] at twists
  have bits (index : Nat) := congrArg (bit · index) (folded_inj twists)
  constructor
  · have high := bits 31
    simp only [bit_joined _ _ (show 31 < 32 by decide), if_true] at high
    exact high
  · intro next low isLow
    have lows := bits low
    have after (words : Array UInt32) (full : words.size = size) :
        word (twisted words place) ((place + 1) % size) = word words (place + 1) := by
      rw [Nat.mod_eq_of_lt next, word_twisted full (Nat.le_of_lt inside) next, if_neg (by omega)]
    simp only [bit_joined _ _ (show low < 32 by omega), after words full, after others alsoFull,
      if_neg (Nat.ne_of_lt isLow)] at lows
    exact lows

/-- The last words are mixed with twisted words. -/
theorem mixed_late (late : size - shift ≤ place) (inside : place < size) :
    word (twisted words place) ((place + shift) % size) =
      word (twisted others place) ((place + shift) % size) := by
  have front : (place + shift) % size < place := by
    unfold size shift at *
    omega
  have within := Nat.lt_trans front inside
  rw [word_twisted full (Nat.le_of_lt inside) within, if_pos front,
    word_twisted alsoFull (Nat.le_of_lt inside) within, if_pos front]
  exact same _ within

/-- **A twist tells all words but the first.** -/
theorem twist_inj : AgreeBehind words others := by
  have last : ∀ place, size - shift < place → place < size →
      word words place = word others place := by
    intro place late inside
    obtain ⟨before, rfl⟩ : ∃ before, place = before + 1 := ⟨place - 1, by omega⟩
    have bits {place : Nat} (late : size - shift ≤ place) (inside : place < size) :=
      bits_of_twist full alsoFull same inside (mixed_late full alsoFull same late inside)
    exact word_ext (bits (Nat.le_of_lt late) inside).1
      ((bits (Nat.le_of_lt_succ late) (Nat.lt_of_succ_lt inside)).2 inside)
  have mixed : ∀ place < size, word (twisted words place) ((place + shift) % size) =
      word (twisted others place) ((place + shift) % size) := by
    intro place inside
    by_cases early : place < size - shift
    · exact mixed_early full alsoFull last early
    · exact mixed_late full alsoFull same (Nat.not_lt.1 early) inside
  have bits (place : Nat) (inside : place < size) :=
    bits_of_twist full alsoFull same inside (mixed place inside)
  intro place behind inside
  obtain ⟨before, rfl⟩ : ∃ before, place = before + 1 := ⟨place - 1, by omega⟩
  exact word_ext (bits _ inside).1 ((bits before (Nat.lt_of_succ_lt inside)).2 inside)

end Same

/-! ### The stream -/

theorem repeatStep_succ {State : Type} (step : State → State) (count : Nat) (state : State) :
    repeatStep step (count + 1) state = step (repeatStep step count state) := by
  induction count generalizing state with
  | zero => rfl
  | succ count hypothesis => exact hypothesis (step state)

theorem after_succ (twister : Twister) (count : Nat) :
    twister.after (count + 1) = (next (twister.after count)).2 := repeatStep_succ _ count twister

/-- A fresh generator twists its words and then gives one after the other. -/
theorem next_after (words : Array UInt32) {place : Nat} (inside : place < size) :
    next ((Twister.mk words size).after place) =
      (temper (word (twist words) place), ⟨twist words, place + 1⟩) := by
  induction place with
  | zero =>
    rw [after, repeatStep, next, if_pos (Nat.le_refl size)]
  | succ place hypothesis =>
    rw [after_succ, hypothesis (Nat.lt_of_succ_lt inside), next, if_neg (Nat.not_le.2 inside)]

/-- **Two fresh generators with the same stream have the same words behind the first one.** -/
theorem agree_of_stream {words others : Array UInt32} (full : words.size = size)
    (alsoFull : others.size = size) (same : stream ⟨words, size⟩ = stream ⟨others, size⟩) :
    AgreeBehind words others := by
  refine twist_inj full alsoFull fun place inside => temper_inj ?_
  have drawn := congrFun same place
  rwa [stream, stream, next_after words inside, next_after others inside] at drawn

end Twister

end Specimen
