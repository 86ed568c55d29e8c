/-
**Sequence seeds are told apart.**

A sequence of integers is a seed as well: it is folded to the number that the first eight bytes of a
digest are, and the digest is that of the integers in decimal, joined by colons. The integers can be
read off that text one after the other (`sequenceText_inj`), so two different sequences are folded
to the same number only if the digests of two different texts start alike (`sequenceNumber_eq_iff`).
The generator gets nothing but the number, whatever container the integers came in
(`startsAt_of_sequence`), and how far its stream tells numbers apart is known
(`Twister.stream_ofSeed_eq_iff`). `sequences_separate` puts this together.
-/

import Specimen.Proofs.Fingerprints
import Specimen.Proofs.Order
import Specimen.Proofs.Seeding
import Specimen.Session

namespace Specimen

namespace Seed

/-! ### The text of a sequence -/

/-- What comes after the first integer in the text of a sequence. -/
def textAfter : List Int → List Char
  | [] => []
  | next :: rest => ':' :: (sequenceText (next :: rest)).toList

theorem toList_sequenceText (first : Int) (rest : List Int) :
    (sequenceText (first :: rest)).toList = (toString first).toList ++ textAfter rest := by
  unfold sequenceText
  cases rest with
  | nil => rw [List.map_singleton, String.intercalate_singleton, textAfter, List.append_nil]
  | cons next rest =>
    rw [List.map_cons, List.map_cons, String.intercalate_cons_cons, String.toList_append,
      String.toList_append, List.append_assoc]
    rfl

theorem stops_textAfter (rest : List Int) : Json.Stops (textAfter rest) := by
  cases rest with
  | nil => exact Json.stops_nil
  | cons next rest =>
    intro mark first
    cases first
    decide

theorem sequenceText_ne_nil (first : Int) (rest : List Int) :
    (sequenceText (first :: rest)).toList ≠ [] := by
  obtain ⟨mark, others, written, _⟩ := Json.exists_sign_or_digit first
  rw [toList_sequenceText, written]
  exact List.cons_ne_nil _ _

/-- **The integers of a sequence can be read off its text.** No integer goes on past a colon, so the
first one ends where it was written to end; and only the empty sequence has an empty text. -/
theorem sequenceText_inj {parts others : List Int}
    (same : sequenceText parts = sequenceText others) : parts = others := by
  replace same := congrArg String.toList same
  induction parts generalizing others with
  | nil =>
    cases others with
    | nil => rfl
    | cons other more => exact absurd same.symm (sequenceText_ne_nil other more)
  | cons first rest hypothesis =>
    cases others with
    | nil => exact absurd same (sequenceText_ne_nil first rest)
    | cons other more =>
      have read := Json.scalar?_toString first (stops_textAfter rest)
      rw [← toList_sequenceText, same, toList_sequenceText,
        Json.scalar?_toString other (stops_textAfter more)] at read
      obtain ⟨firsts, after⟩ := Prod.mk.inj (Option.some.inj read)
      have rests : rest = more := by
        cases rest <;> cases more
        case nil.nil => rfl
        case nil.cons | cons.nil => cases after
        case cons.cons => exact hypothesis (List.cons.inj after).2.symm
      rw [Json.int.inj firsts, rests]

/-! ### The number of a digest -/

/-- Bytes can be read off the number that they go on with. -/
theorem foldl_bytes_inj {bytes others : List UInt8} (length : bytes.length = others.length)
    {start origin : Nat} (same : bytes.foldl (fun total byte => total * 256 + byte.toNat) start =
      others.foldl (fun total byte => total * 256 + byte.toNat) origin) :
    start = origin ∧ bytes = others := by
  induction bytes generalizing others start origin with
  | nil =>
    cases others with
    | nil => exact ⟨same, rfl⟩
    | cons other others => cases length
  | cons byte bytes hypothesis =>
    cases others with
    | nil => cases length
    | cons other others =>
      obtain ⟨totals, rest⟩ := hypothesis (Nat.succ.inj length) same
      replace totals : start * 256 + byte.toNat = origin * 256 + other.toNat := totals
      have bound := byte.toNat_lt
      have otherBound := other.toNat_lt
      have last : byte = other := UInt8.toNat_inj.1 (by omega)
      exact ⟨by omega, by rw [last, rest]⟩

theorem foldl_bytes_lt (bytes : List UInt8) (start : Nat) :
    bytes.foldl (fun total byte => total * 256 + byte.toNat) start <
      (start + 1) * 256 ^ bytes.length := by
  induction bytes generalizing start with
  | nil => simp
  | cons byte bytes hypothesis =>
    have bound := byte.toNat_lt
    calc _ < (start * 256 + byte.toNat + 1) * 256 ^ bytes.length := hypothesis _
      _ ≤ ((start + 1) * 256) * 256 ^ bytes.length := Nat.mul_le_mul_right _ (by omega)
      _ = _ := by rw [List.length_cons, Nat.pow_succ, Nat.mul_assoc, Nat.mul_comm 256]

theorem length_sha256Text (text : String) : (sha256Text text).length = 32 := by
  simp [sha256Text, sha256, Sha256.bigEndian]

/-- Digests of one length are read as the same number exactly if they start alike. -/
theorem leadingNumber_eq_iff {digest other : List UInt8} (length : digest.length = other.length) :
    leadingNumber digest = leadingNumber other ↔ digest.take 8 = other.take 8 := by
  constructor
  · intro same
    have taken : (digest.take 8).length = (other.take 8).length := by
      rw [List.length_take, List.length_take, length]
    exact (foldl_bytes_inj taken same).2
  · intro same
    unfold leadingNumber
    rw [same]

/-- The number that a sequence of integers is folded to, as a natural number. -/
def sequenceNumber (parts : List Int) : Nat := leadingNumber (sha256Text (sequenceText parts))

theorem sequenceNumber_lt (parts : List Int) : sequenceNumber parts < 2 ^ 64 := by
  have bound := foldl_bytes_lt ((sha256Text (sequenceText parts)).take 8) 0
  rwa [List.length_take, length_sha256Text] at bound

variable {parts others : List Int}

/-- **Two sequences are folded to the same number exactly if they are the same or the digests of
their texts collide.** -/
theorem sequenceNumber_eq_iff : sequenceNumber parts = sequenceNumber others ↔
    parts = others ∨ Collide (sequenceText parts) (sequenceText others) := by
  have length : (sha256Text (sequenceText parts)).length =
      (sha256Text (sequenceText others)).length := by
    rw [length_sha256Text, length_sha256Text]
  refine (leadingNumber_eq_iff length).trans ⟨fun digest => ?_, ?_⟩
  · by_cases equal : parts = others
    · exact .inl equal
    · exact .inr ⟨mt sequenceText_inj equal, digest⟩
  · rintro (rfl | collide)
    · rfl
    · exact collide.digest

end Seed

/-! ### Containers -/

/-- The value contains these integers in this order, whatever container it is. Truth values count as
the integers that they are. -/
def Value.IsSequenceOf (value : Value) (parts : List Int) : Prop :=
  ∃ items, value.items = .ok items ∧ items.map Value.toInt? = parts.map some

theorem Value.mapM_toInteger {items : List Value} {parts : List Int}
    (each : items.map Value.toInt? = parts.map some) :
    items.mapM Value.toInteger = .ok parts := by
  induction items generalizing parts with
  | nil =>
    cases parts with
    | nil => rfl
    | cons part parts => cases each
  | cons item items hypothesis =>
    cases parts with
    | nil => cases each
    | cons part parts =>
      obtain ⟨first, rest⟩ := List.cons.inj each
      rw [List.mapM_cons, Value.toInteger_of_toInt first, hypothesis rest]
      rfl

theorem Seed.toInteger_of_sequence {seed : Value} {parts : List Int}
    (contains : seed.IsSequenceOf parts) :
    Seed.toInteger seed = .ok (Seed.sequenceNumber parts) := by
  obtain ⟨items, listed, each⟩ := contains
  have folded : (do
      let parts ← (← seed.items).mapM Value.toInteger
      pure (Seed.ofSequence parts) : Except Fault Int) = .ok (Seed.sequenceNumber parts) := by
    rw [listed]
    show (items.mapM Value.toInteger >>= _) = _
    rw [Value.mapM_toInteger each]
    rfl
  cases seed with
  | bool _ | int _ => cases listed
  | _ => exact folded

/-- The seed starts the generator of a number, in a new source and in one that is in use. -/
structure Seed.StartsAt (seed : Value) (number : Nat) : Prop where
  folded : Seed.toInteger seed = .ok number
  source : Source.ofSeed seed = .ok ⟨Twister.ofSeed number, seed⟩
  reseed : ∀ session, Run.reseed seed session =
    (.ok (), { session with source := ⟨Twister.ofSeed number, seed⟩ })

/-- A sequence starts the generator of the number that it is folded to. -/
theorem Seed.startsAt_of_sequence {seed : Value} {parts : List Int}
    (contains : seed.IsSequenceOf parts) : Seed.StartsAt seed (Seed.sequenceNumber parts) := by
  have folded := Seed.toInteger_of_sequence contains
  refine ⟨folded, ?_, fun session => ?_⟩
  · unfold Source.ofSeed
    rw [folded]
    rfl
  · unfold Run.reseed
    rw [folded]
    rfl

/-! ### The law -/

/-- **Sequence seeds are told apart.** The texts that are hashed are the same exactly for the same
integers in the same order. A container of integers starts the generator of the number that they are
folded to, whatever container it is, and two sequences are folded to the same number exactly if they
are the same or the truncated digests of their different texts collide. So they start the same
stream only then, or if the generator takes one of two different numbers for the other. -/
theorem sequences_separate (parts others : List Int) :
    (Seed.sequenceText parts = Seed.sequenceText others ↔ parts = others) ∧
    (∀ seed : Value, seed.IsSequenceOf parts → Seed.StartsAt seed (Seed.sequenceNumber parts)) ∧
    (Seed.sequenceNumber parts = Seed.sequenceNumber others ↔
      parts = others ∨ Collide (Seed.sequenceText parts) (Seed.sequenceText others)) ∧
    ((Twister.ofSeed (Seed.sequenceNumber parts)).stream =
        (Twister.ofSeed (Seed.sequenceNumber others)).stream ↔
      parts = others ∨ Collide (Seed.sequenceText parts) (Seed.sequenceText others) ∨
        Twister.AreTwins (Seed.sequenceNumber parts) (Seed.sequenceNumber others) ∨
        Twister.AreTwins (Seed.sequenceNumber others) (Seed.sequenceNumber parts)) := by
  refine ⟨⟨Seed.sequenceText_inj, congrArg _⟩, fun _ => Seed.startsAt_of_sequence,
    Seed.sequenceNumber_eq_iff, ?_⟩
  rw [Twister.stream_ofSeed_eq_iff (Seed.sequenceNumber_lt parts) (Seed.sequenceNumber_lt others),
    Seed.sequenceNumber_eq_iff, or_assoc]

/-- A list and a tuple of the same integers start the same stream; a list whose text has the same
digits, with the colon at another place, starts another one. -/
theorem movedColon_separate :
    (Value.list [.int (-1), .int 23]).IsSequenceOf [-1, 23] ∧
    (Value.tuple [.int (-1), .int 23]).IsSequenceOf [-1, 23] ∧
    (Value.list [.int (-12), .int 3]).IsSequenceOf [-12, 3] ∧
    Seed.StartsAt (.list [.int (-1), .int 23]) 4836201296176230351 ∧
    Seed.StartsAt (.tuple [.int (-1), .int 23]) 4836201296176230351 ∧
    Seed.StartsAt (.list [.int (-12), .int 3]) 13196190312944737568 ∧
    (Twister.ofSeed 4836201296176230351).stream ≠ (Twister.ofSeed 13196190312944737568).stream := by
  have number : Seed.sequenceNumber [-1, 23] = 4836201296176230351 := by decide +kernel
  have moved : Seed.sequenceNumber [-12, 3] = 13196190312944737568 := by decide +kernel
  have list : (Value.list [.int (-1), .int 23]).IsSequenceOf [-1, 23] := ⟨_, rfl, rfl⟩
  have tuple : (Value.tuple [.int (-1), .int 23]).IsSequenceOf [-1, 23] := ⟨_, rfl, rfl⟩
  have other : (Value.list [.int (-12), .int 3]).IsSequenceOf [-12, 3] := ⟨_, rfl, rfl⟩
  obtain ⟨_, starts, folded, streams⟩ := sequences_separate [-1, 23] [-12, 3]
  obtain ⟨_, alsoStarts, _⟩ := sequences_separate [-12, 3] [-1, 23]
  rw [number] at starts
  rw [moved] at alsoStarts
  rw [number, moved] at streams
  refine ⟨list, tuple, other, starts _ list, starts _ tuple, alsoStarts _ other, fun same => ?_⟩
  rcases streams.1 same with equal | collide | twins | twins
  · exact absurd equal (by decide)
  · have equal := folded.2 (.inr collide)
    rw [number, moved] at equal
    exact absurd equal (by decide)
  · exact absurd twins.low (by decide)
  · exact absurd twins.low (by decide)

end Specimen
