/-
**Collections have the sizes that are asked for.**

Where the checks of an array or a set bound its size by natural numbers, one is drawn that fits the
bounds. An array is made by filling its element as often (`generate_array_ends`), and a set aims at
as many members (`generate_set_aims`). A tuple has its items first, and then as many others as an
array without bounds may have (`generate_tuple_ends`). Only an unknown kind keeps an array or a
tuple from its size. All of this is `generate_sized`.
-/

import Specimen.Proofs.Making
import Specimen.Proofs.Numbered
import Specimen.Proofs.TargetSizes

namespace Specimen

open Run (Gives CountEnds)

/-! ### Items -/

namespace Make

/-- An array without bounds has up to ten items. -/
theorem targetSize_unbounded : Gives (targetSize [] arraySizes) fun target =>
    ∃ count : Nat, target = count ∧ count ≤ 10 := by
  have unbounded : Check.BoundByIntegers [] := List.forall_mem_nil _
  refine (unbounded.targetSize_gives arraySizes).mono fun target ⟨above, below⟩ => ?_
  obtain ⟨count, rfl⟩ := Int.eq_ofNat_of_zero_le above
  exact ⟨count, rfl, Int.ofNat_le.1 below⟩

/-- The items of an array are copies of what its element is filled with. -/
theorem items_ends {checks : List Check} {count : Nat} {session start : Session}
    (size : targetSize checks arraySizes session = (.ok (count : Int), start)) (element : Make)
    (context : Context) :
    CountEnds (element context) count start (items checks element context session) := by
  rw [items, Run.bind_ok size, Int.toNat_natCast]
  exact copies_ends (element context) count start

end Make

/-! ### Generation -/

theorem Schema.parts_inner {Meaning : Type} {meaning : Schema → Meaning} {schema element : Schema}
    (inner : schema.inner = some element) :
    (schema.parts meaning).inner = some (meaning element) := by
  rw [parts, inner]
  rfl

/-- How filling a tuple ends that has other items after its own. -/
inductive TupleEnds (environment : Environment) (schema rest : Schema) (context : Context)
    (session : Session) : Except Fault Value × Session → Prop
  | failed {fault : Fault} {last : Session}
      (items : (schema.items.mapM fun item => generate environment item context) session =
        (.error fault, last)) :
      TupleEnds environment schema rest context session (.error fault, last)
  | bare {fixed : List Value} {last : Session}
      (items : (schema.items.mapM fun item => generate environment item context) session =
        (.ok fixed, last))
      (whole : fixed.length = schema.items.length) (deepest : context.deeper = .ok none) :
      TupleEnds environment schema rest context session (.ok (.tuple fixed), last)
  | extended {fixed : List Value} {others : Except Fault (List Value)} {below : Context}
      {count : Nat} {middle start last : Session}
      (items : (schema.items.mapM fun item => generate environment item context) session =
        (.ok fixed, middle))
      (whole : fixed.length = schema.items.length) (deeper : context.deeper = .ok (some below))
      (size : Make.targetSize [] Make.arraySizes middle = (.ok (count : Int), start))
      (few : count ≤ 10)
      (follow : CountEnds (generate environment rest below) count start (others, last)) :
      TupleEnds environment schema rest context session
        (others.map fun others => .tuple (fixed ++ others), last)

section Generation

variable {environment : Environment} {schema : Schema} {context below : Context} {levels : Nat}
variable (has : context.HasLevels levels)
variable (own : context.overrides.lookup schema.tag = none)

include has own

/-- An array is filled with copies of what its element is filled with. -/
theorem generate_array_ends (deeper : context.deeper = .ok (some below))
    (kind : schema.kind = .array) {element : Schema} (inner : schema.inner = some element)
    {count : Nat} {session start : Session}
    (size : Make.targetSize schema.checks Make.arraySizes session = (.ok (count : Int), start)) :
    ∃ items last, CountEnds (generate environment element below) count start (items, last) ∧
      generate environment schema context session = (items.map .list, last) := by
  have ends := Make.items_ends size (generate environment element) below
  rcases made : Make.items schema.checks (generate environment element) below session with
    ⟨items, last⟩
  rw [made] at ends
  refine ⟨items, last, ends, ?_⟩
  rw [generate_of_deeper has deeper own
    (by rw [Make.builtin?, kind, Schema.parts_inner inner]; rfl)]
  refine Make.filled_map made fun fault failed => ?_
  rw [failed] at ends
  exact ends.fault (generate_failsWith environment _ below)

/-- A set aims at the size that is drawn. -/
theorem generate_set_aims (deeper : context.deeper = .ok (some below)) (kind : schema.kind = .set)
    {element : Schema} (inner : schema.inner = some element) {target : Int}
    {session start : Session}
    (size : Make.targetSize schema.checks Make.setSizes session = (.ok target, start)) :
    generate environment schema context session = Make.filled schema.tag context
      (Make.gather (generate environment element below) target) start := by
  rw [generate_of_deeper has deeper own
    (by rw [Make.builtin?, kind, Schema.parts_inner inner]; rfl)]
  exact Make.filled_bind size _

/-- A tuple has its items first, and then other items if there is a deeper level. -/
theorem generate_tuple_ends (kind : schema.kind = .tuple) {rest : Schema}
    (others : schema.rest = some rest) (session : Session) :
    TupleEnds environment schema rest context session
      (generate environment schema context session) := by
  have rule : Make.builtin? environment (generate environment) schema
      (schema.parts (generate environment)) = some (Make.tuple
        (schema.items.map (generate environment)) (some (generate environment rest))) := by
    rw [Make.builtin?, kind, Schema.parts, others]
    rfl
  have filling : Make.tuple (schema.items.map (generate environment))
      (some (generate environment rest)) context = (do
        let fixed ← schema.items.mapM fun item => generate environment item context
        let others ← Make.restItems (some (generate environment rest)) context
        pure (.tuple (fixed ++ others))) := by
    rw [Make.tuple, List.mapM_map]
    rfl
  rw [generate_of_levels has own rule, filling]
  rcases items : (schema.items.mapM fun item => generate environment item context) session with
    ⟨fault | fixed, middle⟩
  · have unknown : fault.isUnknownType = true :=
      Run.FailsWith.mapM (fun item _ => generate_failsWith environment item context) _ _ _ items
    rw [Make.filled_eq (Run.bind_error items _) fun other same => Except.error.inj same ▸ unknown]
    exact .failed items
  have whole : fixed.length = schema.items.length := by
    have related := Run.Yields.mapM (fun item (_ : item ∈ schema.items) =>
      Run.Yields.trivial (generate environment item context)) session fixed middle items
    exact related.length_eq.symm
  rw [Make.filled_bind items]
  cases levels with
  | zero =>
    have bare : Make.restItems (some (generate environment rest)) context middle =
        (.ok [], middle) := by
      rw [Make.restItems_eq, has.deeper_zero]
      rfl
    rw [Make.filled_map bare fun _ failed => (by cases failed), Except.map, List.append_nil]
    exact .bare items whole has.deeper_zero
  | succ levels =>
    obtain ⟨below, deeper, _⟩ := has.deeper_succ
    obtain ⟨_, start, size, count, rfl, few⟩ := Make.targetSize_unbounded middle
    have ends := Make.items_ends size (generate environment rest) below
    rcases made : Make.items [] (generate environment rest) below middle with ⟨others, last⟩
    have follow : Make.restItems (some (generate environment rest)) context middle =
        (others, last) := by
      rw [Make.restItems_eq, deeper]
      exact made
    rw [made] at ends
    rw [Make.filled_map follow fun fault failed => ?_]
    · exact .extended items whole deeper size few ends
    · rw [failed] at ends
      exact ends.fault (generate_failsWith environment _ below)

variable (environment) in
/-- **Collections have the sizes that are asked for.** There always are sizes to draw from, and the
one that is drawn fits the bounds. An array has as many items, and a set aims at as many members; a
tuple has its items before up to ten others. -/
theorem generate_sized :
    (Check.BoundSizes schema.checks →
      (∀ usual : Int × Int, ∃ low high first last,
        (SizeBounds.ofChecks schema.checks).resolve (.int usual.1) (.int usual.2) = .ok (low, high) ∧
          low.toInt? = some first ∧ high.toInt? = some last ∧ first ≤ last) ∧
      ∀ below element, context.deeper = .ok (some below) → schema.inner = some element →
        (schema.kind = .array → ∀ session, ∃ count : Nat, ∃ start items last,
          Make.targetSize schema.checks Make.arraySizes session = (.ok (count : Int), start) ∧
            IsFitting (Check.leastLength? schema.checks) (Check.greatestLength? schema.checks) count ∧
              CountEnds (generate environment element below) count start (items, last) ∧
                generate environment schema context session = (items.map .list, last)) ∧
        (schema.kind = .set → ∀ session, ∃ count : Nat, ∃ start,
          Make.targetSize schema.checks Make.setSizes session = (.ok (count : Int), start) ∧
            IsFitting (Check.leastLength? schema.checks) (Check.greatestLength? schema.checks) count ∧
              generate environment schema context session = Make.filled schema.tag context
                (Make.gather (generate environment element below) count) start)) ∧
    (schema.kind = .tuple → ∀ rest, schema.rest = some rest → ∀ session,
      TupleEnds environment schema rest context session
        (generate environment schema context session)) := by
  refine ⟨fun sizes => ⟨fun usual => ?_, fun below element deeper inner => ⟨?_, ?_⟩⟩, ?_⟩
  · obtain ⟨low, high, resolved, isLow, isHigh⟩ := sizes.boundByIntegers.resolve usual
    exact ⟨low, high, _, _, resolved, isLow, isHigh, sizesToDraw_ordered _ _ usual⟩
  · intro kind session
    obtain ⟨_, start, size, count, rfl, fitting⟩ :=
      sizes.targetSize_gives Make.arraySizes (by decide) session
    obtain ⟨items, last, ends, made⟩ := generate_array_ends has own deeper kind inner size
    exact ⟨count, start, items, last, size, fitting, ends, made⟩
  · intro kind session
    obtain ⟨_, start, size, count, rfl, fitting⟩ :=
      sizes.targetSize_gives Make.setSizes (by decide) session
    exact ⟨count, start, size, fitting, generate_set_aims has own deeper kind inner size⟩
  · exact fun kind rest others session => generate_tuple_ends has own kind others session

end Generation

/-- An array of booleans with a least size of 5 and a greatest of 2. -/
def crossedArray : Schema := (Schema.boolean.array.min (.int 5) true).max (.int 2) true

/-- If the greatest size is below the least, an array has the greatest. -/
theorem crossedArray_sized : Gives (generate (.numbered []) crossedArray {}) fun value =>
    ∃ first second, value = .list [first, second] := by
  have sizes : Check.BoundSizes crossedArray.checks := by
    intro check mem _
    rcases List.mem_cons.1 mem with rfl | mem
    · exact ⟨5, rfl⟩
    · cases List.mem_singleton.1 mem
      exact ⟨2, rfl⟩
  have least : Check.leastLength? crossedArray.checks = some 5 := by decide +kernel
  have greatest : Check.greatestLength? crossedArray.checks = some 2 := by decide +kernel
  have has : Context.HasLevels {} 10 := ⟨0, 10, rfl, rfl, rfl⟩
  have deeper : Context.deeper {} = .ok (some { currentDepth := .int 1 }) := rfl
  have booleans : Gives (generate (.numbered []) .boolean { currentDepth := .int 1 }) fun _ =>
      True :=
    generate_gives_of_builtin rfl (fun _ _ => rfl)
      (Draw.boolean_gives.bind fun _ _ => Gives.pure True.intro)
  intro session
  obtain ⟨count, start, items, last, _, fitting, ends, made⟩ :=
    (((generate_sized (.numbered []) has rfl).1 sizes).2 _ .boolean deeper rfl).1 rfl session
  obtain rfl : count = 2 := Int.ofNat.inj (fitting.exactly 5 2 least greatest (by decide))
  cases ends with
  | @all values _ repeats enough =>
    obtain ⟨first, second, rfl⟩ := List.length_eq_two.1 enough
    exact ⟨_, last, made, first, second, rfl⟩
  | @failed values _ after _ repeats fewer fails =>
    obtain ⟨value, next, given, _⟩ := booleans after
    cases given.symm.trans fails

end Specimen
