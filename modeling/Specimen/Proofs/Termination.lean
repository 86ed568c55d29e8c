/-
**Validation comes to an end.**

Validation has no bound on depth of its own. It asks about parts of a value, which are less deep, or
it hands the value itself on, and where no circle of definitions hands a value on to itself it does
so only so often: no more lazy nodes are passed on one value than there are definitions
(`Schema.Definitions.IsGuarded.passesWithin`). So every chain of questions ends, and no way into a
value passes more lazy nodes than `passLimit` says: any judge at all may stand for a definition
further away, and any number of passes beyond the limit may be allowed (`validate_terminates`).
-/

import Specimen.Proofs.Ways

namespace Specimen

namespace Schema

variable {definitions : Definitions}

/-! ### Passes on one value -/

/-- A value that the schema is asked about is handed on to no more than a number of lazy nodes in a
row. -/
def PassesWithin (definitions : Definitions) : Nat → Schema → Prop
  | 0, schema => ∀ name target, schema.RefersTo name →
      definitions.lookup name ≠ some (.ok target)
  | passes + 1, schema => ∀ name target, schema.RefersTo name →
      definitions.lookup name = some (.ok target) → PassesWithin definitions passes target

namespace PassesWithin

variable {passes : Nat} {schema : Schema}

theorem child (within : PassesWithin definitions passes schema) {child : Schema}
    (mem : child ∈ schema.handed) : PassesWithin definitions passes child := by
  cases passes with
  | zero => exact fun name target refers => within name target (.child mem refers)
  | succ passes => exact fun name target refers => within name target (.child mem refers)

/-- Passing the lazy node uses up one pass. -/
theorem definition (within : PassesWithin definitions passes schema) {target : Schema}
    (stands : schema.StandsFor definitions target) :
    ∃ fewer, passes = fewer + 1 ∧ PassesWithin definitions fewer target := by
  obtain ⟨name, reference, found⟩ := resolve_found stands.found
  have refers : schema.RefersTo name := .lazy stands.kind reference
  cases passes with
  | zero => exact absurd found (within name target refers)
  | succ passes => exact ⟨passes, rfl, within name target refers found⟩

end PassesWithin

namespace Definitions

/-- The schema hands values on to the name, at any remove. -/
def Reaches (definitions : Definitions) (schema : Schema) (name : String) : Prop :=
  ∃ first, schema.RefersTo first ∧ Relation.ReflTransGen definitions.Refers first name

/-- Definitions that only refer to definitions of lower rank are guarded. -/
theorem IsGuarded.of_rank (rank : String → Nat)
    (lower : ∀ first second, definitions.Refers first second → rank second < rank first) :
    definitions.IsGuarded := by
  intro name circle
  have descends : Relation.TransGen (· > ·) (rank name) (rank name) := circle.lift rank lower
  rw [Relation.transGen_eq_self] at descends
  exact Nat.lt_irrefl _ descends

/-- Each definition is passed once at most while a value is handed on. -/
theorem IsGuarded.passesWithin_of_fresh (guarded : definitions.IsGuarded) {fresh : List String}
    {schema : Schema}
    (listed : ∀ name target, definitions.Reaches schema name →
      definitions.lookup name = some (.ok target) → name ∈ fresh) :
    PassesWithin definitions fresh.length schema := by
  induction size : fresh.length generalizing fresh schema with
  | zero =>
    intro name target refers found
    have mem := listed name target ⟨name, refers, .refl⟩ found
    rw [List.length_eq_zero_iff.1 size] at mem
    cases mem
  | succ count hypothesis =>
    intro name target refers found
    have mem := listed name target ⟨name, refers, .refl⟩ found
    have shorter : (fresh.erase name).length = count := by
      rw [List.length_erase_of_mem mem, size]
      rfl
    refine hypothesis ?_ shorter
    rintro other definition ⟨first, refersOn, leads⟩ foundOther
    have further : Relation.TransGen definitions.Refers name other :=
      .head' ⟨target, found, refersOn⟩ leads
    have different : other ≠ name := fun same => guarded name (same ▸ further)
    exact (List.mem_erase_of_ne different).2
      (listed other definition ⟨name, refers, further.to_reflTransGen⟩ foundOther)

theorem IsGuarded.passesWithin (guarded : definitions.IsGuarded) (schema : Schema) :
    PassesWithin definitions definitions.length schema := by
  have within : PassesWithin definitions (definitions.map (·.1)).length schema :=
    guarded.passesWithin_of_fresh fun name target _ found =>
      List.mem_map_of_mem (mem_of_lookup found)
  rwa [List.length_map] at within

end Definitions

end Schema

/-! ### Definitions out of reach -/

section OutOfReach

variable [Format.LocationRules] {definitions : Schema.Definitions}

/-- The issues of a value, passing no more than a number of lazy nodes on any way into it; what a
lazy node further away stands for is left to `beyond`. -/
def validateBeyond (definitions : Schema.Definitions) (beyond : Schema → Judge) :
    Nat → Schema → Judge
  | 0 => Schema.fold (Judge.ofNode definitions beyond)
  | passes + 1 => Schema.fold (Judge.ofNode definitions (validateBeyond definitions beyond passes))

/-- The issues of a value by a definition after passing a lazy node. -/
def judgeBeyond (definitions : Schema.Definitions) (beyond : Schema → Judge) :
    Nat → Schema → Judge
  | 0 => beyond
  | passes + 1 => validateBeyond definitions beyond passes

theorem validateBeyond_eq (beyond : Schema → Judge) (passes : Nat) (schema : Schema) :
    validateBeyond definitions beyond passes schema =
      Judge.ofNode definitions (judgeBeyond definitions beyond passes) schema
        (schema.parts (validateBeyond definitions beyond passes)) := by
  cases passes with
  | zero | succ => exact Schema.fold_eq _ schema

/-- A node judges alike if its children do, as far as they are asked, and the definition that it
stands for. -/
theorem Judge.ofNode_congr {left right lower lowerOther : Schema → Judge} {schema : Schema}
    {subject : Value} {path : Path}
    (handed : ∀ child ∈ schema.handed, left child subject path = right child subject path)
    (parts : ∀ child ∈ schema.judged, ∀ part place, subject.Offers part →
      left child part place = right child part place)
    (definition : ∀ target, schema.StandsFor definitions target →
      lower target subject path = lowerOther target subject path) :
    Judge.ofNode definitions lower schema (schema.parts left) subject path =
      Judge.ofNode definitions lowerOther schema (schema.parts right) subject path := by
  refine Approximates.antisymm ?_ ?_
  · exact Judge.ofNode_approximates (fun child mem => .inr (handed child mem))
      (fun child mem part place offers => .inr (parts child mem part place offers))
      fun target stands => .inr (definition target stands)
  · exact Judge.ofNode_approximates (fun child mem => .inr (handed child mem).symm)
      (fun child mem part place offers => .inr (parts child mem part place offers).symm)
      fun target stands => .inr (definition target stands).symm

/-- Where so many passes are enough for the parts of a value, the passes on the value itself are
enough on top of them. -/
theorem validateBeyond_of_parts {beyond : Schema → Judge} {subject : Value} {path : Path}
    {base : Nat}
    (parts : ∀ passes schema part place, base ≤ passes → subject.Offers part →
      validateBeyond definitions beyond passes schema part place =
        validate definitions schema part place) {own passes : Nat} {schema : Schema}
    (within : schema.PassesWithin definitions own) (enough : base + own ≤ passes) :
    validateBeyond definitions beyond passes schema subject path =
      validate definitions schema subject path := by
  induction own using Nat.strongRecOn generalizing passes schema with
  | ind own shorter =>
    induction schema using Schema.byParts with
    | step schema hypothesis =>
      rw [validateBeyond_eq, validate_eq]
      refine Judge.ofNode_congr (fun child mem => ?_) (fun child _ part place offers => ?_)
        fun target stands => ?_
      · have judged := Schema.mem_judged_of_handed mem
        exact hypothesis child (Schema.mem_children_of_judged judged) (within.child mem)
      · exact parts passes child part place (Nat.le_of_add_right_le enough) offers
      · obtain ⟨fewer, rfl, withinTarget⟩ := within.definition stands
        obtain ⟨passes, rfl⟩ : ∃ later, passes = later + 1 := ⟨passes - 1, by omega⟩
        exact shorter fewer (Nat.lt_succ_self fewer) withinTarget (by omega)

/-- For each level of a value, as many passes as there are definitions are enough. -/
theorem validateBeyond_of_depth (guarded : definitions.IsGuarded) (beyond : Schema → Judge)
    {depth : Nat} {subject : Value} (shallow : subject.depth ≤ depth) {passes : Nat}
    (enough : (depth + 1) * definitions.length ≤ passes) (schema : Schema) (path : Path) :
    validateBeyond definitions beyond passes schema subject path =
      validate definitions schema subject path := by
  induction depth generalizing subject passes schema path with
  | zero =>
    have parts : ∀ passes schema part place, 0 ≤ passes → subject.Offers part →
        validateBeyond definitions beyond passes schema part place =
          validate definitions schema part place := by
      intro passes schema part place _ offers
      have lower := offers.depth_lt
      omega
    exact validateBeyond_of_parts parts (guarded.passesWithin schema) (by omega)
  | succ depth hypothesis =>
    have parts : ∀ passes schema part place, (depth + 1) * definitions.length ≤ passes →
        subject.Offers part → validateBeyond definitions beyond passes schema part place =
          validate definitions schema part place := by
      intro passes schema part place enough offers
      have lower := offers.depth_lt
      exact hypothesis (by omega) enough schema place
    rw [Nat.succ_mul] at enough
    exact validateBeyond_of_parts parts (guarded.passesWithin schema) enough

/-- **Validation comes to an end** where no circle of definitions hands a value on to itself: every
chain of questions that it asks is finite, and it never comes to the limit that it is computed with,
so that neither a higher limit nor what stands for the definitions beyond it makes a difference. -/
theorem validate_terminates (guarded : definitions.IsGuarded) (schema : Schema) (subject : Value)
    (path : Path) :
    Acc (fun asked asking => Schema.Asks definitions asking asked) (schema, subject) ∧
      ∀ beyond passes, passLimit definitions subject ≤ passes →
        validateBeyond definitions beyond passes schema subject path =
          validate definitions schema subject path := by
  refine ⟨?_, fun beyond passes enough => ?_⟩
  · let Ends (other : Schema) (part : Value) : Prop :=
      Acc (fun asked asking => Schema.Asks definitions asking asked) (other, part)
    have ends : Ends schema subject :=
      Schema.byValue schema subject (fun other _ _ => guarded.grounded other)
        fun other part _ each => .intro (other, part) fun asked asks => each asked.1 asked.2 asks
    exact ends
  · have fewer : (subject.depth + 1) * definitions.length ≤ passLimit definitions subject :=
      Nat.mul_le_mul (by omega) (by omega)
    exact validateBeyond_of_depth guarded beyond (Nat.le_refl _) (fewer.trans enough) schema path

end OutOfReach

/-- Chains of links, each of which may be null: `chain` hands a value on to `link`. -/
def chains : Schema.Definitions :=
  [("chain", .ok (.nullable (.lazy "link"))), ("link", .ok (.object [("next", .lazy "chain")]))]

/-- A chain of a number of links. -/
def chainOf : Nat → Value
  | 0 => .null
  | links + 1 => .dictionary [(.text "next", chainOf links)]

/-- A chain of three links is followed to its end. -/
theorem chains_terminates :
    Acc (fun asked asking => Schema.Asks chains asking asked) (.lazy "chain", chainOf 3) ∧
      ∀ beyond passes, passLimit chains (chainOf 3) ≤ passes →
        validateBeyond chains beyond passes (.lazy "chain") (chainOf 3) [] =
          validate chains (.lazy "chain") (chainOf 3) [] := by
  have guarded : chains.IsGuarded := by
    refine .of_rank (fun name => if name = "chain" then 1 else 0) ?_
    rintro first second ⟨target, found, refers⟩
    rcases List.mem_cons.1 (mem_of_lookup found) with same | later
    · cases same
      cases refers with
      | lazy kind => cases kind
      | child mem refers =>
        cases List.mem_singleton.1 mem
        cases refers with
        | lazy kind reference =>
          cases reference
          decide
        | child mem => cases mem
    · cases List.mem_singleton.1 later
      cases refers with
      | lazy kind => cases kind
      | child mem => cases mem
  exact validate_terminates guarded (.lazy "chain") (chainOf 3) []

end Specimen
