/-
**Ways into schemas.**

A node hands a value on to wrapped schemas, to the options of a union, to the parts of an
intersection and, if it is lazy, to a definition. Definitions may refer to each other in circles. As
long as no circle consists of such references alone, handing on comes to an end
(`Schema.Definitions.IsGuarded.grounded`), and what is shown of a schema and a value from what the
value is handed on to, and from the parts of the value, holds of them (`Schema.byValue`).
-/

import Mathlib.Data.Set.Finite.Basic
import Mathlib.Order.WellFounded
import Specimen.Proofs.Unfolding

namespace Specimen

/-- Where none of finitely many places leads back to itself, a property holds of each of them that
holds of a place if it holds of all those that the place leads to. -/
theorem forall_of_acyclic {Place : Type} {leads : Place → Place → Prop} {places : List Place}
    (acyclic : ∀ place ∈ places, ¬ Relation.TransGen leads place place) {property : Place → Prop}
    (step : ∀ place ∈ places,
      (∀ other ∈ places, Relation.TransGen leads place other → property other) → property place) :
    ∀ place ∈ places, property place := by
  let Listed := { place : Place // place ∈ places }
  let after (second first : Listed) : Prop := Relation.TransGen leads first.1 second.1
  have isTrans : IsTrans Listed after := ⟨fun _ _ _ first second => second.trans first⟩
  have isIrrefl : Std.Irrefl after := ⟨fun place => acyclic place.1 place.2⟩
  have finite : Finite Listed := (List.finite_toSet places).to_subtype
  have ends : WellFounded after := Finite.wellFounded_of_trans_of_irrefl after
  have each : ∀ place : Listed, property place.1 := by
    intro place
    induction place using ends.induction with
    | h place hypothesis =>
      exact step place.1 place.2 fun other mem reached => hypothesis ⟨other, mem⟩ reached
  exact fun place mem => each ⟨place, mem⟩

namespace Schema

variable {definitions : Definitions}

/-! ### Schemas that are reached -/

/-- The judge of the node looks at the child. -/
def Judges (schema child : Schema) : Prop := child ∈ schema.judged

/-- The property holds of a schema, of what is reached from it by a relation, and of what lazy nodes
stand for. -/
def Throughout (definitions : Definitions) (reaches : Schema → Schema → Prop)
    (property : Schema → Prop) (schema : Schema) : Prop :=
  ∀ last, Relation.ReflTransGen
    (fun first second => reaches first second ∨ first.StandsFor definitions second) schema last →
      property last

namespace Throughout

variable {reaches : Schema → Schema → Prop} {property : Schema → Prop} {schema : Schema}

theorem here (every : Throughout definitions reaches property schema) : property schema :=
  every schema .refl

theorem child (every : Throughout definitions reaches property schema) {child : Schema}
    (reached : reaches schema child) : Throughout definitions reaches property child :=
  fun last leads => every last (.head (.inl reached) leads)

theorem definition (every : Throughout definitions reaches property schema) {target : Schema}
    (stands : schema.StandsFor definitions target) :
    Throughout definitions reaches property target :=
  fun last leads => every last (.head (.inr stands) leads)

theorem intro (here : property schema)
    (children : ∀ child, reaches schema child → Throughout definitions reaches property child)
    (definition : ∀ target, schema.StandsFor definitions target →
      Throughout definitions reaches property target) :
    Throughout definitions reaches property schema := by
  intro last leads
  rcases leads.cases_head with rfl | ⟨next, reached | stands, further⟩
  · exact here
  · exact children next reached last further
  · exact definition next stands last further

end Throughout

/-! ### Handing on -/

/-- The judge of the node asks the other schema about the value itself. -/
inductive HandsTo (definitions : Definitions) (schema : Schema) : Schema → Prop
  | child {child : Schema} (mem : child ∈ schema.handed) : HandsTo definitions schema child
  | definition {target : Schema} (stands : schema.StandsFor definitions target) :
      HandsTo definitions schema target

/-- A value is handed on only so often. -/
inductive IsGrounded (definitions : Definitions) : Schema → Prop
  | intro {schema : Schema}
      (next : ∀ other, schema.HandsTo definitions other → IsGrounded definitions other) :
      IsGrounded definitions schema

/-- Judging a value by a schema asks another schema about the value itself, or about one of its
parts. -/
inductive Asks (definitions : Definitions) : Schema × Value → Schema × Value → Prop
  | same {schema other : Schema} {subject : Value} (hands : schema.HandsTo definitions other) :
      Asks definitions (schema, subject) (other, subject)
  | part {schema child : Schema} {subject part : Value} (mem : child ∈ schema.judged)
      (offers : subject.Offers part) : Asks definitions (schema, subject) (child, part)

/-- What is asked when a value is judged by a schema, at any remove. -/
def AsksLater (definitions : Definitions) : Schema × Value → Schema × Value → Prop :=
  Relation.ReflTransGen (Asks definitions)

/-- What is asked is reached by looking at children and at what lazy nodes stand for. -/
theorem Throughout.asked {property : Schema → Prop} {asking asked : Schema × Value}
    (every : asking.1.Throughout definitions Judges property)
    (leads : AsksLater definitions asking asked) :
    asked.1.Throughout definitions Judges property := by
  induction leads with
  | refl => exact every
  | tail _ asks hypothesis =>
    cases asks with
    | same hands =>
      cases hands with
      | child mem => exact hypothesis.child (mem_judged_of_handed mem)
      | definition stands => exact hypothesis.definition stands
    | part mem _ => exact hypothesis.child mem

/-- A property holds of a schema and a value, and of what is asked later, if it holds whenever it
holds of what is asked next. -/
theorem byValue {Property : Schema → Value → Prop} (schema : Schema) (subject : Value)
    (grounded : ∀ other part, AsksLater definitions (schema, subject) (other, part) →
      other.IsGrounded definitions)
    (step : ∀ other part, AsksLater definitions (schema, subject) (other, part) →
      (∀ next piece, Asks definitions (other, part) (next, piece) → Property next piece) →
      Property other part) : Property schema subject := by
  induction depth : subject.depth using Nat.strongRecOn generalizing schema subject with
  | ind depth shallower =>
    have ends := grounded schema subject .refl
    induction ends with
    | @intro schema _ hypothesis =>
      refine step schema subject .refl fun other part asks => ?_
      have later : ∀ last piece, AsksLater definitions (other, part) (last, piece) →
          AsksLater definitions (schema, subject) (last, piece) := fun _ _ leads => .head asks leads
      have groundedLater := fun last piece leads => grounded last piece (later last piece leads)
      have stepLater := fun last piece leads => step last piece (later last piece leads)
      cases asks with
      | same hands => exact hypothesis other hands groundedLater stepLater
      | part mem offers =>
        exact shallower part.depth (depth ▸ offers.depth_lt) other part groundedLater stepLater rfl

/-! ### References in circles -/

/-- A value that the schema is asked about may be handed on to a lazy node with the name. -/
inductive RefersTo (name : String) : Schema → Prop
  | lazy {schema : Schema} (kind : schema.kind = .lazy)
      (reference : schema.traits.reference = some name) : RefersTo name schema
  | child {schema child : Schema} (mem : child ∈ schema.handed) (refers : RefersTo name child) :
      RefersTo name schema

/-- The definition of the first name hands values on to the second one. -/
def Definitions.Refers (definitions : Definitions) (first second : String) : Prop :=
  ∃ target, definitions.lookup first = some (.ok target) ∧ target.RefersTo second

/-- No definition hands values on to itself. -/
def Definitions.IsGuarded (definitions : Definitions) : Prop :=
  ∀ name, ¬ Relation.TransGen definitions.Refers name name

/-- A schema is grounded if the definitions are that it hands values on to. -/
theorem IsGrounded.of_references {schema : Schema}
    (each : ∀ name target, schema.RefersTo name → definitions.lookup name = some (.ok target) →
      target.IsGrounded definitions) : schema.IsGrounded definitions := by
  induction schema using Schema.byParts with
  | step schema hypothesis =>
    refine .intro fun other hands => ?_
    cases hands with
    | child mem =>
      exact hypothesis other (mem_children_of_judged (mem_judged_of_handed mem))
        fun name target refers => each name target (.child mem refers)
    | definition stands =>
      obtain ⟨name, reference, listed⟩ := resolve_found stands.found
      exact each name other (.lazy stands.kind reference) listed

namespace Definitions.IsGuarded

/-- Following the names of guarded definitions comes to an end. -/
theorem acc (guarded : definitions.IsGuarded) (name : String) :
    Acc (fun second first => definitions.Refers first second) name := by
  have unlisted : ∀ name ∉ definitions.map (·.1),
      Acc (fun second first => definitions.Refers first second) name := by
    intro name other
    refine .intro name ?_
    rintro second ⟨target, found, _⟩
    exact absurd (List.mem_map_of_mem (mem_of_lookup found)) other
  by_cases listed : name ∈ definitions.map (·.1)
  · refine forall_of_acyclic (fun name _ => guarded name) (fun name _ hypothesis => ?_) name listed
    refine .intro name fun second refers => ?_
    by_cases listed : second ∈ definitions.map (·.1)
    · exact hypothesis second listed (.single refers)
    · exact unlisted second listed
  · exact unlisted name listed

/-- Where definitions are guarded, every schema hands values on only so often. -/
theorem grounded (guarded : definitions.IsGuarded) (schema : Schema) :
    schema.IsGrounded definitions := by
  have each : ∀ name target, definitions.lookup name = some (.ok target) →
      target.IsGrounded definitions := by
    intro name
    induction guarded.acc name with
    | intro name _ hypothesis =>
      intro target found
      exact .of_references fun other definition refers =>
        hypothesis other ⟨target, found, refers⟩ definition
  exact .of_references fun name target _ => each name target

end Definitions.IsGuarded

end Schema

end Specimen
