/-
**Texts, dates and collections keep correspondences.**

`Specimen.Proofs.Correspondence` names relations between the runs of two environments. Here the ways
of filling texts, numbers, dates and collections are shown to keep such a relation, given that the
makings that they are built from do. `Specimen.Proofs.Simulation` puts them together for nodes.
-/

import Specimen.Proofs.Correspondence

namespace Specimen

variable {first second : Environment} (link : Correspondence first second)

/-! ### Fields by name -/

namespace Catalog

/-- A request is answered alike on both sides. -/
theorem make_same (reference : Value) (request : Request) :
    link.same (request.make first reference) (request.make second reference) := by
  cases request with
  | plain name => exact link.provider _
  | pinned name arguments => exact link.provider _
  | birthDate =>
    exact link.bindSame (link.lift (Value.earlier_ordinary _ _)) fun _ => link.provider _
  | cardExpiry =>
    refine link.bindSame (link.lift (Value.later_ordinary _ _)) fun last => ?_
    refine link.bindSame (link.provider _) fun found => ?_
    split
    · exact link.pureSame _
    · exact link.pureSame _
    · exact link.throw rfl

/-- The mapper that comes with the catalog gives the same reply on both sides. -/
theorem builtinMapper_alike (name : Value) :
    link.runs (Reply.Alike link.same) (builtinMapper first name) (builtinMapper second name) := by
  unfold builtinMapper
  split
  · exact link.pure (.value _)
  · refine link.bindSame (link.lift (TextSynthesis.nameText_ordinary _)) fun text => ?_
    split
    · exact link.pure (.generator (link.provider _))
    · exact link.pure (.value _)

variable {schema : Schema} {context : Context}

/-- The mapper of the caller gives the same reply on both sides. -/
theorem askMapper_alike (suits : link.suits schema context) (name : Value) :
    link.runs (Reply.Alike link.same) (askMapper first context.mapper name)
      (askMapper second context.mapper name) := by
  unfold askMapper
  cases chosen : context.mapper with
  | none => exact builtinMapper_alike link name
  | some hook => exact link.mapper name suits chosen

/-- The generator that is found for a field is the same on both sides. -/
theorem generator_alike (suits : link.suits schema context) (reference name : Value) :
    link.runs (Reply.Alike link.same) (generator first context.mapper reference name)
      (generator second context.mapper reference name) := by
  refine link.bind (askMapper_alike link suits name) fun reply other alike => ?_
  have asTrue : other.isTruthy = reply.isTruthy := by cases alike <;> rfl
  rw [asTrue, link.setting.today]
  split
  · exact link.pure alike
  · refine link.bindSame (link.lift (TextSynthesis.nameText_ordinary _)) fun text => ?_
    split
    · exact link.pure (.value _)
    · exact link.pure (.generator (make_same link _ _))

end Catalog

/-! ### Texts -/

namespace TextSynthesis

variable {schema : Schema} {context : Context}

/-- Twins have one reference date. -/
theorem referenceDate_twin (context : Context) :
    second.referenceDate (link.twin context) = first.referenceDate context := by
  unfold Environment.referenceDate
  rw [(link.choices context).referenceDate, link.setting.today]

theorem targetLength_same (bounds : TextBounds) :
    link.same (targetLength bounds) (targetLength bounds) :=
  link.bindSame (link.lift (lengthInterval_ordinary bounds)) fun interval =>
    Draw.integer_same link interval.1 interval.2

/-- A source of texts gives the same text on both sides. -/
theorem source_same (source : TextSource) (context : Context) :
    link.same (source.make first context) (source.make second (link.twin context)) := by
  cases source with
  | provided name => exact link.provider _
  | recentMoment =>
    unfold TextSource.make
    rw [referenceDate_twin link context]
    exact link.bindSame (Draw.recent_same link _ _) fun moment => link.pureSame _

/-- The resolver gives the same reply on both sides. -/
theorem resolved_alike (suits : link.suits schema context) :
    link.runs (Reply.Alike link.same) (resolved first context)
      (resolved second (link.twin context)) := by
  unfold resolved
  rw [(link.choices context).resolver, (link.choices context).keyName,
    (link.choices context).mapper, referenceDate_twin link context]
  cases chosen : context.resolver with
  | none => exact Catalog.generator_alike link suits _ _
  | some hook => exact link.resolver _ suits chosen

theorem call_same {reply other : Reply} (alike : Reply.Alike link.same reply other) :
    link.same reply.call other.call := by
  cases alike with
  | value returned =>
    simp only [Reply.call]
    split
    · exact link.pureSame _
    · exact link.throw rfl
  | generator alike => exact alike

theorem plainWord_same (target : Int) :
    link.same (plainWord first target) (plainWord second target) :=
  Draw.word_same link _

/-- The text for a field is the same on both sides. -/
theorem fieldText_same (suits : link.suits schema context) (target : Int) :
    link.same (fieldText first context target) (fieldText second (link.twin context) target) := by
  unfold fieldText
  rw [(link.choices context).keyName]
  split
  · refine link.bind (resolved_alike link suits) fun reply other alike => ?_
    have asNull : other.isNull = reply.isNull := by cases alike <;> rfl
    rw [asNull]
    split
    · exact plainWord_same link target
    · exact call_same link alike
  · exact plainWord_same link target

/-- The text is the same on both sides before it is fitted. -/
theorem rawText_same (suits : link.suits schema context) (bounds : TextBounds) (target : Int) :
    link.same (rawText first bounds context target)
      (rawText second bounds (link.twin context) target) := by
  have named : fieldName (link.twin context) = fieldName context := by
    unfold fieldName
    rw [(link.choices context).keyName]
  unfold rawText
  rw [named]
  refine link.bindSame (link.lift (fieldName_ordinary context)) fun field => ?_
  simp only
  split
  · exact link.bindSame (source_same link _ context) fun made => link.pureSame _
  · exact link.bindSame (fieldText_same link suits target) fun made => link.pureSame _

/-- A text is padded alike on both sides. -/
theorem padTo_same (bound : Value) (text : String) :
    link.same (padTo bound text) (padTo bound text) := by
  refine link.bindSame (link.lift (Value.compares_ordinary _ _ _)) fun short => ?_
  split
  · split
    · exact link.bindSame (Draw.alpha_same link _) fun more => link.pureSame _
    · exact link.throw rfl
  · exact link.pureSame _

/-- A text is fitted alike on both sides. -/
theorem fit_same (bounds : TextBounds) (text : String) :
    link.same (fit bounds text) (fit bounds text) := by
  unfold fit
  cases bounds.min with
  | none =>
    cases bounds.max with
    | none => exact link.bindSame (link.pureSame text) fun padded => link.pureSame padded
    | some bound =>
      exact link.bindSame (link.pureSame text) fun padded =>
        link.lift (cutTo_ordinary bound padded)
  | some least =>
    cases bounds.max with
    | none => exact link.bindSame (padTo_same link least text) fun padded => link.pureSame padded
    | some bound =>
      exact link.bindSame (padTo_same link least text) fun padded =>
        link.lift (cutTo_ordinary bound padded)

/-- Texts without a pattern keep the relation. -/
theorem unpatterned_rules (suits : link.suits schema context) (bounds : TextBounds) :
    link.rules (unpatterned first bounds context)
      (unpatterned second bounds (link.twin context)) := by
  have found : callersFunction? (link.twin context) = callersFunction? context := by
    unfold callersFunction?
    rw [(link.choices context).keyName, (link.choices context).stringMap]
  unfold unpatterned
  rw [found]
  refine link.thenRuleSame (link.lift (callersFunction_ordinary context)) fun chosen => ?_
  split
  · exact link.bare _
  · refine link.rule ?_
    refine link.bindSame (targetLength_same link bounds) fun target => ?_
    refine link.bindSame (rawText_same link suits bounds target) fun text => ?_
    exact link.bindSame (fit_same link bounds text) fun fitted => link.pureSame _

/-- Texts keep the relation, with a pattern or without. -/
theorem make_rules (suits : link.suits schema context) (checks : List Check) :
    link.rules (make first checks context) (make second checks (link.twin context)) := by
  unfold make
  simp only
  split
  · exact link.rule (link.bindSame (Draw.fromPattern_same link _ _) fun text => link.pureSame _)
  · exact unpatterned_rules link suits _

end TextSynthesis

/-! ### Dates -/

namespace DateBounds

theorem declared_same (name : String) (bound : Value) :
    link.same (declared name bound) (declared name bound) := by
  refine link.bindSame (link.lift (momentOf_ordinary bound)) fun found => ?_
  split
  · exact link.bindSame (link.log _ _ _ (by decide)) fun _ => link.pureSame _
  · exact link.pureSame _

/-- A bound of dates is read alike on both sides. -/
theorem declare_same (bounds : DateBounds) (check : Check) :
    link.same (declare bounds check) (declare bounds check) := by
  unfold declare
  split
  · exact link.bindSame (declared_same link _ _) fun found => link.pureSame _
  · exact link.bindSame (declared_same link _ _) fun found => link.pureSame _
  · exact link.pureSame _

theorem foldlM_declare_same (checks : List Check) (bounds : DateBounds) :
    link.same (checks.foldlM declare bounds) (checks.foldlM declare bounds) := by
  induction checks generalizing bounds with
  | nil => exact link.pureSame bounds
  | cons check others hypothesis =>
    rw [List.foldlM_cons]
    exact link.bindSame (declare_same link bounds check) hypothesis

/-- The bounds of dates are the same on both sides. -/
theorem ofChecks_same (checks : List Check) : link.same (ofChecks checks) (ofChecks checks) :=
  link.bindSame (foldlM_declare_same link checks {}) fun _ => link.pureSame _

end DateBounds

/-! ### Leaves -/

namespace Make

/-- Numbers are the same on both sides. -/
theorem number_same (checks : List Check) (context : Context) :
    link.same (number checks context) (number checks (link.twin context)) := by
  refine link.bindSame (link.lift (NumberBounds.integers_ordinary _)) fun bounds => ?_
  simp only
  split
  · exact link.bindSame (link.log _ _ _ (by decide)) fun _ => link.pureSame _
  · exact link.bindSame (Draw.integer_same link _ _) fun _ => link.pureSame _

theorem boolean_same (context : Context) :
    link.same (boolean context) (boolean (link.twin context)) :=
  link.bindSame (Draw.boolean_same link) fun _ => link.pureSame _

theorem momentBetween_same (low high : Moment) :
    link.same (momentBetween low high) (momentBetween low high) := by
  refine link.bindSame (link.lift (Value.compares_ordinary _ _ _)) fun wrong => ?_
  split
  · exact link.bindSame (link.log _ _ _ (by decide)) fun _ => link.pureSame _
  · exact Draw.between_same link _ _

/-- Dates are the same on both sides. -/
theorem date_same (checks : List Check) (context : Context) :
    link.same (date first checks context) (date second checks (link.twin context)) := by
  refine link.bindSame (DateBounds.ofChecks_same link checks) fun bounds => ?_
  split
  · exact momentBetween_same link _ _
  · exact Draw.soon_same link _ _
  · exact Draw.recent_same link _ _
  · rw [TextSynthesis.referenceDate_twin link context]
    exact Draw.recent_same link _ _

theorem oneOf_same (values : List Value) (context : Context) :
    link.same (oneOf values context) (oneOf values (link.twin context)) :=
  Draw.member_same link values

theorem constant_same (value : Value) (context : Context) :
    link.same (constant value context) (constant value (link.twin context)) :=
  link.pureSame value

theorem nan_same (context : Context) : link.same (nan context) (nan (link.twin context)) :=
  link.bindSame link.fresh fun _ => link.pureSame _

/-- Functions are the same on both sides, and so is what they return. -/
theorem function_same {schema : Schema} {context : Context} (returns : Option Schema)
    (suits : link.suits schema context) (kind : schema.kind = .function) :
    link.same (function returns context) (function returns (link.twin context)) :=
  link.newFunction functionName returns suits kind

/-! ### Children -/

section Children

variable {left right : Schema → Make} {context : Context}

/-- A child that may be missing. -/
theorem ofChild_same {child : Option Schema}
    (each : ∀ schema, child = some schema →
      link.same (left schema context) (right schema (link.twin context))) :
    link.same (ofChild (child.map left) context)
      (ofChild (child.map right) (link.twin context)) := by
  cases child with
  | none => exact link.throw rfl
  | some schema => exact each schema rfl

/-- A wrapper is the same on both sides if what it wraps is. -/
theorem inner_same (tag : String) {child : Option Schema}
    (each : ∀ schema, child = some schema →
      link.same (left schema context) (right schema (link.twin context))) :
    link.same (inner tag (child.map left) context)
      (inner tag (child.map right) (link.twin context)) := by
  cases child with
  | none => exact link.throw rfl
  | some schema => exact each schema rfl

/-- Several members are the same on both sides if each of them is. -/
theorem members_same {schemas : List Schema}
    (each : ∀ schema ∈ schemas,
      link.same (left schema context) (right schema (link.twin context))) :
    link.same ((schemas.map left).mapM fun member => member context)
      ((schemas.map right).mapM fun member => member (link.twin context)) := by
  rw [List.mapM_map, List.mapM_map]
  exact link.mapM each

/-- Fields are filled alike if each of them is, under its own name. -/
theorem fillFields_same {fields : List (String × Schema)} {left right : String × Schema → Make}
    (each : ∀ field ∈ fields, link.same (left field (context.forKey (.text field.1)))
      (right field (link.twin (context.forKey (.text field.1))))) :
    link.same (fillFields (fields.map fun field => (field.1, left field)) context)
      (fillFields (fields.map fun field => (field.1, right field)) (link.twin context)) := by
  unfold fillFields
  rw [List.mapM_map, List.mapM_map]
  refine link.mapM fun field mem => ?_
  refine link.bindSame ?_ fun made => link.pureSame _
  rw [← link.forKey]
  exact each field mem

end Children

/-! ### Collections -/

section Collections

variable {left right : Run Value}

/-- Copies are the same on both sides, however many there are. -/
theorem copies_same (each : link.same left right) (count : Nat) :
    link.same (copies left count) (copies right count) := by
  induction count with
  | zero => exact link.pureSame []
  | succ count hypothesis =>
    exact link.bindSame each fun item => link.bindSame hypothesis fun others => link.pureSame _

theorem targetSize_same (checks : List Check) (usual : Int × Int) :
    link.same (targetSize checks usual) (targetSize checks usual) :=
  link.bindSame (link.lift (SizeBounds.resolve_ordinary _ _ _)) fun interval =>
    Draw.integer_same link interval.1 interval.2

theorem items_same (checks : List Check) {element other : Make} {context : Context}
    (each : link.same (element context) (other (link.twin context))) :
    link.same (items checks element context) (items checks other (link.twin context)) :=
  link.bindSame (targetSize_same link checks arraySizes) fun _ => copies_same link each _

/-- A set is collected alike; by induction on the attempts. -/
theorem collect_same (each : link.same left right) (target : Int) (attempts : Nat)
    (found : Gathering) :
    link.same (collect left target attempts found) (collect right target attempts found) := by
  induction attempts generalizing found with
  | zero => exact link.pureSame found
  | succ attempts hypothesis =>
    unfold collect
    split
    · exact link.pureSame found
    · exact link.bindSame each fun drawn => hypothesis _

theorem logExhausted_same (domain noun : String) (found : Nat) (target : Int) :
    link.same (logExhausted domain noun found target) (logExhausted domain noun found target) :=
  link.log _ _ _ (by decide)

/-- A set is filled alike if its elements are the same on both sides. -/
theorem gather_same (each : link.same left right) (target : Int) :
    link.same (gather left target) (gather right target) := by
  refine link.bindSame (collect_same link each _ _ _) fun found => ?_
  split
  · exact link.bindSame (logExhausted_same link _ _ _ _) fun _ => link.pureSame _
  · exact link.pureSame _

/-- A dictionary is filled alike if its keys and values are the same on both sides; by induction on
the attempts. -/
theorem fill_same {leftValue rightValue : Run Value} (key : link.same left right)
    (value : link.same leftValue rightValue) (enough attempts : Nat)
    (found : List (Value × Value)) :
    link.same (fill left leftValue enough attempts found)
      (fill right rightValue enough attempts found) := by
  induction attempts generalizing found with
  | zero => exact link.pureSame found
  | succ attempts hypothesis =>
    unfold fill
    split
    · exact link.pureSame found
    · refine link.bindSame key fun drawnKey => link.bindSame value fun drawnValue => ?_
      split
      · exact hypothesis _
      · exact link.throw rfl

end Collections

end Make

end Specimen
