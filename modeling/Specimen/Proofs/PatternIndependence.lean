/-
**Patterns do not disturb the rest of a sample.**

A text that has to match a pattern is drawn from a generator of its own, and that generator is
seeded by one draw of a fixed size. So samples of two schemas that differ only in patterns are made
by the same draws: they come from one sketch, and the source is left in the same state, whether a
pattern has a text or fails. `Make.patterned_apply` is the node that matters; every other node
passes on what holds of its children.
-/

import Specimen.Proofs.Indifference
import Specimen.Proofs.Sketches

namespace Specimen

open Run (Agree)
open Session (SameButLog)

/-! ### Nodes with patterns -/

theorem TextBounds.pattern_foldl {checks : List Check} {bounds : TextBounds}
    (proper : ∀ pattern, Check.regex pattern ∈ checks → pattern.isNull = false)
    (declared : bounds.pattern.isSome ∨ ∃ pattern, Check.regex pattern ∈ checks) :
    (checks.foldl declare bounds).pattern.isSome := by
  induction checks generalizing bounds with
  | nil => exact declared.resolve_right (by simp)
  | cons check others hypothesis =>
    have rest : ∀ pattern, Check.regex pattern ∈ others → pattern.isNull = false :=
      fun pattern mem => proper pattern (List.mem_cons_of_mem _ mem)
    rw [List.foldl_cons]
    cases check with
    | regex pattern =>
      refine hypothesis rest (.inl ?_)
      have given := proper pattern List.mem_cons_self
      cases pattern <;> first | rfl | cases given
    | _ => exact hypothesis rest (by simpa [declare] using declared)

namespace Schema.IsPatterned

variable {schema : Schema}

theorem bounds (patterned : schema.IsPatterned) :
    ∃ pattern, (TextBounds.ofChecks schema.checks).pattern = some pattern :=
  Option.isSome_iff_exists.1 (TextBounds.pattern_foldl patterned.proper (.inr patterned.carries))

end Schema.IsPatterned

theorem Draw.patternDraw_ordinary (environment : Environment) (pattern limit : Value) (seed : Nat) :
    Ordinary (patternDraw environment pattern limit seed) := by
  cases pattern with
  | text source =>
    exact (readPattern_ordinary source).bind fun nodes =>
      environment.sampleText_ordinary nodes _ _
  | _ => exact rfl

/-- A text for a pattern is one draw and a text that depends on nothing else. -/
theorem Draw.fromPattern_eq (environment : Environment) (pattern limit : Value) :
    fromPattern environment pattern limit = (do
      let seed ← Run.draw fun twister => twister.bits 64
      Run.lift (patternDraw environment pattern limit seed)) := by
  cases pattern with
  | text source =>
    refine congrArg _ (funext fun seed => ?_)
    simp only [patternDraw]
    cases readPattern source <;> rfl
  | _ => rfl

namespace Make

/-- A node with a pattern makes one draw of 64 bits, whatever the pattern and the bounds are. -/
theorem patterned_apply {schema : Schema} (patterned : schema.IsPatterned)
    (environment : Environment) (context : Context) (session : Session) :
    ∃ after,
      filled schema.tag context (TextSynthesis.make environment schema.checks context) session =
        (.ok (schema.patternText environment (session.source.twister.bits 64).1), after) ∧
      after.SameButLog { session with source :=
        { session.source with twister := (session.source.twister.bits 64).2 } } := by
  obtain ⟨pattern, found⟩ := patterned.bounds
  have ended : TextSynthesis.make environment schema.checks context session =
      ((Draw.patternDraw environment pattern ((TextBounds.ofChecks schema.checks).max.getD .null)
        (session.source.twister.bits 64).1).map Value.text,
      { session with source :=
        { session.source with twister := (session.source.twister.bits 64).2 } }) := by
    unfold TextSynthesis.make
    simp only [found, Draw.fromPattern_eq, bind_assoc]
    rw [Run.bind_ok (Run.draw_apply _ session)]
    cases Draw.patternDraw environment _ _ (session.source.twister.bits 64).1 <;> rfl
  have ordinary := Draw.patternDraw_ordinary environment pattern
    ((TextBounds.ofChecks schema.checks).max.getD .null) (session.source.twister.bits 64).1
  unfold Schema.patternText
  simp only [found, Option.getD_some]
  revert ended ordinary
  cases Draw.patternDraw environment _ _ (session.source.twister.bits 64).1 with
  | ok text => exact fun ended _ => ⟨_, filled_ok ended, .refl _⟩
  | error fault =>
    intro ended ordinary
    refine ⟨_, filled_contained ordinary ended, ?_⟩
    exact ⟨rfl, rfl, rfl, rfl⟩

theorem patterned_agree {left right : Schema} (first : left.IsPatterned)
    (second : right.IsPatterned) (environment : Environment) (context : Context) :
    Agree SameButLog (left.Sketched environment right)
      (filled left.tag context (TextSynthesis.make environment left.checks context))
      (filled right.tag context (TextSynthesis.make environment right.checks context)) := by
  intro session other same
  obtain ⟨after, made, kept⟩ := patterned_apply first environment context session
  obtain ⟨reached, found, still⟩ := patterned_apply second environment context other
  rw [made, found]
  have source := same.source
  refine ⟨.ok ⟨.pattern (session.source.twister.bits 64).1, rfl, by rw [source]; rfl⟩, ?_⟩
  exact ⟨by rw [kept.source, still.source, source],
    kept.fresh.trans (same.fresh.trans still.fresh.symm),
    kept.counters.trans (same.counters.trans still.counters.symm),
    kept.closures.trans (same.closures.trans still.closures.symm)⟩

end Make

/-! ### Children -/

/-- Samples of two schemas come from one sketch, wherever nothing replaces the rules of nodes. -/
def Schema.Fit (environment : Environment) (make : Schema → Make) (left right : Schema) : Prop :=
  ∀ context, context.overrides = [] →
    Agree SameButLog (left.Sketched environment right) (make left context) (make right context)

/-- One level deeper nothing replaces the rules of nodes either. -/
theorem Context.bare_of_deeper {context below : Context} (bare : context.overrides = [])
    (deeper : context.deeper = .ok (some below)) : below.overrides = [] := by
  rw [Context.eq_of_deeper deeper]
  exact bare

namespace Run.Agree

variable {α : Type} {related : α → α → Prop} {context : Context}

/-- What is made one level deeper, if there is one. -/
theorem throughDeeper {sessions : Session → Session → Prop} {empty : Run α}
    {make other : Context → Run α} (nothing : Agree sessions related empty empty)
    (each : ∀ below, context.deeper = .ok (some below) →
      Agree sessions related (make below) (other below)) :
    Agree sessions related
      (do match ← Run.lift context.deeper with
          | none => empty
          | some below => make below)
      (do match ← Run.lift context.deeper with
          | none => empty
          | some below => other below) := by
  cases found : context.deeper with
  | error fault => exact .throw fault
  | ok deeper =>
    cases deeper with
    | none => exact nothing
    | some below => exact each below found

end Run.Agree

namespace Sketch

variable {environment : Environment} {make : Schema → Make} {context : Context}
variable (bare : context.overrides = [])
include bare

/-- Fields of the same names, one after another. -/
theorem fields_agree {lefts rights : List (String × Schema)}
    (names : rights.map (·.1) = lefts.map (·.1))
    (each : List.Forall₂ (Schema.Fit environment make) (lefts.map (·.2)) (rights.map (·.2))) :
    Agree SameButLog
      (fun entries others => ∃ sketches,
        entries = fillFields environment sketches lefts ∧
          others = fillFields environment sketches rights)
      (Make.fillFields (lefts.map fun field => (field.1, make field.2)) context)
      (Make.fillFields (rights.map fun field => (field.1, make field.2)) context) := by
  unfold Make.fillFields
  rw [List.mapM_map, List.mapM_map]
  induction lefts generalizing rights with
  | nil =>
    cases rights with
    | nil => exact .pure ⟨[], rfl, rfl⟩
    | cons right rights => cases names
  | cons left lefts hypothesis =>
    cases rights with
    | nil => cases names
    | cons right rights =>
      obtain ⟨rightName, right⟩ := right
      obtain ⟨rfl, others⟩ := List.cons.inj names
      cases each with
      | cons first rest =>
        rw [List.mapM_cons, List.mapM_cons]
        have filled : Agree SameButLog (left.2.Sketched environment right)
            (make left.2 (context.forKey (.text left.1)))
            (make right (context.forKey (.text left.1))) := first _ bare
        have entry : Agree SameButLog
            (fun entry other => ∃ sketch : Sketch,
              entry = (Value.text left.1, sketch.fill environment left.2) ∧
                other = (Value.text left.1, sketch.fill environment right))
            (do pure (Value.text left.1, ← make left.2 (context.forKey (.text left.1))))
            (do pure (Value.text left.1, ← make right (context.forKey (.text left.1)))) := by
          refine .bind filled fun value other ⟨sketch, isValue, isOther⟩ => ?_
          exact .pure ⟨sketch, by rw [isValue], by rw [isOther]⟩
        refine .bind entry fun entry other ⟨sketch, isEntry, isOther⟩ => ?_
        refine .bind (hypothesis others rest) fun entries more ⟨sketches, areEntries, areMore⟩ => ?_
        exact .pure ⟨sketch :: sketches, by rw [isEntry, areEntries]; rfl,
          by rw [isOther, areMore]; rfl⟩

/-- Samples of one schema each. -/
theorem each_agree {lefts rights : List Schema}
    (each : List.Forall₂ (Schema.Fit environment make) lefts rights) :
    Agree SameButLog
      (fun values others => ∃ sketches,
        values = fillEach environment sketches lefts ∧
          others = fillEach environment sketches rights)
      ((lefts.map make).mapM fun member => member context)
      ((rights.map make).mapM fun member => member context) := by
  rw [List.mapM_map, List.mapM_map]
  induction each with
  | nil => exact .pure ⟨[], rfl, rfl⟩
  | cons first rest hypothesis =>
    rw [List.mapM_cons, List.mapM_cons]
    refine .bind (first context bare) fun value other ⟨sketch, isValue, isOther⟩ => ?_
    refine .bind hypothesis fun values others ⟨sketches, areValues, areOthers⟩ => ?_
    exact .pure ⟨sketch :: sketches, by rw [isValue, areValues]; rfl,
      by rw [isOther, areOthers]; rfl⟩

/-- A number of samples of one schema. -/
theorem copies_agree {left right : Option Schema}
    (each : Option.Rel (Schema.Fit environment make) left right) (count : Nat) :
    Agree SameButLog
      (fun values others => ∃ sketches,
        values = fillAll environment sketches left ∧ others = fillAll environment sketches right)
      (Make.copies (Make.ofChild (left.map make) context) count)
      (Make.copies (Make.ofChild (right.map make) context) count) := by
  induction count with
  | zero => exact .pure ⟨[], by cases left <;> rfl, by cases right <;> rfl⟩
  | succ count hypothesis =>
    cases each with
    | none => exact .throw _
    | some fit =>
      refine .bind (fit context bare) fun value other ⟨sketch, isValue, isOther⟩ => ?_
      refine .bind hypothesis fun values others ⟨sketches, areValues, areOthers⟩ => ?_
      exact .pure ⟨sketch :: sketches, by rw [isValue, areValues]; rfl,
        by rw [isOther, areOthers]; rfl⟩

end Sketch

/-! ### Nodes -/

section Nodes

variable {environment : Environment} (respects : environment.Respects SameButLog)
variable {make : Schema → Make} {context : Context} (bare : context.overrides = [])
variable {left right : Schema}

include respects

/-- Members at the same place of two lists. -/
theorem Draw.member_agree {α : Type} {related : α → α → Prop} {lefts rights : List α}
    (each : List.Forall₂ related lefts rights) :
    Agree SameButLog
      (fun first second => related first second ∧
        ∃ place : Nat, lefts[place]? = some first ∧ rights[place]? = some second)
      (member lefts) (member rights) := by
  have drawn := place_same (Correspondence.indifference SameButLog.kept respects) lefts.length
  unfold member
  rw [← each.length_eq]
  refine .bind drawn fun place _ same => ?_
  subst same
  by_cases inside : place < lefts.length
  · have alsoInside : place < rights.length := each.length_eq ▸ inside
    rw [List.getElem?_eq_getElem inside, List.getElem?_eq_getElem alsoInside]
    exact .pure ⟨each.get inside alsoInside, place, List.getElem?_eq_getElem inside,
      List.getElem?_eq_getElem alsoInside⟩
  · rw [List.getElem?_eq_none (Nat.le_of_not_lt inside),
      List.getElem?_eq_none (each.length_eq ▸ Nat.le_of_not_lt inside)]
    exact .throw _

include bare

theorem Sketch.items_agree {left right : Option Schema}
    (each : Option.Rel (Schema.Fit environment make) left right) (checks : List Check) :
    Agree SameButLog
      (fun values others => ∃ sketches,
        values = fillAll environment sketches left ∧ others = fillAll environment sketches right)
      (Make.items checks (Make.ofChild (left.map make)) context)
      (Make.items checks (Make.ofChild (right.map make)) context) := by
  have size := Make.targetSize_same (Correspondence.indifference SameButLog.kept respects) checks
    Make.arraySizes
  exact .bind size fun target _ same => same ▸ copies_agree bare each target.toNat

namespace Schema.Sketched

omit respects in
theorem object (names : (right.fields.getD []).map (·.1) = (left.fields.getD []).map (·.1))
    (fields : List.Forall₂ (Fit environment make) ((left.fields.getD []).map (·.2))
      ((right.fields.getD []).map (·.2))) :
    Agree SameButLog (left.Sketched environment right)
      (Make.object (left.parts make).fields context)
      (Make.object (right.parts make).fields context) := by
  rw [Make.object, Make.object, Make.guarded_eq, Make.guarded_eq]
  refine .throughDeeper (.pure ⟨.settled _, rfl, rfl⟩) fun below deeper => ?_
  have filled := Sketch.fields_agree (Context.bare_of_deeper bare deeper) names fields
  refine .bind filled fun entries others ⟨sketches, areEntries, areOthers⟩ => ?_
  exact .pure ⟨.object sketches, by rw [areEntries, Sketch.fill], by rw [areOthers, Sketch.fill]⟩

theorem array (checks : right.checks = left.checks)
    (inner : Option.Rel (Fit environment make) left.inner right.inner) :
    Agree SameButLog (left.Sketched environment right)
      (Make.array left.checks (Make.ofChild (left.parts make).inner) context)
      (Make.array right.checks (Make.ofChild (right.parts make).inner) context) := by
  rw [checks, Make.array, Make.array, Make.guarded_eq, Make.guarded_eq]
  refine .throughDeeper (.pure ⟨.settled _, rfl, rfl⟩) fun below deeper => ?_
  have filled := Sketch.items_agree respects (Context.bare_of_deeper bare deeper) inner left.checks
  refine .bind filled fun values others ⟨sketches, areValues, areOthers⟩ => ?_
  exact .pure ⟨.array sketches, by rw [areValues, Sketch.fill], by rw [areOthers, Sketch.fill]⟩

theorem restItems {left right : Option Schema}
    (rest : Option.Rel (Fit environment make) left right) :
    Agree SameButLog
      (fun values others => ∃ sketches,
        values = Sketch.fillAll environment sketches left ∧
          others = Sketch.fillAll environment sketches right)
      (Make.restItems (left.map make) context) (Make.restItems (right.map make) context) := by
  cases rest with
  | none => exact .pure ⟨[], rfl, rfl⟩
  | some fit =>
    rw [Option.map_some, Option.map_some, Make.restItems_eq, Make.restItems_eq]
    refine .throughDeeper (.pure ⟨[], rfl, rfl⟩) fun below deeper => ?_
    exact Sketch.items_agree respects (Context.bare_of_deeper bare deeper) (.some fit) []

theorem tuple (items : List.Forall₂ (Fit environment make) left.items right.items)
    (rest : Option.Rel (Fit environment make) left.rest right.rest) :
    Agree SameButLog (left.Sketched environment right)
      (Make.tuple (left.parts make).items (left.parts make).rest context)
      (Make.tuple (right.parts make).items (right.parts make).rest context) := by
  refine .bind (Sketch.each_agree bare items) fun fixed others ⟨sketches, areFixed, areOthers⟩ => ?_
  refine .bind (restItems respects bare rest) fun tail more ⟨further, areTail, areMore⟩ => ?_
  exact .pure ⟨.tuple sketches further, by rw [areFixed, areTail, Sketch.fill],
    by rw [areOthers, areMore, Sketch.fill]⟩

theorem union (items : List.Forall₂ (Fit environment make) left.items right.items) :
    Agree SameButLog (left.Sketched environment right) (Make.union (left.parts make).items context)
      (Make.union (right.parts make).items context) := by
  unfold Make.union
  simp only [Schema.parts, Draw.member_map]
  have drawn := Draw.member_agree respects items
  refine .bind drawn fun option other chosen => ?_
  obtain ⟨fit, place, isOption, isOther⟩ := chosen
  refine (fit context bare).mono fun value second alike => ?_
  obtain ⟨sketch, isValue, isSecond⟩ := alike
  exact ⟨.choice place sketch, by rw [isValue, Sketch.fill, isOption],
    by rw [isSecond, Sketch.fill, isOther]⟩

omit respects in
theorem inner (tag : String) (inner : Option.Rel (Fit environment make) left.inner right.inner) :
    Agree SameButLog (left.Sketched environment right)
      (Make.inner tag (left.parts make).inner context)
      (Make.inner tag (right.parts make).inner context) := by
  simp only [Schema.parts]
  revert inner
  rcases first : left.inner with _ | child <;> rcases second : right.inner with _ | other
  · exact fun _ => .throw _
  · intro relates
    cases relates
  · intro relates
    cases relates
  · rintro ⟨fit⟩
    refine (fit context bare).mono fun value another alike => ?_
    obtain ⟨sketch, isValue, isAnother⟩ := alike
    exact ⟨.wrapped sketch, by rw [isValue, Sketch.fill, first],
      by rw [isAnother, Sketch.fill, second]⟩

end Schema.Sketched

/-- A node passes on what holds of its children. -/
theorem Schema.Sketched.node (transparent : left.kind.isTransparent = true)
    (kind : right.kind = left.kind) (checks : right.checks = left.checks)
    (names : (right.fields.getD []).map (·.1) = (left.fields.getD []).map (·.1))
    (fields : List.Forall₂ (Fit environment make) ((left.fields.getD []).map (·.2))
      ((right.fields.getD []).map (·.2)))
    (inner : Option.Rel (Fit environment make) left.inner right.inner)
    (rest : Option.Rel (Fit environment make) left.rest right.rest)
    (items : List.Forall₂ (Fit environment make) left.items right.items) (lower : Schema → Make) :
    Agree SameButLog (left.Sketched environment right)
      (Make.ofNode environment lower left (left.parts make) context)
      (Make.ofNode environment lower right (right.parts make) context) := by
  have sameTag : right.tag = left.tag := by rw [Schema.tag, Schema.tag, kind]
  have absent : left.Sketched environment right .absent .absent := ⟨.settled .absent, rfl, rfl⟩
  rw [Make.ofNode_eq, Make.ofNode_eq, Make.rule?, Make.rule?, bare, sameTag]
  simp only [List.lookup_nil, Make.builtin?, kind]
  cases found : left.kind <;> rw [found] at transparent <;> cases transparent
  case object => exact Make.filled_alike SameButLog.kept absent (object bare names fields)
  case array => exact Make.filled_alike SameButLog.kept absent (array respects bare checks inner)
  case tuple => exact Make.filled_alike SameButLog.kept absent (tuple respects bare items rest)
  case union | discriminatedUnion =>
    exact Make.filled_alike SameButLog.kept absent (union respects bare items)
  case optional | nullable | branded =>
    simp only [Option.map_some]
    rw [sameTag]
    exact Make.filled_alike SameButLog.kept absent (Schema.Sketched.inner bare left.tag inner)

end Nodes

/-! ### Generation -/

namespace Schema.SameButPatterns

variable {make : Schema → Make}

theorem each {lefts rights : List Schema} (related : List.Forall₂ SameButPatterns lefts rights)
    (fits : ∀ left ∈ lefts, ∀ right, left.SameButPatterns right → Fit environment make left right) :
    List.Forall₂ (Fit environment make) lefts rights :=
  ((List.forall₂_and_left _ _).2 ⟨fits, related⟩).imp fun _ right ⟨fit, alike⟩ => fit right alike

theorem child {left right : Option Schema} (related : Option.Rel SameButPatterns left right)
    (fits : ∀ child ∈ left, ∀ other,
      child.SameButPatterns other → Fit environment make child other) :
    Option.Rel (Fit environment make) left right := by
  cases related with
  | none => exact .none
  | some alike => exact .some (fits _ rfl _ alike)

end Schema.SameButPatterns

section Generation

variable {environment : Environment} (respects : environment.Respects SameButLog)
include respects

theorem Schema.SameButPatterns.fold (lower : Schema → Make)
    (same : ∀ schema,
      Schema.Fit environment (Schema.fold (Make.ofNode environment lower)) schema schema) :
    ∀ left right : Schema, left.SameButPatterns right →
      Schema.Fit environment (Schema.fold (Make.ofNode environment lower)) left right := by
  intro left
  induction left using Schema.byParts with
  | step left hypothesis =>
    intro right related context bare
    cases related with
    | same => exact same left context bare
    | pattern first second =>
      rw [Schema.fold_eq, Schema.fold_eq, Make.ofNode_eq, Make.ofNode_eq, Make.rule?, Make.rule?,
        bare]
      simp only [List.lookup_nil, Make.builtin?, first.kind, second.kind]
      exact Make.patterned_agree first second environment context
    | node transparent kind checks names fields inner rest items =>
      rw [Schema.fold_eq, Schema.fold_eq]
      refine Schema.Sketched.node respects bare transparent kind checks names ?_ ?_ ?_ ?_ lower
      · exact each fields fun child mem => hypothesis child (by simp [children, mem])
      · exact child inner fun child found =>
          hypothesis child (by simp [children, Option.mem_def.1 found])
      · exact child rest fun child found =>
          hypothesis child (by simp [children, Option.mem_def.1 found])
      · exact each items fun child mem => hypothesis child (by simp [children, mem])

/-- Samples of schemas that differ only in patterns come from one sketch, however many lazy nodes
may be passed. -/
theorem Schema.SameButPatterns.fit {left right : Schema} (related : left.SameButPatterns right)
    (passes : Nat) : Schema.Fit environment (generateWithin environment passes) left right := by
  have same : ∀ schema, Schema.Fit environment (generateWithin environment passes) schema schema :=
    fun schema context _ =>
      ((Correspondence.indifference SameButLog.kept respects).generateWithin passes schema context
        True.intro).mono fun value _ equal => ⟨.settled value, rfl, equal.symm⟩
  cases passes with
  | zero | succ => exact fold respects _ same left right related

end Generation

/-- **Patterns do not disturb the rest of a sample.** Where nothing replaces the rules of nodes,
samples of two schemas that differ only in texts for patterns come from one sketch: they have the
same keys, lengths and options and the same leaves, texts for patterns apart. The sessions that are
left are the same but for the log, also if a pattern has no text. And nothing breaks either sample
off but an unknown kind, which then breaks off both. -/
theorem generate_sameButPatterns {environment : Environment}
    (respects : environment.Respects SameButLog) {left right : Schema}
    (related : left.SameButPatterns right) (context : Context) (bare : context.overrides = [])
    (session : Session) :
    Results (left.Sketched environment right) (generate environment left context session).1
        (generate environment right context session).1 ∧
      (generate environment left context session).2.SameButLog
        (generate environment right context session).2 ∧
      ∀ fault, (generate environment left context session).1 = .error fault →
        fault.isUnknownType = true := by
  obtain ⟨results, kept⟩ := related.fit respects context.remaining context bare session session
    (.refl session)
  exact ⟨results, kept, fun fault broken => fault_of_generate (Prod.ext broken rfl)⟩

/-- An object with a text for a pattern before a plain text. -/
def Schema.labelled (checks : List Check) : Schema :=
  .object [("label", .leaf .string { checks := checks }), ("name", .string)]

/-- A pattern that refers to a group that may be missing, which then has no text, and a pattern
with a bound. -/
theorem labelled_sketched :
    Results
        ((Schema.labelled [.regex (.text "(a)?\\1")]).Sketched (.numbered [])
          (.labelled [.regex (.text "[b-d]+"), .max (.int 3) true]))
        (generate (.numbered []) (.labelled [.regex (.text "(a)?\\1")]) {}
          (.start ⟨.ofSeed 7, .int 7⟩ 0)).1
        (generate (.numbered []) (.labelled [.regex (.text "[b-d]+"), .max (.int 3) true]) {}
          (.start ⟨.ofSeed 7, .int 7⟩ 0)).1 ∧
      (generate (.numbered []) (.labelled [.regex (.text "(a)?\\1")]) {}
          (.start ⟨.ofSeed 7, .int 7⟩ 0)).2.SameButLog
        (generate (.numbered []) (.labelled [.regex (.text "[b-d]+"), .max (.int 3) true]) {}
          (.start ⟨.ofSeed 7, .int 7⟩ 0)).2 ∧
      ∀ fault, (generate (.numbered []) (.labelled [.regex (.text "(a)?\\1")]) {}
          (.start ⟨.ofSeed 7, .int 7⟩ 0)).1 = .error fault → fault.isUnknownType = true := by
  have related : (Schema.labelled [.regex (.text "(a)?\\1")]).SameButPatterns
      (.labelled [.regex (.text "[b-d]+"), .max (.int 3) true]) := by
    refine .node rfl rfl rfl rfl (.cons (.pattern ?_ ?_) (.cons (.same _) .nil)) .none .none .nil
    · exact ⟨rfl, ⟨_, List.mem_cons_self⟩,
        by simp [Schema.checks, Schema.traits, Schema.leaf, Value.isNull]⟩
    · exact ⟨rfl, ⟨_, List.mem_cons_self⟩,
        by simp [Schema.checks, Schema.traits, Schema.leaf, Value.isNull]⟩
  exact generate_sameButPatterns (Environment.numbered_respects SameButLog.kept []) related {} rfl
    (.start ⟨.ofSeed 7, .int 7⟩ 0)

end Specimen
