/-
**Sizes are drawn as the checks ask for.**

Checks are read twice: the making of a node turns them into an interval to draw from, and the judge
of the node goes through them one by one. Where they ask for a size between two numbers
(`Check.Sizes`) both readings agree: sizes of collections and lengths of texts are drawn between the
two numbers, and the judge has nothing to say about them. For the values of numbers the same follows
in `Specimen.Proofs.NumberRange`.
-/

import Specimen.Proofs.TargetSizes
import Specimen.Validation

namespace Specimen

open Run (Gives)

/-! ### Single bounds -/

theorem ExtendedRat.order_rational (first second : Rat) :
    order (.rational first) (.rational second) = compare first second := rfl

/-- One number is not above another, or below it if the bound is exclusive. -/
def Within (inclusive : Bool) (first second : Rat) : Prop :=
  if inclusive then first ≤ second else first < second

theorem Within.le {inclusive : Bool} {first second : Rat} (within : Within inclusive first second) :
    first ≤ second := by
  cases inclusive with
  | true => exact within
  | false => exact le_of_lt within

theorem Within.of_lt {first second : Rat} (inclusive : Bool) (below : first < second) :
    Within inclusive first second := by
  cases inclusive with
  | true => exact le_of_lt below
  | false => exact below

namespace Judge

variable {measured bound : Value} {value limit : Rat} {inclusive : Bool}

theorem comparisonMessage_eq_none_iff {noun relation : String} {holds : Bool} :
    comparisonMessage noun relation bound (.ok holds) = none ↔ holds = true := by
  cases holds <;> simp [comparisonMessage]

theorem boundMessage_min (noun : String) (isValue : measured.toExtended? = some (.rational value))
    (isLimit : bound.toExtended? = some (.rational limit)) :
    boundMessage noun measured (.min bound inclusive) = none ↔ Within inclusive limit value := by
  rw [boundMessage, Value.holds_of_rational _ isValue isLimit, ExtendedRat.order_rational,
    comparisonMessage_eq_none_iff]
  cases inclusive with
  | true => exact bne_iff_ne.trans compare_ge_iff_ge
  | false => exact beq_iff_eq.trans compare_gt_iff_gt

theorem boundMessage_max (noun : String) (isValue : measured.toExtended? = some (.rational value))
    (isLimit : bound.toExtended? = some (.rational limit)) :
    boundMessage noun measured (.max bound inclusive) = none ↔ Within inclusive value limit := by
  rw [boundMessage, Value.holds_of_rational _ isValue isLimit, ExtendedRat.order_rational,
    comparisonMessage_eq_none_iff]
  cases inclusive with
  | true => exact bne_iff_ne.trans compare_le_iff_le
  | false => exact beq_iff_eq.trans compare_lt_iff_lt

theorem boundMessage_length (noun : String) (size : Int) :
    boundMessage noun (.int size) (.length (.int size)) = none := by
  have same : (Value.int size).equals (.int size) = true := by
    simp [Value.equals, Value.isNan, Value.same, Value.sameNumber, Value.toExtended?]
  rw [boundMessage, same]
  rfl

/-- Checks without a message are without an issue. -/
theorem boundIssues_eq_nil {checks : List Check} {noun : String} (path : Path)
    (silent : ∀ check ∈ checks, boundMessage noun measured check = none) :
    boundIssues checks noun measured path = [] := by
  rw [boundIssues, List.filterMap_eq_nil_iff.2 silent, List.map_nil]

end Judge

/-! ### Sizes -/

/-- The checks ask for a size between two numbers, and for nothing else. -/
inductive Check.Sizes : List Check → Nat → Option Nat → Prop
  | free : Sizes [] 0 none
  | least (low : Nat) : Sizes [.min (.int low) true] low none
  | greatest (high : Nat) : Sizes [.max (.int high) true] 0 (some high)
  | between {low high : Nat} (ordered : low ≤ high) :
      Sizes [.min (.int low) true, .max (.int high) true] low (some high)
  | reversed {low high : Nat} (ordered : low ≤ high) :
      Sizes [.max (.int high) true, .min (.int low) true] low (some high)
  | exact (size : Nat) : Sizes [.length (.int size)] size (some size)

/-- A size is between two numbers. -/
def IsBetween (low : Nat) (high : Option Nat) (size : Nat) : Prop :=
  low ≤ size ∧ ∀ most, high = some most → size ≤ most

namespace Check.Sizes

variable {checks : List Check} {low : Nat} {high : Option Nat}

theorem ordered (sizes : Sizes checks low high) : ∀ most, high = some most → low ≤ most := by
  cases sizes with
  | free | least => exact nofun
  | greatest => exact fun most _ => Nat.zero_le most
  | between ordered | reversed ordered =>
    intro most same
    cases same
    exact ordered
  | exact =>
    intro most same
    cases same
    exact Nat.le_refl low

/-- The judge has nothing to say about a size in between. -/
theorem boundIssues (sizes : Sizes checks low high) {size : Nat} (between : IsBetween low high size)
    (noun : String) (path : Path) : Judge.boundIssues checks noun (.int size) path = [] := by
  have atLeast : ∀ least : Nat, least ≤ size →
      Judge.boundMessage noun (.int size) (.min (.int least) true) = none := by
    intro least within
    refine (Judge.boundMessage_min noun rfl rfl).2 ?_
    show ((least : Int) : Rat) ≤ ((size : Int) : Rat)
    exact_mod_cast within
  have atMost : ∀ most : Nat, size ≤ most →
      Judge.boundMessage noun (.int size) (.max (.int most) true) = none := by
    intro most within
    refine (Judge.boundMessage_max noun rfl rfl).2 ?_
    show ((size : Int) : Rat) ≤ ((most : Int) : Rat)
    exact_mod_cast within
  refine Judge.boundIssues_eq_nil path ?_
  obtain ⟨above, below⟩ := between
  cases sizes with
  | free => exact List.forall_mem_nil _
  | least => exact List.forall_mem_singleton.2 (atLeast low above)
  | greatest most => exact List.forall_mem_singleton.2 (atMost most (below most rfl))
  | between =>
    exact List.forall_mem_cons.2 ⟨atLeast low above,
      List.forall_mem_singleton.2 (atMost _ (below _ rfl))⟩
  | reversed =>
    exact List.forall_mem_cons.2 ⟨atMost _ (below _ rfl),
      List.forall_mem_singleton.2 (atLeast low above)⟩
  | exact exact =>
    obtain rfl : size = low := Nat.le_antisymm (below low rfl) above
    exact List.forall_mem_singleton.2 (Judge.boundMessage_length noun size)

/-- The checks leave the two numbers as bounds, but that a least size of zero may be none. -/
theorem lengths (sizes : Sizes checks low high) :
    (leastLength? checks = some (low : Int) ∨ leastLength? checks = none ∧ low = 0) ∧
      greatestLength? checks = high.map Int.ofNat := by
  cases sizes with
  | free | greatest => exact ⟨.inr ⟨rfl, rfl⟩, rfl⟩
  | least | between | reversed | exact => exact ⟨.inl rfl, rfl⟩

theorem boundSizes (sizes : Sizes checks low high) : BoundSizes checks := by
  cases sizes with
  | free => exact List.forall_mem_nil _
  | least | greatest | exact => exact List.forall_mem_singleton.2 fun _ => ⟨_, rfl⟩
  | between | reversed =>
    exact List.forall_mem_cons.2 ⟨fun _ => ⟨_, rfl⟩,
      List.forall_mem_singleton.2 fun _ => ⟨_, rfl⟩⟩

/-- The checks bound the lengths of texts. -/
theorem boundLengths (sizes : Sizes checks low high) : BoundLengths checks where
  noPattern := by cases sizes <;> simp [name]
  integers := sizes.boundSizes.boundByIntegers
  natural _ := sizes.boundSizes.last_nonneg fun _ => .inr

/-- A fitting size is between the two numbers. -/
theorem isBetween_of_fitting (sizes : Sizes checks low high) {size : Nat}
    (fitting : IsFitting (leastLength? checks) (greatestLength? checks) size) :
    IsBetween low high size := by
  obtain ⟨isLeast, isGreatest⟩ := sizes.lengths
  rw [isGreatest] at fitting
  refine ⟨?_, fun most isMost => ?_⟩
  · rcases isLeast with isLeast | ⟨_, rfl⟩
    · refine Int.ofNat_le.1 (fitting.atLeast low isLeast fun most isMost => ?_)
      obtain ⟨limit, isLimit, rfl⟩ := Option.map_eq_some_iff.1 isMost
      exact Int.ofNat_le.2 (sizes.ordered limit isLimit)
    · exact Nat.zero_le size
  · exact Int.ofNat_le.1 (fitting.atMost most (by rw [isMost]; rfl))

/-- A size is drawn from those in between. -/
theorem targetSize_gives (sizes : Sizes checks low high) (fewest most : Nat) :
    Gives (Make.targetSize checks (fewest, most)) fun size =>
      ∃ count : Nat, size = count ∧ IsBetween low high count :=
  (sizes.boundSizes.targetSize_gives (fewest, most) (Int.natCast_nonneg fewest)).mono
    fun _ ⟨count, isCount, fitting⟩ => ⟨count, isCount, sizes.isBetween_of_fitting fitting⟩

end Check.Sizes

/-! ### Texts -/

namespace TextSynthesis

variable {checks : List Check} {low : Nat} {high : Option Nat}

/-- The bounds of a text whose checks ask for a length have neither a pattern nor a format. -/
theorem textBounds_of_sizes (sizes : Check.Sizes checks low high) : ∃ least,
    TextBounds.ofChecks checks = { min := least, max := high.map fun most => .int most } := by
  cases sizes with
  | free | greatest => exact ⟨none, rfl⟩
  | least | between | reversed | exact => exact ⟨_, rfl⟩

theorem rawText_of_sizes (sizes : Check.Sizes checks low high) (environment : Environment)
    (context : Context) (target : Int) :
    rawText environment (TextBounds.ofChecks checks) context target =
      rawText environment {} context target := by
  obtain ⟨least, bounds⟩ := textBounds_of_sizes sizes
  rw [bounds]
  rfl

/-- Without functions of the caller by name, no field is filled by one. -/
theorem callersFunction_eq {context : Context} (unmapped : context.stringMap = [])
    (named : context.keyName.isTruthy = true → ∃ name, context.keyName = .text name) :
    callersFunction? context = .ok none := by
  refine callersFunction_ok (fun name _ => by rw [unmapped]; rfl) fun truthy => ?_
  obtain ⟨name, isName⟩ := named truthy
  rw [isName]
  rfl

/-- A text has a length in between, if what is picked for the field makes one. -/
theorem make_gives (sizes : Check.Sizes checks low high) {environment : Environment}
    {context : Context} (unmapped : context.stringMap = [])
    (named : context.keyName.isTruthy = true → ∃ name, context.keyName = .text name)
    (picked : ∀ target : Nat, Gives (rawText environment {} context target) fun _ => True) :
    Gives (make environment checks context) fun value =>
      ∃ text : String, value = .text text ∧ IsBetween low high text.length := by
  have measure := sizes.boundLengths.measure
  have aimed : 0 ≤ (lengthsToDraw (Check.leastLength? checks) (Check.greatestLength? checks)).1 := by
    obtain ⟨isLeast | ⟨isLeast, _⟩, isGreatest⟩ := sizes.lengths <;> rw [isLeast, isGreatest] <;>
      cases high <;> simp [lengthsToDraw]
  rw [make_eq_unpatterned measure.noPattern]
  refine (unpatterned_gives measure sizes.boundLengths.natural (callersFunction_eq unmapped named)
    fun target long _ => ?_).mono fun value found => ?_
  · obtain ⟨count, rfl⟩ := Int.eq_ofNat_of_zero_le (aimed.trans long)
    rw [rawText_of_sizes sizes]
    exact picked count
  · obtain ⟨text, isText, fitting⟩ := found
    exact ⟨text, isText, sizes.isBetween_of_fitting fitting⟩

end TextSynthesis

namespace Judge

/-- A text whose form no check has anything to say about is judged by its length alone. -/
theorem string_eq_bounds {checks : List Check} {text : String}
    (silent : ∀ check ∈ checks, formatMessage text check = .ok none) (path : Path) :
    string checks (.text text) path =
      .ok (boundIssues checks "length" (.int text.length) path) := by
  have answered : ∃ messages : List (Option String),
      checks.mapM (formatMessage text) = .ok messages ∧ messages.reduceOption = [] := by
    induction checks with
    | nil => exact ⟨[], rfl, rfl⟩
    | cons first rest hypothesis =>
      rw [List.forall_mem_cons] at silent
      obtain ⟨messages, found, nothing⟩ := hypothesis silent.2
      refine ⟨none :: messages, ?_, nothing⟩
      rw [List.mapM_cons, silent.1, found]
      rfl
  obtain ⟨messages, found, nothing⟩ := answered
  unfold string
  simp only
  rw [found]
  show Except.ok (_ ++ messages.reduceOption.map _) = _
  rw [nothing, List.map_nil, List.append_nil]

end Judge

/-- Checks on a size have nothing to say about the form of a text. -/
theorem Check.Sizes.formatMessage_eq {checks : List Check} {low : Nat} {high : Option Nat}
    (sizes : Sizes checks low high) (text : String) :
    ∀ check ∈ checks, Judge.formatMessage text check = .ok none := by
  cases sizes <;> simp [Judge.formatMessage]

/-- The judge accepts texts with a length in between. -/
theorem Judge.string_accepts {checks : List Check} {low : Nat} {high : Option Nat}
    (sizes : Check.Sizes checks low high) {text : String} (between : IsBetween low high text.length)
    (path : Path) : Judge.string checks (.text text) path = .ok [] := by
  rw [string_eq_bounds (sizes.formatMessage_eq text), sizes.boundIssues between]

end Specimen
