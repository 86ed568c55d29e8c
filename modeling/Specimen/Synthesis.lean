/-
**Filling nodes.**

How a node of each kind is filled, given how its children are. `Make.guarded` keeps walks within the
greatest depth: objects, arrays, sets, maps, records, lazy nodes and what follows the items of a
tuple count as a level each and are empty on the deepest one.

* `Make.gather` gathers different members for a set: a draw that repeats a member is thrown away,
  and only so many draws are made.
* `Make.fill` gathers entries for maps and records: a key that comes again keeps its place and gets
  the new value.
-/

import Specimen.Synthesis.Text

namespace Specimen

namespace Make

/-! ### Depth -/

/-- The making of a child that is not there. -/
def missing : Make := fun _ => throw .missingPart

/-- The making of a child. -/
def ofChild (child : Option Make) : Make := child.getD missing

/-- Fills one level deeper, or gives the empty value on the deepest level. -/
def guarded (empty : Value) (make : Make) : Make := fun context => do
  if ← Run.lift context.exhausted then pure empty
  else make (← Run.lift context.descend)

/-! ### Numbers and dates -/

/-- The number of integers in an interval with one bound, less one. -/
def numberSpan : Int := 9999

/-- The interval to draw an integer from where a bound may be missing. -/
def closeInterval : Option Int → Option Int → Int × Int
  | none, none => (0, numberSpan)
  | none, some high => (min 0 high, high)
  | some low, none => (low, max low 0 + numberSpan)
  | some low, some high => (low, high)

/-- Fills a number with an integer within the bounds, or with nothing if there is none. -/
def number (checks : List Check) : Make := fun _ => do
  let (least, greatest) ← Run.lift (NumberBounds.ofChecks checks).integers
  let (low, high) := closeInterval least greatest
  if high < low then
    Run.log .debug .synthesis
      ("Unsatisfiable number range [" ++ toString low ++ ", " ++ toString high ++ "]")
    pure .absent
  else pure (.int (← Draw.integer (.int low) (.int high)))

/-- Fills a boolean. -/
def boolean : Make := fun _ => do pure (.bool (← Draw.boolean))

/-- The number of days before the reference date that dates without bounds come from. -/
def recentDays : Int := 30

/-- A moment between two moments, or nothing if they are in the wrong order. -/
def momentBetween (low high : Moment) : Run Value := do
  if ← Run.lift ((Value.moment low).compares .greater (.moment high)) then
    Run.log .debug .synthesis
      ("Unsatisfiable date range [" ++ low.toIso " " ++ ", " ++ high.toIso " " ++ "]")
    pure .absent
  else Draw.between (.moment low) (.moment high)

/-- Fills a date: between its bounds, within a day of a single bound, or not long before the
reference date. -/
def date (environment : Environment) (checks : List Check) : Make := fun context => do
  let bounds ← DateBounds.ofChecks checks
  match bounds.min, bounds.max with
  | some low, some high => momentBetween low high
  | some low, none => Draw.soon (.moment low) (.int 1)
  | none, some high => Draw.recent (.moment high) (.int 1)
  | none, none => Draw.recent (environment.referenceDate context) (.int recentDays)

/-! ### Collections -/

/-- Fills the fields of an object one after another. -/
def fillFields (fields : List (String × Make)) (context : Context) : Run (List (Value × Value)) :=
  fields.mapM fun field => do
    pure (.text field.1, ← field.2 (context.forKey (.text field.1)))

/-- Fills an object. -/
def object (fields : List (String × Make)) : Make :=
  guarded (.dictionary []) fun context => do pure (.dictionary (← fillFields fields context))

/-- Fills a number of items. -/
def copies (make : Run Value) : Nat → Run (List Value)
  | 0 => pure []
  | count + 1 => do
    let item ← make
    pure (item :: (← copies make count))

/-- The sizes of arrays without bounds. -/
def arraySizes : Int × Int := (0, 10)

/-- The sizes of sets without bounds. -/
def setSizes : Int × Int := (1, 5)

/-- The size of a collection. -/
def targetSize (checks : List Check) (usual : Int × Int) : Run Int := do
  let (low, high) ← Run.lift
    ((SizeBounds.ofChecks checks).resolve (.int usual.1) (.int usual.2))
  Draw.integer low high

/-- The items of an array. -/
def items (checks : List Check) (element : Make) (context : Context) : Run (List Value) := do
  let size ← targetSize checks arraySizes
  copies (element context) size.toNat

/-- Fills an array. -/
def array (checks : List Check) (element : Make) : Make :=
  guarded (.list []) fun context => do pure (.list (← items checks element context))

/-- How often to draw for a number of different members. -/
def attemptsFor (target : Int) : Nat := (max 10 (target * 10)).toNat

/-- What is gathered for a set: its members, those of them that are looked up as members of a set,
and whether all that was drawn may be in a set. -/
structure Gathering where
  members : List Value := []
  seen : List Value := []
  isHashable : Bool := true

namespace Gathering

/-- Can the value be looked up in a set? A set is looked up as the frozen set with its members. -/
def isSought : Value → Bool
  | .set _ _ => true
  | drawn => drawn.isHashable

/-- What is gathered with one more value. A value that can be looked up in a set is looked up among
those that may be in one, and else a value that may not be in one among all members; a value that is
found is dropped. -/
def add (found : Gathering) (drawn : Value) : Gathering :=
  if isSought drawn && drawn.isIn found.seen then found
  else if drawn.isHashable then
    { found with members := found.members ++ [drawn], seen := found.seen ++ [drawn] }
  else if drawn.isIn found.members then { found with isHashable := false }
  else { found with members := found.members ++ [drawn], isHashable := false }

/-- The members as a set, or as a list if something was drawn that cannot be in a set. -/
def toValue (found : Gathering) : Value :=
  if found.isHashable then .set (Value.distinct found.members) else .list found.members

end Gathering

/-- Gathers different members until there are enough or the attempts run out. -/
def collect (make : Run Value) (target : Int) : Nat → Gathering → Run Gathering
  | 0, found => pure found
  | attempts + 1, found => do
    if target ≤ found.members.length then pure found
    else collect make target attempts (found.add (← make))

/-- The record of a collection that stays too small. -/
def logExhausted (domain noun : String) (found : Nat) (target : Int) : Run Unit :=
  Run.log .debug .synthesis
    (domain ++ " domain exhausted: " ++ toString found ++ " of " ++ toString target ++
      " distinct " ++ noun)

/-- Fills a set that should have a number of members. -/
def gather (make : Run Value) (target : Int) : Run Value := do
  let found ← collect make target (attemptsFor target) {}
  if (found.members.length : Int) < target then
    logExhausted "Set element" "values" found.members.length target
  pure found.toValue

/-- Fills a set. -/
def set (checks : List Check) (element : Make) : Make :=
  guarded (.set []) fun context => do
    gather (element context) (← targetSize checks setSizes)

/-- How many entries a dictionary should have at least, how often to draw for them, and the number
to report. -/
structure EntryTarget where
  enough : Nat
  attempts : Nat
  reported : Int

/-- The target that a value denotes. -/
def entryTarget : Value → Except Fault EntryTarget
  | .float value =>
    match value with
    | .nan _ => .ok ⟨0, 10, 0⟩
    | .infinite negative => if negative then .ok ⟨0, 10, 0⟩ else .error .overflow
    | number =>
      let tenfold := (number.multiply (.ofRatio false 10 1)).toRat
      .ok ⟨number.toRat.ceil.toNat, (max 10 tenfold.ceil).toNat, truncateRat number.toRat⟩
  | value =>
    match value.toInt? with
    | some count => .ok ⟨count.toNat, attemptsFor count, count⟩
    | none => .error .wrongType

/-- Gathers entries until there are enough or the attempts run out. -/
def fill (key value : Run Value) (enough : Nat) :
    Nat → List (Value × Value) → Run (List (Value × Value))
  | 0, found => pure found
  | attempts + 1, found => do
    if enough ≤ found.length then pure found
    else
      let drawnKey ← key
      let drawnValue ← value
      if drawnKey.isHashable then
        fill key value enough attempts (Value.put found drawnKey drawnValue)
      else throw .wrongType

/-- Fills a dictionary with a number of entries. -/
def entries (size : Context → Value) (key value : Make) : Make :=
  guarded (.dictionary []) fun context => do
    let target ← Run.lift (entryTarget (size context))
    let found ← fill (key context) (value context) target.enough target.attempts []
    if found.length < target.enough then
      logExhausted "Key" "keys" found.length target.reported
    pure (.dictionary found)

/-- The making of what follows the items of a tuple: the items of an array, one level deeper. -/
def restItems (rest : Option Make) (context : Context) : Run (List Value) :=
  match rest with
  | none => pure []
  | some element => do
    if ← Run.lift context.exhausted then pure []
    else items [] element (← Run.lift context.descend)

/-- Fills a tuple. -/
def tuple (members : List Make) (rest : Option Make) : Make := fun context => do
  let fixed ← members.mapM fun member => member context
  pure (.tuple (fixed ++ (← restItems rest context)))

/-! ### Combinations -/

/-- Fills one of several options. -/
def union (options : List Make) : Make := fun context => do
  (← Draw.member options) context

/-- Two samples as one: the entries of both dictionaries, or else the second unless it is absent. -/
def merge : Value → Value → Value
  | .dictionary left, .dictionary right => .dictionary (Value.putAll left right)
  | left, right => if right.isAbsent then left else right

/-- Fills two parts and merges them; there must be two. -/
def intersection (members : List Make) : Make := fun context => do
  match ← (members.take 3).mapM fun member => member context with
  | [left, right] => pure (merge left right)
  | _ => throw .outOfDomain

/-- Fills with one of several values. -/
def oneOf (values : List Value) : Make := fun _ => Draw.member values

/-- Fills with what the node wraps, which must be there. -/
def inner (tag : String) (child : Option Make) : Make := fun context =>
  match child with
  | some make => make context
  | none => throw (.misuse (.nothingToUnwrap tag))

/-- Fills with the default or with what the node wraps, as a draw decides. -/
def default (environment : Environment) (fallback : Option Fallback) (child : Option Make) : Make :=
  fun context => do
    if ← Draw.boolean then
      match fallback with
      | some found => environment.fallbackValue found
      | none => throw .wrongType
    else ofChild child context

/-- Fills with what the node wraps, transformed. -/
def effects (environment : Environment) (effect : Option Hook) (child : Option Make) : Make :=
  fun context => do
    let made ← ofChild child context
    match effect with
    | some hook => environment.invokeValue hook (.onValue made)
    | none => pure made

/-- The name of every generated function. -/
def functionName : FunctionName := ⟨"synth_function.<locals>.", "mocked_function"⟩

/-- Fills with a function that generates its results. -/
def function (returns : Option Schema) : Make := fun context =>
  Run.newFunction functionName ⟨returns, context⟩

/-- Fills with a settled promise. -/
def promise (child : Option Make) : Make := fun context => do
  let settled ← ofChild child context
  pure (.promise (← Run.fresh) settled)

/-- Fills with what a lazy node stands for, which has to be found first. -/
def deferred (lower : Schema → Make) (found : Except Fault Schema) : Make :=
  guarded .absent fun context => do lower (← Run.lift found) context

/-- Fills with one value. -/
def constant (value : Value) : Make := fun _ => pure value

/-- Fills with a float that is not a number. -/
def nan : Make := fun _ => do pure (.float (.nan (← Run.fresh)))

end Make

end Specimen
