/-
**Values.**

Callers hand in values of every kind and samples are values of every kind, so one type holds them
all; they behave as the built-in values of release 3.11 of the platform do. Collections keep the
order in which their members came. Three kinds have an identity of their own: a number that is not a
number (its payload), a promise and a function; two of them are the same only if their identities
agree.

Texts are sequences of Unicode scalar values, so none has a lone surrogate. Values of other classes
are left out: bytes, complex numbers, compiled patterns (a check holds the source of its pattern),
enumerations that are also texts or numbers or that have a text of their own, subclasses of the
kinds below, and objects of the caller.

* `Value.same` decides whether two values count as one member of a collection: the same object, or
  equal.
* `Value.equals` is equality of two values in its own right, under which not-a-number differs from
  itself.
* `Value.isHashable` says which values may be members of sets and keys of dictionaries.
-/

import Specimen.Binary64
import Specimen.Calendar

namespace Specimen

/-- The class that the members of an enumeration belong to. Two classes may have one name. -/
structure EnumClass where
  name : String
  identity : Nat
  deriving DecidableEq

/-- The name of a function, and the scope that its qualified name starts with. -/
structure FunctionName where
  scope : String := ""
  name : String
  deriving DecidableEq

/-- A value: what a schema describes, a caller supplies and a sample is made of. -/
inductive Value where
  /-- No representable value. -/
  | absent
  /-- The null value, distinct from `absent`. -/
  | null
  | bool (value : Bool)
  | int (value : Int)
  | float (value : Binary64)
  | text (value : String)
  | list (items : List Value)
  | tuple (items : List Value)
  /-- Members that are pairwise different. A frozen set never changes, so it is hashable. -/
  | set (members : List Value) (frozen : Bool := false)
  /-- Entries with pairwise different keys. -/
  | dictionary (entries : List (Value × Value))
  | moment (value : Moment)
  | day (value : Day)
  /-- A member of an enumeration: its class, its name and its value. -/
  | member (family : EnumClass) (name : String) (value : Value)
  /-- A settled promise. -/
  | promise (identity : Nat) (settled : Value)
  | function (name : FunctionName) (identity : Nat)

instance : Inhabited Value := ⟨.absent⟩

namespace Value

/-! ### Numbers -/

/-- Where a number stands on the extended line: booleans count as 0 and 1. Nothing for a value that
is no number, and for not-a-number. -/
def toExtended? : Value → Option ExtendedRat
  | .bool value => some (.rational (if value then 1 else 0))
  | .int value => some (.rational value)
  | .float value => value.toExtended?
  | _ => none

/-- Is the value an integer, a float or a boolean? -/
def isNumeric : Value → Bool
  | .bool _ | .int _ | .float _ => true
  | _ => false

/-- The integer that a value is, booleans included. -/
def toInt? : Value → Option Int
  | .bool value => some (if value then 1 else 0)
  | .int value => some value
  | _ => none

/-- Is this the float that is not a number? -/
def isNan : Value → Bool
  | .float value => value.isNan
  | _ => false

/-- Are two numbers equal, or the same not-a-number? -/
def sameNumber (first second : Value) : Bool :=
  match first, second with
  | .float (.nan left), .float (.nan right) => left == right
  | _, _ =>
    match first.toExtended?, second.toExtended? with
    | some left, some right => left == right
    | _, _ => false

/-! ### Sameness -/

mutual

/-- Are two values the same object, or equal? Numbers compare by value across their types, moments
by the time they denote, and collections member by member; whether a set is frozen does not
matter. Two sets, or dictionaries, are equal if they are of one size and each holds what the other
does. -/
def same : Value → Value → Bool
  | .absent, .absent => true
  | .null, .null => true
  | .text first, .text second => first == second
  | .list first, .list second => sameItems first second
  | .tuple first, .tuple second => sameItems first second
  | .set first _, .set second _ =>
    first.length == second.length && includedIn first second && second.all (isAmong first)
  | .dictionary first, .dictionary second =>
    first.length == second.length && entriesIn first second && second.all (isEntryAmong first)
  | .moment first, .moment second => first.same second
  | .day first, .day second => first == second
  | .member family name _, .member otherFamily otherName _ =>
    family == otherFamily && name == otherName
  | .promise first _, .promise second _ => first == second
  | .function _ first, .function _ second => first == second
  | .bool first, second => sameNumber (.bool first) second
  | .int first, second => sameNumber (.int first) second
  | .float first, second => sameNumber (.float first) second
  | _, _ => false
  termination_by structural first => first

/-- Are two lists the same, item by item? -/
def sameItems : List Value → List Value → Bool
  | [], [] => true
  | first :: rest, other :: others => same first other && sameItems rest others
  | _, _ => false
  termination_by structural first => first

/-- Is every member of the first list the same as one of the second? -/
def includedIn : List Value → List Value → Bool
  | [], _ => true
  | first :: rest, others => others.any (fun other => same first other) && includedIn rest others
  termination_by structural first => first

/-- Is a value of the list the same as the other value? -/
def isAmong : List Value → Value → Bool
  | [], _ => false
  | first :: rest, other => same first other || isAmong rest other
  termination_by structural first => first

/-- Does every entry of the first list have an entry with the same key and value in the second? -/
def entriesIn : List (Value × Value) → List (Value × Value) → Bool
  | [], _ => true
  | (key, value) :: rest, others =>
    others.any (fun other => same key other.1 && same value other.2) && entriesIn rest others
  termination_by structural first => first

/-- Does an entry of the list have the same key and value as the other entry? -/
def isEntryAmong : List (Value × Value) → Value × Value → Bool
  | [], _ => false
  | (key, value) :: rest, other =>
    same key other.1 && same value other.2 || isEntryAmong rest other
  termination_by structural first => first

end

/-- Are two values equal? Not-a-number is equal to nothing, itself included. -/
def equals (first second : Value) : Bool := !first.isNan && first.same second

/-- Is a value the same as one of a list? -/
def isIn (value : Value) (items : List Value) : Bool := items.any fun item => value.same item

mutual

/-- May the value be a member of a set or a key of a dictionary? -/
def isHashable : Value → Bool
  | .list _ => false
  | .set _ frozen => frozen
  | .dictionary _ => false
  | .tuple items => areHashable items
  | _ => true
  termination_by structural value => value

/-- May all of the values be members of a set? -/
def areHashable : List Value → Bool
  | [] => true
  | item :: rest => isHashable item && areHashable rest
  termination_by structural items => items

end

/-! ### Collections -/

/-- Puts an entry: a key that is there keeps its place and its form and gets the new value. -/
def put (entries : List (Value × Value)) (key value : Value) : List (Value × Value) :=
  match entries with
  | [] => [(key, value)]
  | (first, old) :: rest =>
    if key.same first then (first, value) :: rest else (first, old) :: put rest key value

/-- The entries put one after another. -/
def putAll (entries more : List (Value × Value)) : List (Value × Value) :=
  more.foldl (fun found entry => put found entry.1 entry.2) entries

/-- The value under a key. -/
def lookup? (entries : List (Value × Value)) (key : Value) : Option Value :=
  (entries.find? fun entry => key.same entry.1).map (·.2)

/-- The value under a text key. -/
def field? (entries : List (Value × Value)) (name : String) : Option Value :=
  lookup? entries (.text name)

/-- The members of a list without those that are the same as an earlier one. -/
def distinct (items : List Value) : List Value :=
  items.foldl (fun found item => if item.isIn found then found else found ++ [item]) []

/-! ### Truth and type -/

/-- Does the value count as true? Zeros, empty texts and collections, null and absent do not. -/
def isTruthy : Value → Bool
  | .absent => false
  | .null => false
  | .bool value => value
  | .int value => value != 0
  | .float value => !value.isZero
  | .text value => value != ""
  | .list items => !items.isEmpty
  | .tuple items => !items.isEmpty
  | .set members _ => !members.isEmpty
  | .dictionary entries => !entries.isEmpty
  | _ => true

/-- Is this the absent value? -/
def isAbsent : Value → Bool
  | .absent => true
  | _ => false

/-- Is this the null value? -/
def isNull : Value → Bool
  | .null => true
  | _ => false

/-- Can the value be called? -/
def isCallable : Value → Bool
  | .function _ _ => true
  | _ => false

/-- The value as an option, null being nothing. -/
def nonNull? : Value → Option Value
  | .null => none
  | value => some value

/-- The name of the type of a value. -/
def typeName : Value → String
  | .absent => "_Absent"
  | .null => "NoneType"
  | .bool _ => "bool"
  | .int _ => "int"
  | .float _ => "float"
  | .text _ => "str"
  | .list _ => "list"
  | .tuple _ => "tuple"
  | .set _ frozen => if frozen then "frozenset" else "set"
  | .dictionary _ => "dict"
  | .moment _ => "datetime"
  | .day _ => "date"
  | .member family _ _ => family.name
  | .promise _ _ => "ResolvedPromise"
  | .function _ _ => "function"

/-- Do two values have the same type? -/
def sameType : Value → Value → Bool
  | .absent, .absent => true
  | .null, .null => true
  | .bool _, .bool _ => true
  | .int _, .int _ => true
  | .float _, .float _ => true
  | .text _, .text _ => true
  | .list _, .list _ => true
  | .tuple _, .tuple _ => true
  | .set _ first, .set _ second => first == second
  | .dictionary _, .dictionary _ => true
  | .moment _, .moment _ => true
  | .day _, .day _ => true
  | .member first _ _, .member second _ _ => first == second
  | .promise _ _, .promise _ _ => true
  | .function _ _, .function _ _ => true
  | _, _ => false

/-! ### Copies -/

mutual

/-- A copy in which every promise is a new one, with identities from `fresh` on; also gives the next
unused identity. -/
def copyFrom (fresh : Nat) : Value → Value × Nat
  | .list items =>
    let copy := copyItems fresh items
    (.list copy.1, copy.2)
  | .tuple items =>
    let copy := copyItems fresh items
    (.tuple copy.1, copy.2)
  | .set members frozen =>
    let copy := copyItems fresh members
    (.set copy.1 frozen, copy.2)
  | .dictionary entries =>
    let copy := copyEntries fresh entries
    (.dictionary copy.1, copy.2)
  | .promise _ settled =>
    let copy := copyFrom (fresh + 1) settled
    (.promise fresh copy.1, copy.2)
  | other => (other, fresh)
  termination_by structural value => value

/-- Copies of a list of values. -/
def copyItems (fresh : Nat) : List Value → List Value × Nat
  | [] => ([], fresh)
  | item :: rest =>
    let first := copyFrom fresh item
    let others := copyItems first.2 rest
    (first.1 :: others.1, others.2)
  termination_by structural items => items

/-- Copies of a list of entries. -/
def copyEntries (fresh : Nat) : List (Value × Value) → List (Value × Value) × Nat
  | [] => ([], fresh)
  | (key, value) :: rest =>
    let first := copyFrom fresh key
    let second := copyFrom first.2 value
    let others := copyEntries second.2 rest
    ((first.1, second.1) :: others.1, others.2)
  termination_by structural entries => entries

end

mutual

/-- How deeply collections and promises nest in a value. -/
def depth : Value → Nat
  | .list items => depthItems items + 1
  | .tuple items => depthItems items + 1
  | .set members _ => depthItems members + 1
  | .dictionary entries => depthEntries entries + 1
  | .promise _ settled => depth settled + 1
  | .member _ _ value => depth value + 1
  | _ => 0
  termination_by structural value => value

/-- The greatest depth in a list of values. -/
def depthItems : List Value → Nat
  | [] => 0
  | item :: rest => max (depth item) (depthItems rest)
  termination_by structural items => items

/-- The greatest depth in a list of entries. -/
def depthEntries : List (Value × Value) → Nat
  | [] => 0
  | (key, value) :: rest => max (max (depth key) (depth value)) (depthEntries rest)
  termination_by structural entries => entries

end

end Value

end Specimen
