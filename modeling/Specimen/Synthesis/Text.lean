/-
**Filling a text.**

A text that has to match a pattern is drawn from the pattern. Otherwise a function of the caller for
the field comes first; then a length is drawn, and the text comes from the category of the field or
of a format, from the resolver, or from the list of words. At the end it is padded to the least
length and cut to the greatest.
-/

import Specimen.Bounds
import Specimen.Catalog
import Specimen.Draw

namespace Specimen

/-- Fills a node in a context. -/
abbrev Make := Context → Run Value

namespace TextSynthesis

/-! ### The length -/

/-- The greatest length of a text without bounds. -/
def usualLength : Int := 10

/-- The longer of a bound and the usual length. -/
def atLeastUsual (bound : Value) : Except Fault Value := do
  pure (if ← bound.compares .greater (.int usualLength) then bound else .int usualLength)

/-- The interval that the length is drawn from: the bounds in order, or what is usual. -/
def lengthInterval (bounds : TextBounds) : Except Fault (Value × Value) := do
  match bounds.min, bounds.max with
  | some low, some high => pure (if ← low.compares .greater high then (high, low) else (low, high))
  | some low, none => pure (low, ← atLeastUsual low)
  | none, some high => pure (.int 0, high)
  | none, none => pure (.int 0, .int usualLength)

/-- The length to aim at. -/
def targetLength (bounds : TextBounds) : Run Int := do
  let (low, high) ← Run.lift (lengthInterval bounds)
  Draw.integer low high

/-! ### Categories -/

/-- Where a text comes from. -/
inductive TextSource where
  | provided (name : String)
  /-- A moment of the day before the reference date. -/
  | recentMoment
  deriving DecidableEq

/-- What is asked for when a color is wanted. -/
def color : TextSource := .provided "hex_color"

/-- Sources by the name of a field or format, in the order in which they are tried. -/
def categories : List (String × TextSource) :=
  [("email", .provided "email"), ("uuid", .provided "uuid4"), ("uid", .provided "uuid4"),
    ("url", .provided "url"), ("name", .provided "name"), ("date", .recentMoment),
    ("datetime", .recentMoment), ("colorhex", color), ("color", color), ("backgroundcolor", color),
    ("textshadow", color), ("textcolor", color), ("textdecorationcolor", color),
    ("bordercolor", color), ("bordertopcolor", color), ("borderrightcolor", color),
    ("borderbottomcolor", color), ("borderleftcolor", color), ("borderblockstartcolor", color),
    ("borderblockendcolor", color), ("borderinlinestartcolor", color),
    ("borderinlineendcolor", color), ("columnrulecolor", color), ("outlinecolor", color),
    ("phonenumber", .provided "phone_number")]

/-- The source for a field or for one of some formats. -/
def category? (field : Option String) (formats : List String) : Option TextSource :=
  (categories.find? fun entry => field == some entry.1 || formats.contains entry.1).map (·.2)

/-- Makes a text. -/
def TextSource.make (environment : Environment) (context : Context) : TextSource → Run Value
  | .provided name => environment.ask name
  | .recentMoment => do
    let moment ← Draw.recent (environment.referenceDate context) (.int 1)
    pure (.text moment.plainText)

/-- The normalized name of the field, if there is one. -/
def fieldName (context : Context) : Except Fault (Option String) := do
  if context.keyName.isTruthy then pure (some (normalizedKey (← Catalog.nameText context.keyName)))
  else pure none

/-! ### Generators -/

/-- What the resolver makes for the field, or else mapper and catalog. -/
def resolved (environment : Environment) (context : Context) : Run Reply :=
  match context.resolver with
  | some hook => environment.invoke hook (.onKey context.keyName)
  | none => Catalog.generator environment context.mapper (environment.referenceDate context)
      context.keyName

/-- A word of the length to aim at; beyond the usual lengths, any word. -/
def plainWord (environment : Environment) (target : Int) : Run Value :=
  Draw.word environment (if usualLength < target then .null else .int target)

/-- What the resolver makes for a field, and a word where it makes nothing. -/
def fieldText (environment : Environment) (context : Context) (target : Int) : Run Value := do
  if context.keyName.isTruthy then
    let reply ← resolved environment context
    if reply.isNull then plainWord environment target else reply.call
  else plainWord environment target

/-- The text before it is fitted. -/
def rawText (environment : Environment) (bounds : TextBounds) (context : Context) (target : Int) :
    Run String := do
  let made ← match category? (← Run.lift (fieldName context)) bounds.formats with
    | some source => source.make environment context
    | none => fieldText environment context target
  pure made.plainText

/-! ### Fitting -/

/-- The text filled up with letters to a least length. -/
def padTo (bound : Value) (text : String) : Run String := do
  if ← Run.lift ((Value.int text.length).compares .less bound) then
    match bound.toInt? with
    | some length => do pure (text ++ (← Draw.alpha (.int (length - text.length))))
    | none => throw .wrongType
  else pure text

/-- The text cut to a greatest length; a negative length counts from the end. -/
def cutTo (bound : Value) (text : String) : Except Fault String :=
  match bound.toInt? with
  | some length =>
    let kept := if length < 0 then length + text.length else length
    .ok (String.ofList (text.toList.take kept.toNat))
  | none => .error .wrongType

/-- The text padded and cut to its bounds; the greatest length has the last word. -/
def fit (bounds : TextBounds) (text : String) : Run String := do
  let padded ← match bounds.min with
    | some bound => padTo bound text
    | none => pure text
  match bounds.max with
  | some bound => Run.lift (cutTo bound padded)
  | none => pure padded

/-! ### The whole -/

/-- The function of the caller for the field. -/
def callersFunction? (context : Context) : Except Fault (Option Hook) :=
  if !context.keyName.isTruthy then .ok none
  else if !context.keyName.isHashable then .error .wrongType
  else
    match context.keyName with
    | .text name => .ok (context.stringMap.lookup name)
    | _ => .ok none

/-- A text without a pattern to match. -/
def unpatterned (environment : Environment) (bounds : TextBounds) : Make := fun context => do
  match ← Run.lift (callersFunction? context) with
  | some hook => environment.invokeValue hook .bare
  | none =>
    let target ← targetLength bounds
    let text ← rawText environment bounds context target
    pure (.text (← fit bounds text))

/-- Fills a text with the given checks. -/
def make (environment : Environment) (checks : List Check) : Make := fun context => do
  let bounds := TextBounds.ofChecks checks
  match bounds.pattern with
  | some pattern =>
    pure (.text (← Draw.fromPattern environment pattern (bounds.max.getD .null)))
  | none => unpatterned environment bounds context

end TextSynthesis

end Specimen
