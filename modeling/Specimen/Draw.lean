/-
**Draws.**

Everything random in a sample is drawn here, from the source of the session or by the services of
the environment. Bounds and lengths come from the caller as values; one that is of no use for a
draw is a fault, and `Draw.integer` and `Draw.place` find that out before anything is drawn.
-/

import Specimen.Environment
import Specimen.Pattern.Reader
import Specimen.Value.Span

namespace Specimen

namespace Draw

/-! ### Numbers and choices -/

/-- An integer between two bounds, both included. -/
def integer (low high : Value) : Run Int := do
  let stop ← Run.lift high.increment
  let first ← Run.lift low.toIndex
  let beyond ← Run.lift stop.toIndex
  Run.attemptDraw fun twister => twister.between first (beyond - 1)

/-- A point between two values. -/
def uniform (low high : Value) : Run Value := do
  let gap ← Run.lift (low.gap high)
  let fraction ← Run.draw fun twister => twister.unit
  Run.lift (low.through gap (.ofRatio false fraction Binary64.significandBound))

/-- A boolean. -/
def boolean : Run Bool := do
  let bit ← Run.draw fun twister => twister.bits 1
  pure (bit == 1)

/-- A place in a sequence of the given length, which must not be empty. -/
def place (count : Nat) : Run Nat := do
  if count = 0 then throw .outOfDomain
  Run.draw fun twister => twister.below count

/-- A member of a list, which must not be empty. -/
def member {α : Type} (members : List α) : Run α := do
  let index ← place members.length
  match members[index]? with
  | some found => pure found
  | none => throw .noSuchPosition

/-- What a value has at a place. -/
def memberAt (index : Nat) : Value → Except Fault Value
  | .set _ _ => .error .wrongType
  | .dictionary entries =>
    match Value.lookup? entries (.int index) with
    | some found => .ok found
    | none => .error .missingKey
  | options => do
    match (← options.items)[index]? with
    | some found => .ok found
    | none => .error .noSuchPosition

/-- What a value has at a place that is drawn. -/
def choice (options : Value) : Run Value := do
  let index ← place (← Run.lift options.size)
  Run.lift (memberAt index options)

/-! ### Texts -/

/-- The letters that fill up a text that is too short. -/
def letters : List Char := "abcdefghijklmnopqrstuvwxyzABCDEFGHIJKLMNOPQRSTUVWXYZ".toList

/-- A number of letters. -/
def lettersOf : Nat → Run (List Char)
  | 0 => pure []
  | count + 1 => do
    let letter ← member letters
    pure (letter :: (← lettersOf count))

/-- A text of letters of the given length; none for a length that is not positive. -/
def alpha (length : Value) : Run String := do
  if ← Run.lift (length.compares .greater (.int 0)) then
    match length.toInt? with
    | some count => pure (String.ofList (← lettersOf count.toNat))
    | none => throw .wrongType
  else pure ""

/-- Lengths of texts stay below this bound. -/
def lengthBound : Int := Int.pow 2 63

/-- A text of the given length that the provider makes up. -/
def madeUpWord (environment : Environment) (length : Value) : Run Value :=
  match length.toInt? with
  | none => throw .wrongType
  | some count =>
    if lengthBound ≤ count then throw .overflow
    else environment.provider
      ⟨"lexify", [.text (String.ofList (List.replicate count.toNat '?'))], []⟩

/-- A word of the given length, from the list of words if it has one; without a length, any word. -/
def word (environment : Environment) (length : Value) : Run Value := do
  if length.isNull then environment.ask "word"
  else if ← Run.lift (length.compares .lessEqual (.int 0)) then pure (.text "")
  else
    let candidates := environment.wordsOfLength length
    if candidates.isEmpty then madeUpWord environment length
    else pure (.text (← member candidates))

/-- The number of copies at which a repetition is limited unless the caller says otherwise. -/
def copyLimit : Value := .int 20

/-- A text for a pattern, drawn from a generator of its own that is seeded by one draw. -/
def fromPattern (environment : Environment) (pattern limit : Value) : Run String := do
  let seed ← Run.draw fun twister => twister.bits 64
  match pattern with
  | .text source =>
    let nodes ← Run.lift (readPattern source)
    Run.lift (environment.sampleText nodes (if limit.isNull then copyLimit else limit) seed)
  | _ => throw .wrongType

/-! ### Dates -/

/-- A span of up to the given number of seconds. -/
def span (seconds : Value) : Run Int := do
  let drawn ← uniform (.int 0) seconds
  Run.lift (spanOfSeconds (← Run.lift drawn.toBinary64))

/-- A date between two dates. -/
def between (low high : Value) : Run Value := do
  let size ← Run.lift (low.spanBetween high)
  let way ← span (.float (spanToSeconds size))
  Run.lift (low.later way)

/-- A date at most a number of days after another. -/
def soon (reference days : Value) : Run Value := do
  let way ← span (← Run.lift days.daysInSeconds)
  Run.lift (reference.later way)

/-- A date at most a number of days before another. -/
def recent (reference days : Value) : Run Value := do
  let way ← span (← Run.lift days.daysInSeconds)
  Run.lift (reference.earlier way)

end Draw

end Specimen
