/-
**The numbered provider.**

A provider that makes every answer from one number below a thousand, so that an answer shows what
was asked for, with which arguments, and what was drawn. A few names answer with numbers,
identifiers and dates; all others answer with the text of the call and the number.
-/

import Specimen.Environment
import Specimen.Pattern.Sampler
import Specimen.Value.Span
import Specimen.Vocabulary

namespace Specimen

namespace ProviderCall

/-- The arguments of a call by name. -/
def named? (call : ProviderCall) (name : String) : Value := (call.named.lookup name).getD .null

/-- The text of a call: its name, and its arguments if it has any. -/
def text (call : ProviderCall) : String :=
  let pieces := call.arguments.map Value.plainText ++
    call.named.map fun entry => entry.1 ++ "=" ++ entry.2.plainText
  if pieces.isEmpty then call.name else call.name ++ "(" ++ ",".intercalate pieces ++ ")"

end ProviderCall

namespace NumberedProvider

/-- How many different answers there are to a call. -/
def answers : Nat := 1000

/-- The number in hexadecimal, padded to a width. -/
def hexadecimal (width number : Nat) : String :=
  String.ofList (Quoted.hexPadded width number)

/-- The date at a place between two dates. -/
def dateBetween (low high : Value) (number : Nat) : Except Fault Value := do
  match ← low.gap high with
  | .span size => low.later (size.fdiv answers * number)
  | _ => throw .wrongType

/-- The day of a moment. -/
def dayOf : Value → Except Fault Value
  | .moment value => .ok (.day value.day)
  | _ => .error .missingPart

/-- The two first arguments of a call. -/
def twoArguments (call : ProviderCall) : Value × Value :=
  (call.arguments.headD .null, (call.arguments.drop 1).headD .null)

/-- The answer to a call for a number. -/
def answer (call : ProviderCall) (number : Nat) : Except Fault Value :=
  let (first, second) := twoArguments call
  match call.name with
  | "pyint" | "unix_time" => .ok (.int number)
  | "pyfloat" | "latitude" | "longitude" => .ok (.float (.ofRatio false number 8))
  | "pybool" => .ok (.bool (number % 2 == 1))
  | "uuid4" => .ok (.text (hexadecimal 8 number ++ "-0000-4000-8000-" ++ hexadecimal 12 number))
  | "email" => .ok (.text ("user" ++ toString number ++ "@example.com"))
  | "url" => .ok (.text ("https://host" ++ toString number ++ ".example.com/"))
  | "date_time" => (call.named? "end_datetime").earlier (number * microsPerSecond)
  | "date_between_dates" => do dayOf (← dateBetween first second number)
  | "date_time_between_dates" => dateBetween first second number
  | _ => .ok (.text (call.text ++ "#" ++ toString number))

end NumberedProvider

/-- Answers a call with a number that is drawn for it. -/
def numberedProvider (call : ProviderCall) : Run Value := do
  let number ← Run.draw fun twister => twister.below NumberedProvider.answers
  Run.lift (NumberedProvider.answer call number)

/-- The services with the numbered provider. -/
def numberedServices : Services := ⟨numberedProvider, Vocabulary.words, samplePattern⟩

end Specimen
