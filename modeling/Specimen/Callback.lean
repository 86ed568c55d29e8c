/-
**Ready-made functions of the caller.**

A small stock of functions that a caller can put behind a hook: constants, counters, faults and
simple functions of what they are called with.
-/

import Specimen.Draw

namespace Specimen

/-- A ready-made function. -/
inductive Callback where
  /-- Always returns the value. -/
  | const (value : Value)
  /-- Always fails. -/
  | fail (fault : Fault)
  /-- Counts its calls from zero. -/
  | counter (identity : Nat)
  /-- The number of things in a value. -/
  | length
  /-- The plain text of a value. -/
  | text
  /-- The name of the type of a value. -/
  | typeName
  /-- The value twice. -/
  | pair
  /-- Makes the value under a key, if it has one. -/
  | table (entries : List (Value × Value))
  /-- Makes a fault for every key. -/
  | failLater (fault : Fault)
  /-- Makes the key in upper case. -/
  | upper
  /-- What a node is, and where. -/
  | info
  /-- An integer between two bounds. -/
  | draw (low high : Value)
  /-- One field, filled by the provider. -/
  | provided (key : Value) (name : String)

namespace Callback

/-- The fault of a call with the wrong number of arguments. -/
def refused : Run Reply := throw .wrongType

/-- A function of one value. -/
def unary (invocation : Invocation) (function : Value → Except Fault Value) : Run Reply :=
  match invocation with
  | .onValue argument => do pure (.value (← Run.lift (function argument)))
  | _ => refused

/-- The generator of the upper-cased key. -/
def upperGenerator : Value → Run Value
  | .text key => pure (.text (upperCase key))
  | _ => throw .missingPart

/-- A function whose first argument is a key. -/
def keyed (invocation : Invocation) (function : Value → Reply) (unnamed : Reply) : Run Reply :=
  match invocation with
  | .bare => refused
  | .onKey key => pure (function key)
  | .onValue key => pure (function key)
  | _ => pure unnamed

/-- What a table makes for a key. -/
def tableReply (entries : List (Value × Value)) (key : Value) : Reply :=
  match Value.lookup? entries key with
  | some found => .generator (pure found)
  | none => .value .null

/-- Calls a function. -/
def invoke (provider : ProviderCall → Run Value) (callback : Callback) (invocation : Invocation) :
    Run Reply :=
  match callback with
  | .const returned => pure (.value returned)
  | .fail fault => throw fault
  | .counter identity => do pure (.value (.int (← Run.count identity)))
  | .length => unary invocation fun argument => do pure (.int (← argument.size))
  | .text => unary invocation fun argument => pure (.text argument.display)
  | .typeName => unary invocation fun argument => pure (.text argument.typeName)
  | .pair => unary invocation fun argument => pure (.list [argument, argument])
  | .table entries => keyed invocation (tableReply entries) (.value .null)
  | .failLater fault => keyed invocation (fun _ => .generator (throw fault))
      (.generator (throw fault))
  | .upper => keyed invocation (fun key => .generator (upperGenerator key))
      (.generator (throw .missingPart))
  | .info =>
    match invocation with
    | .onNode schema context =>
      pure (.value (.list [.text schema.tag, context.keyName, context.currentDepth]))
    | _ => refused
  | .draw low high =>
    match invocation with
    | .onNode _ _ => do pure (.value (.int (← Draw.integer low high)))
    | _ => refused
  | .provided key name =>
    match invocation with
    | .onProvider => do pure (.value (.dictionary [(key, ← provider ⟨name, [], []⟩)]))
    | _ => refused

end Callback

end Specimen
