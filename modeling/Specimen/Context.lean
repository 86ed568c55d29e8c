/-
**The context of a generation.**

A context is handed from node to node: how deep the walk is and how deep it may go, the name of
the field that is being filled, and what the caller chose. Callers choose by name;
`Context.ofSettings` puts their choices in place of the defaults and `Context.unknownNames` lists
names that mean nothing.

Depths and sizes are kept as the caller gave them and are looked at only when they are needed.
-/

import Specimen.Schema
import Specimen.Value.Convert

namespace Specimen

namespace Value

/-- The number one larger. -/
def increment : Value → Except Fault Value
  | .float value => .ok (.float (value.add (.finite false (Nat.pow 2 52) (-52))))
  | value =>
    match value.toInt? with
    | some result => .ok (.int (result + 1))
    | none => .error .wrongType

end Value

/-- A choice of the caller. -/
inductive Setting where
  | value (value : Value)
  | hook (hook : Hook)
  /-- Functions of the caller by name. -/
  | table (entries : List (String × Hook))

/-- Choices of the caller by name. -/
abbrev Settings := List (String × Setting)

/-- What is handed from node to node. -/
structure Context where
  currentDepth : Value := .int 0
  maxDepth : Value := .int 10
  /-- The field that is being filled, null outside of objects. -/
  keyName : Value := .null
  /-- Functions that fill text fields, by the name of the field. -/
  stringMap : List (String × Hook) := []
  /-- The function that is asked for a generator for a field before the catalog. -/
  mapper : Option Hook := none
  /-- The function that is asked instead of mapper and catalog. -/
  resolver : Option Hook := none
  /-- Functions that fill nodes of a tag. -/
  overrides : List (String × Hook) := []
  recordKeysLength : Value := .int 1
  mapEntriesLength : Value := .int 1
  throwOnUnknownType : Value := .bool false
  seed : Value := .null
  /-- The moment that generated dates refer to, null for the start of today. -/
  referenceDate : Value := .null

namespace Context

/-! ### Choices -/

/-- The names that a caller may choose by. -/
def settingNames : List String :=
  ["current_depth", "max_depth", "key_name", "string_map", "mockery_mapper", "resolver",
    "backup_mocks", "record_keys_length", "map_entries_length", "throw_on_unknown_type",
    "reference_date"]

/-- The names among the choices that mean nothing, in order. -/
def unknownNames (settings : Settings) : List String :=
  let names := (settings.map (·.1)).filter fun name => !settingNames.contains name
  names.eraseDups.mergeSort fun first second => !(second < first)

/-- The value of a choice. -/
def Setting.toValue : Setting → Value
  | .value value => value
  | _ => .null

/-- The function of a choice, if it is one. -/
def Setting.toHook : Setting → Option Hook
  | .hook hook => some hook
  | _ => none

/-- The functions of a choice by name. -/
def Setting.toTable : Setting → List (String × Hook)
  | .table entries => entries
  | _ => []

/-- The context with one choice put in place. -/
def choose (context : Context) (name : String) (setting : Setting) : Context :=
  match name with
  | "current_depth" => { context with currentDepth := Setting.toValue setting }
  | "max_depth" => { context with maxDepth := Setting.toValue setting }
  | "key_name" => { context with keyName := Setting.toValue setting }
  | "string_map" => { context with stringMap := Setting.toTable setting }
  | "mockery_mapper" => { context with mapper := Setting.toHook setting }
  | "resolver" => { context with resolver := Setting.toHook setting }
  | "backup_mocks" => { context with overrides := Setting.toTable setting }
  | "record_keys_length" => { context with recordKeysLength := Setting.toValue setting }
  | "map_entries_length" => { context with mapEntriesLength := Setting.toValue setting }
  | "throw_on_unknown_type" => { context with throwOnUnknownType := Setting.toValue setting }
  | "reference_date" => { context with referenceDate := Setting.toValue setting }
  | _ => context

/-- The context of the choices of a caller; of two choices with one name the later one counts. -/
def ofSettings (seed : Value) (settings : Settings) : Context :=
  settings.foldl (fun context setting => context.choose setting.1 setting.2) { seed := seed }

/-! ### Depth -/

/-- Is the walk as deep as it may go? -/
def exhausted (context : Context) : Except Fault Bool :=
  context.currentDepth.compares .greaterEqual context.maxDepth

/-- The context one level deeper. -/
def descend (context : Context) : Except Fault Context := do
  pure { context with currentDepth := ← context.currentDepth.increment }

/-- The context for a field. -/
def forKey (context : Context) (name : Value) : Context := { context with keyName := name }

/-- How many levels deeper a walk may go when its depths are not numbers with a distance. -/
def unboundedLevels : Nat := 1000

/-- How many levels deeper the walk may go. -/
def remaining (context : Context) : Nat :=
  match context.currentDepth.toExtended?, context.maxDepth.toExtended? with
  | some (.rational current), some (.rational most) => (most - current).ceil.toNat
  | _, _ => unboundedLevels

end Context

end Specimen
