/-
**A sampler of patterns.**

A sampler for environments that need one: `samplePattern` walks a pattern from left to right and
draws a text for it: a member of each class, one of several alternatives, a number of copies of each
repetition. Characters come from the visible part of ASCII up to `z` unless the pattern names
others. The number of copies is limited, since most repetitions have no bound of their own.

The text is not always one that the pattern matches: anchors and negative look-ahead give nothing,
and what a positive look-ahead demands is written out.
-/

import Specimen.Pattern
import Specimen.Random.Draw
import Specimen.Text.Word
import Specimen.Value.Convert

namespace Specimen

namespace PatternSample

/-- The state of a walk: the generator and the texts of the groups walked so far. -/
structure State where
  twister : Twister
  groups : List (Nat × List Char)

/-- Walking draws and may fail. -/
abbrev Walk := ExceptT Fault (StateM State)

/-- Makes a draw. -/
def draw {α : Type} (drawing : Twister → Except Fault α × Twister) : Walk α := do
  let state ← get
  let (result, twister) := drawing state.twister
  set { state with twister := twister }
  match result with
  | .ok value => pure value
  | .error fault => throw fault

/-- Remembers the text of a group. -/
def remember (number : Nat) (text : List Char) : Walk Unit :=
  modify fun state => { state with groups := (number, text) :: state.groups }

/-! ### Characters -/

/-- The characters that stand for any character. -/
def anyCharacters : List Char := (List.range 91).map fun offset => Char.ofNat (32 + offset)

/-- The Latin-1 characters that satisfy a condition. -/
def latinCharacters (condition : Char → Bool) : List Char :=
  ((List.range 256).map Char.ofNat).filter condition

/-- The texts of a category: its characters, or one empty text for the complement of digits and of
spaces. -/
def categoryTexts : Category → List (List Char)
  | .digit => "0123456789".toList.map fun member => [member]
  | .space => [9, 10, 11, 12, 13, 32].map fun code => [Char.ofNat code]
  | .word => (latinCharacters isWordCharacter).map fun member => [member]
  | .notWord => (latinCharacters fun member => !isWordCharacter member).map fun member => [member]
  | .notDigit => [[]]
  | .notSpace => [[]]

/-- The texts of an item of a class. -/
def itemTexts : ClassItem → List (List Char)
  | .single member => [[member]]
  | .range first last =>
    ((List.range (last.toNat - first.toNat + 1)).map fun offset =>
      Char.ofNat (first.toNat + offset)).map fun member => [member]
  | .category category => categoryTexts category

/-- The texts of a class: those of its items one after another, or any character without the first
occurrence of each of theirs. -/
def classTexts (negated : Bool) (items : List ClassItem) : List (List Char) :=
  let texts := items.flatMap itemTexts
  if negated then texts.foldl List.erase (anyCharacters.map fun member => [member]) else texts

/-! ### Repetitions -/

/-- Walks a number of copies and joins their texts. -/
def copies (body : Walk (List Char)) : Nat → Walk (List Char)
  | 0 => pure []
  | count + 1 => do
    let first ← body
    let others ← copies body count
    pure (first ++ others)

/-- The largest number of copies: the pattern's own unless that leaves as many choices as the limit,
in which case as many as the limit allows. -/
def largest (limit : Value) (min : Nat) (max : Option Nat) : Walk Int := do
  let bound : Nat := max.getD 4294967295
  let choices : Int := (bound : Int) + 1 - min
  if ← Value.compares .greaterEqual (.int choices) limit then do
    let most ← limit.toIndex
    pure (min + most - 1)
  else pure bound

/-! ### Nodes -/

mutual

/-- Walks a node. -/
def node (limit : Value) : PatternNode → Walk (List Char)
  | .literal member => pure [member]
  | .notLiteral member =>
    draw (Twister.pick ((anyCharacters.erase member).map fun other => [other]))
  | .any => draw (Twister.pick (anyCharacters.map fun member => [member]))
  | .oneOf negated items => draw (Twister.pick (classTexts negated items))
  | .anchor _ => pure []
  | .branch alternatives => do
    let walk ← draw (Twister.pick (branches limit alternatives))
    walk
  | .group number body => do
    let text ← sequence limit body
    remember number text
    pure text
  | .backreference number => do
    match (← get).groups.lookup number with
    | some text => pure text
    | none => throw .missingKey
  | .look negative body =>
    if negative then pure []
    else do
      let text ← sequence limit body
      remember 1 text
      pure text
  | .repetition greed min max body => do
    match greed with
    | .possessive => pure []
    | _ =>
      let most ← largest limit min max
      let count ← draw (Twister.between min most)
      copies (sequence limit body) count.toNat
  | .never => pure []
  termination_by structural node => node

/-- Walks nodes one after another. -/
def sequence (limit : Value) : List PatternNode → Walk (List Char)
  | [] => pure []
  | first :: others => do
    let text ← node limit first
    let rest ← sequence limit others
    pure (text ++ rest)
  termination_by structural nodes => nodes

/-- The walks of alternatives. -/
def branches (limit : Value) : List (List PatternNode) → List (Walk (List Char))
  | [] => []
  | first :: others => sequence limit first :: branches limit others
  termination_by structural alternatives => alternatives

end

end PatternSample

/-- The fault of a walk, which never names an unknown kind. -/
def PatternSample.ordinary (fault : Fault) : OrdinaryFault :=
  if known : fault.isUnknownType = false then ⟨fault, known⟩ else ⟨.wrongType, rfl⟩

/-- Draws a text for a pattern. -/
def samplePattern (nodes : List PatternNode) (limit : Value) (seed : Nat) :
    Except OrdinaryFault String :=
  match ((PatternSample.sequence limit nodes).run ⟨.ofSeed seed, []⟩).1 with
  | .ok text => .ok (String.ofList text)
  | .error fault => .error (PatternSample.ordinary fault)

end Specimen
