/-
**Matching patterns.**

`patternOccurs` decides whether a pattern matches somewhere in a text. A node is matched by
continuation: it is given the place it starts at and what has to match after it, and tries its
choices in order until one lets the rest succeed.
-/

import Specimen.Pattern
import Specimen.Text.Blank
import Specimen.Text.Word

namespace Specimen

namespace PatternMatch

/-- A place in a text: the character before it, the text after it, and the texts of the groups
matched so far, the latest first. -/
structure Place where
  previous : Option Char
  rest : List Char
  groups : List (Nat × List Char)

/-- What has to match after a node. -/
abbrev Continuation := Place → Option Place

/-- How a node matches. -/
abbrev Matching := Place → Continuation → Option Place

/-- Does a character belong to a category? -/
def inCategory (category : Category) (member : Char) : Bool :=
  match category with
  | .digit => isDecimalDigit member
  | .notDigit => !isDecimalDigit member
  | .space => isBlank member
  | .notSpace => !isBlank member
  | .word => isWordCharacter member
  | .notWord => !isWordCharacter member

/-- Does a character belong to an item of a class? -/
def inItem (member : Char) : ClassItem → Bool
  | .single other => member == other
  | .range first last => first ≤ member && member ≤ last
  | .category category => inCategory category member

/-- Matches one character that satisfies a condition. -/
def character (condition : Char → Bool) : Matching := fun place andThen =>
  match place.rest with
  | member :: rest =>
    if condition member then andThen { place with previous := some member, rest := rest } else none
  | [] => none

/-- Is the place between a word character and another, or at such an end? -/
def atWordEdge (place : Place) : Bool :=
  place.previous.any isWordCharacter != place.rest.head?.any isWordCharacter

/-- Does an anchor hold at a place? -/
def anchored (place : Place) : Anchor → Bool
  | .start => place.previous.isNone
  | .stop => place.rest.isEmpty || place.rest == ['\n']
  | .textEnd => place.rest.isEmpty
  | .wordEdge => atWordEdge place
  | .notWordEdge => !atWordEdge place && !(place.previous.isNone && place.rest.isEmpty)

/-- Matches a text as it is. -/
def literalText : List Char → Matching
  | [], place, andThen => andThen place
  | member :: rest, place, andThen =>
    character (· == member) place fun next => literalText rest next andThen

/-- The text between a place and a later one. -/
def textBetween (first last : Place) : List Char :=
  first.rest.take (first.rest.length - last.rest.length)

/-- Tries to match the copies of a repetition. There are `min` copies at least and `max` more at
most; once the least number is reached, a copy that took no text is the last one. `fuel` bounds the
number of copies. -/
def copies (body : Matching) (greedy : Bool) (max : Option Nat) :
    Nat → Nat → Nat → Option Nat → Matching
  | 0, _, _, _ => fun _ _ => none
  | fuel + 1, min, count, last => fun place andThen =>
    let more (_ : Unit) : Option Place :=
      body place fun next =>
        copies body greedy max fuel min (count + 1) (some place.rest.length) next andThen
    if count < min then more ()
    else
      let allowed := max.all (count < ·) && last != some place.rest.length
      if !allowed then andThen place
      else if greedy then (more ()).orElse fun _ => andThen place
      else (andThen place).orElse fun _ => more ()

mutual

/-- Matches a node. -/
def node : PatternNode → Matching
  | .literal member => character (· == member)
  | .notLiteral member => character (· != member)
  | .any => character (· != '\n')
  | .oneOf negated items => character fun member => items.any (inItem member) != negated
  | .anchor anchor => fun place andThen => if anchored place anchor then andThen place else none
  | .branch alternatives => branch alternatives
  | .group number body => fun place andThen =>
    sequence body place fun next =>
      andThen { next with groups := (number, textBetween place next) :: next.groups }
  | .backreference number => fun place andThen =>
    match place.groups.lookup number with
    | some text => literalText text place andThen
    | none => none
  | .look negative body => fun place andThen =>
    match sequence body place some with
    | some found => if negative then none else andThen { place with groups := found.groups }
    | none => if negative then andThen place else none
  | .repetition greed min max body => fun place andThen =>
    let fuel := place.rest.length + min + 2
    let found := copies (sequence body) (greed != .lazy) max fuel min 0 none place
    match greed with
    | .possessive => (found some).bind andThen
    | _ => found andThen
  | .never => fun _ _ => none
  termination_by structural node => node

/-- Matches nodes one after another. -/
def sequence : List PatternNode → Matching
  | [] => fun place andThen => andThen place
  | first :: others => fun place andThen =>
    node first place fun next => sequence others next andThen
  termination_by structural nodes => nodes

/-- Matches the first alternative that lets the rest succeed. -/
def branch : List (List PatternNode) → Matching
  | [] => fun _ _ => none
  | first :: others => fun place andThen =>
    (sequence first place andThen).orElse fun _ => branch others place andThen
  termination_by structural alternatives => alternatives

end

/-- Does a pattern match at the start of some end of a text? -/
def somewhere (nodes : List PatternNode) (previous : Option Char) : List Char → Bool
  | [] => (sequence nodes ⟨previous, [], []⟩ some).isSome
  | member :: rest =>
    (sequence nodes ⟨previous, member :: rest, []⟩ some).isSome ||
      somewhere nodes (some member) rest

end PatternMatch

/-- Does a pattern match somewhere in a text? -/
def patternOccurs (nodes : List PatternNode) (text : String) : Bool :=
  PatternMatch.somewhere nodes none text.toList

end Specimen
