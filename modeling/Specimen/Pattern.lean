/-
**Patterns.**

A pattern is a sequence of nodes: characters, classes of characters, anchors, alternatives, numbered
groups and references to them, look-ahead, and repetitions. Groups without a number leave no node of
their own; their content is part of the sequence around them.
-/

namespace Specimen

/-- A named class of characters or its complement. -/
inductive Category where
  | digit
  | notDigit
  | space
  | notSpace
  | word
  | notWord
  deriving DecidableEq

/-- One item of a bracketed class. -/
inductive ClassItem where
  | single (member : Char)
  | range (first last : Char)
  | category (category : Category)
  deriving DecidableEq

/-- A condition on a place in a text. -/
inductive Anchor where
  /-- The start of the text. -/
  | start
  /-- The end of the text, or the place before a line break that ends it. -/
  | stop
  /-- The end of the text. -/
  | textEnd
  /-- A place between a word character and another. -/
  | wordEdge
  /-- A place that is no word edge, in a text that is not empty. -/
  | notWordEdge
  deriving DecidableEq

/-- Which copies a repetition tries first, and whether it ever gives copies back. -/
inductive Greed where
  | greedy
  | lazy
  | possessive
  deriving DecidableEq

/-- A node of a pattern. -/
inductive PatternNode where
  | literal (member : Char)
  | notLiteral (member : Char)
  /-- Any character but a line break. -/
  | any
  | oneOf (negated : Bool) (items : List ClassItem)
  | anchor (anchor : Anchor)
  | branch (alternatives : List (List PatternNode))
  | group (number : Nat) (body : List PatternNode)
  | backreference (number : Nat)
  | look (negative : Bool) (body : List PatternNode)
  /-- Between `min` and `max` copies; no `max` means no bound. -/
  | repetition (greed : Greed) (min : Nat) (max : Option Nat) (body : List PatternNode)
  /-- Matches nowhere. -/
  | never

instance : Inhabited PatternNode := ⟨.never⟩

namespace PatternNode

/-- Are two nodes equal leaves? -/
def sameLeaf : PatternNode → PatternNode → Bool
  | .literal first, .literal second => first == second
  | .notLiteral first, .notLiteral second => first == second
  | .any, .any => true
  | .oneOf first items, .oneOf second others => first == second && items == others
  | .anchor first, .anchor second => first == second
  | .backreference first, .backreference second => first == second
  | .never, .never => true
  | _, _ => false

/-- Is this a repetition? -/
def isRepetition : PatternNode → Bool
  | .repetition _ _ _ _ => true
  | _ => false

/-- Is this an anchor at an end of the text or at a word edge? -/
def isAnchor : PatternNode → Bool
  | .anchor _ => true
  | _ => false

end PatternNode

end Specimen
