/-
**Issues.**

An issue says where a value departs from its schema and how. The place is a path of names and
positions from the root of the value.
-/

namespace Specimen

/-- One step of a path into a value. -/
inductive Step where
  | name (value : String)
  | position (value : Int)
  deriving DecidableEq

/-- The text of a step. -/
def Step.text : Step → String
  | .name value => value
  | .position value => toString value

/-- A path from the root of a value. -/
abbrev Path := List Step

/-- A departure of a value from its schema. -/
structure Issue where
  path : Path
  message : String
  deriving DecidableEq

namespace Issue

/-- The steps of a path joined by dots; the root has a name of its own. -/
def location (path : Path) : String :=
  let joined := ".".intercalate (path.map Step.text)
  if joined = "" then "<root>" else joined

/-- The text of an issue: its place and its message. -/
def text (issue : Issue) : String := location issue.path ++ ": " ++ issue.message

/-- The texts of several issues. -/
def joined (issues : List Issue) : String := "; ".intercalate (issues.map text)

end Issue

end Specimen
