/-
**Draws of integers and choices.**

The draws that take their bounds from the caller: an integer of a range, and a member of a list. A
range or list that is empty has nothing to draw and draws nothing.
-/

import Specimen.Fault
import Specimen.Random.Twister

namespace Specimen

namespace Twister

/-- Draws an integer between two bounds, both included. -/
def between (low high : Int) (twister : Twister) : Except Fault Int × Twister :=
  if low ≤ high then
    let (drawn, twister) := twister.below (high - low + 1).toNat
    (.ok (low + drawn), twister)
  else (.error .outOfDomain, twister)

/-- Draws a member of a list. -/
def pick {α : Type} (members : List α) (twister : Twister) : Except Fault α × Twister :=
  if members.isEmpty then (.error .noSuchPosition, twister)
  else
    let (drawn, twister) := twister.below members.length
    match members[drawn]? with
    | some member => (.ok member, twister)
    | none => (.error .noSuchPosition, twister)

end Twister

end Specimen
