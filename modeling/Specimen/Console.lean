/-
**The console.**

What the program shows goes to a console, one `Printout` after another. The texts of a printout are
markup: a tag in square brackets opens a style, a tag that starts with a slash closes one. A JSON
value is shown as it is.

How a console reads markup is up to the platform. `Markup.isBalanced` is the rule by which a console
may refuse a text: a tag closes the latest style that is open under its name, or the latest of all
if it has no name, and there must be one.
-/

import Specimen.Json
import Specimen.Text.Blank
import Specimen.Text.Case

namespace Specimen

/-! ### Printouts -/

/-- What is shown at once. -/
inductive Printout where
  | line (text : String)
  /-- A text across the whole width. -/
  | rule (text : String)
  /-- A text in a frame, which may have a title. -/
  | panel (title : Option String) (text : String)
  | table (title : String) (columns : List String) (rows : List (List String))
  | json (data : Json)

namespace Printout

/-- The texts of a printout in which markup is read. -/
def markup : Printout → List String
  | .line text => [text]
  | .rule text => [text]
  | .panel title text => title.toList ++ [text]
  | .table title columns rows => title :: columns ++ rows.flatten
  | .json _ => []

end Printout

/-! ### Markup -/

namespace Markup

/-- Can the character come first in a tag? -/
def startsTag (member : Char) : Bool :=
  ('a' ≤ member && member ≤ 'z') || member == '#' || member == '/' || member == '@'

/-- The tag that is open at the start of a text, if it is closed before another bracket opens. -/
def tagAt? : List Char → Option (List Char)
  | [] => none
  | first :: rest =>
    let body := rest.takeWhile fun member => member != ']' && member != '['
    if startsTag first && (rest.drop body.length).head? == some ']' then some (first :: body)
    else none

/-- The tags of a text. A tag after an odd number of backslashes is escaped. The next `skipped`
characters belong to a tag that was found already. -/
def tagsAfter (slashes skipped : Nat) : List Char → List (List Char)
  | [] => []
  | member :: rest =>
    if 0 < skipped then tagsAfter 0 (skipped - 1) rest
    else if member == '\\' then tagsAfter (slashes + 1) 0 rest
    else if member == '[' then
      match tagAt? rest with
      | some tag =>
        let others := tagsAfter 0 (tag.length + 1) rest
        if slashes % 2 = 1 then others else tag :: others
      | none => tagsAfter 0 0 rest
    else tagsAfter 0 0 rest

/-- The name of the style of a tag, in lower case; what follows an equals sign is no part of it. -/
def styleName (tag : List Char) : String :=
  lowerCase (String.ofList (trimBlank (tag.takeWhile (· != '='))))

/-- Has every closing tag a style to close, given the styles that are open, the latest first? -/
def closesStyles (opened : List String) : List (List Char) → Bool
  | [] => true
  | ('/' :: closing) :: tags =>
    let name := styleName closing
    if name.isEmpty then !opened.isEmpty && closesStyles (opened.drop 1) tags
    else opened.contains name && closesStyles (opened.erase name) tags
  | tag :: tags => closesStyles (styleName tag :: opened) tags

/-- Has every closing tag of a text a style to close? -/
def isBalanced (text : String) : Bool := closesStyles [] (tagsAfter 0 0 text.toList)

end Markup

end Specimen
