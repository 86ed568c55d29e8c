/-
**Reading patterns.**

`readPattern` reads the text of a pattern or says why it has no valid form. Three simplifications
are made while reading, and sampling depends on them: a bracketed class of one character becomes
that character, what all alternatives start with is moved in front of them, and alternatives of one
character each become a class.
-/

import Specimen.Fault
import Specimen.Json.Reader
import Specimen.Pattern

namespace Specimen

namespace PatternReader

/-! ### State -/

/-- The text that is left, the number of the next group, and the groups that are closed. -/
structure State where
  rest : List Char
  nextGroup : Nat
  closed : List Nat

/-- Reading takes text from the front and may fail. -/
abbrev Reading := StateT State (Except Fault)

/-- A pattern without a valid form. -/
def malformed {α : Type} : Reading α := throw .malformedPattern

/-- The text that is left. -/
def rest : Reading (List Char) := do pure (← get).rest

/-- Continues with another text. -/
def setRest (text : List Char) : Reading Unit := modify fun state => { state with rest := text }

/-- Takes a character if it comes next. -/
def accept (member : Char) : Reading Bool := do
  match ← rest with
  | first :: tail =>
    if first == member then do
      setRest tail
      pure true
    else pure false
  | [] => pure false

/-- Takes the characters at the front that satisfy a condition, at most `limit` of them. -/
def takeUpTo (limit : Nat) (condition : Char → Bool) : Reading (List Char) := do
  let text ← rest
  let taken := (text.take limit).takeWhile condition
  setRest (text.drop taken.length)
  pure taken

/-! ### Escapes -/

/-- The value of a digit string in a base. -/
def numeral (base : Nat) (digits : List Char) : Nat :=
  digits.foldl (fun total digit => total * base + (Json.hexDigit? digit).getD 0) 0

/-- Is this an octal digit? -/
def isOctal (member : Char) : Bool := '0' ≤ member && member ≤ '7'

/-- The character that a letter stands for after a backslash, inside and outside of classes. -/
def controlEscape? : Char → Option Char
  | 'a' => some (Char.ofNat 7)
  | 'f' => some (Char.ofNat 12)
  | 'n' => some '\n'
  | 'r' => some '\r'
  | 't' => some '\t'
  | 'v' => some (Char.ofNat 11)
  | '\\' => some '\\'
  | _ => none

/-- The category that a letter stands for after a backslash. -/
def categoryEscape? : Char → Option Category
  | 'd' => some .digit
  | 'D' => some .notDigit
  | 's' => some .space
  | 'S' => some .notSpace
  | 'w' => some .word
  | 'W' => some .notWord
  | _ => none

/-- The anchor that a letter stands for after a backslash. -/
def anchorEscape? : Char → Option Anchor
  | 'A' => some .start
  | 'Z' => some .textEnd
  | 'b' => some .wordEdge
  | 'B' => some .notWordEdge
  | _ => none

/-- Reads the digits of a hexadecimal escape of exactly `count` digits. -/
def hexEscape (count : Nat) : Reading Char := do
  let digits ← takeUpTo count fun member => (Json.hexDigit? member).isSome
  let code := numeral 16 digits
  if digits.length = count ∧ code < 0x110000 then pure (Char.ofNat code) else malformed

/-- Reads the rest of an escape that stands for a character by its code or by itself. -/
def characterEscape (mark : Char) : Reading Char :=
  match mark with
  | 'x' => hexEscape 2
  | 'u' => hexEscape 4
  | 'U' => hexEscape 8
  | _ => if mark.isAlpha then malformed else pure mark

/-- The character of an octal escape. -/
def octalEscape (digits : List Char) : Reading Char :=
  let code := numeral 8 digits
  if code ≤ 0o377 then pure (Char.ofNat code) else malformed

/-- Reads the rest of a reference to the group of a number. -/
def groupReference (number : Nat) : Reading PatternNode := do
  let state ← get
  if number < state.nextGroup && state.closed.contains number then pure (.backreference number)
  else malformed

/-- Reads the rest of an escape outside of classes. -/
def escape (mark : Char) : Reading PatternNode := do
  if let some anchor := anchorEscape? mark then pure (.anchor anchor)
  else if let some category := categoryEscape? mark then pure (.oneOf false [.category category])
  else if let some member := controlEscape? mark then pure (.literal member)
  else if mark == '0' then do
    let more ← takeUpTo 2 isOctal
    pure (.literal (← octalEscape (mark :: more)))
  else if mark.isDigit then do
    match ← takeUpTo 1 Char.isDigit with
    | [second] =>
      let third ← if isOctal mark && isOctal second then takeUpTo 1 isOctal else pure []
      if third.isEmpty then groupReference (numeral 10 [mark, second])
      else pure (.literal (← octalEscape (mark :: second :: third)))
    | _ => groupReference (numeral 10 [mark])
  else pure (.literal (← characterEscape mark))

/-- Reads the rest of an escape inside of a class. -/
def classEscape (mark : Char) : Reading ClassItem := do
  if mark == 'b' then pure (.single (Char.ofNat 8))
  else if let some member := controlEscape? mark then pure (.single member)
  else if let some category := categoryEscape? mark then pure (.category category)
  else if isOctal mark then do
    let more ← takeUpTo 2 isOctal
    pure (.single (← octalEscape (mark :: more)))
  else if mark.isDigit then malformed
  else pure (.single (← characterEscape mark))

/-! ### Classes -/

/-- Reads one item of a class that starts with the given character. -/
def classAtom (first : Char) : Reading ClassItem := do
  if first == '\\' then
    match ← rest with
    | mark :: tail =>
      setRest tail
      classEscape mark
    | [] => malformed
  else pure (.single first)

/-- The range between two items, which must be single characters in order. -/
def classRange (first last : ClassItem) : Reading ClassItem :=
  match first, last with
  | .single low, .single high => if low ≤ high then pure (.range low high) else malformed
  | _, _ => malformed

/-- Reads the items of a class up to its closing bracket, after those found already; `fuel` bounds
their number. -/
def classItems : Nat → List ClassItem → Reading (List ClassItem)
  | 0, _ => malformed
  | fuel + 1, found => do
    match ← rest with
    | [] => malformed
    | first :: tail =>
      setRest tail
      if first == ']' && !found.isEmpty then pure found
      else do
        let item ← classAtom first
        if ← accept '-' then
          match ← rest with
          | [] => malformed
          | ']' :: tail =>
            setRest tail
            pure (found ++ [item, .single '-'])
          | second :: tail =>
            setRest tail
            let last ← classAtom second
            let range ← classRange item last
            classItems fuel (found ++ [range])
        else classItems fuel (found ++ [item])

/-- The items without those that came before. -/
def distinctItems (items : List ClassItem) : List ClassItem := items.eraseDups

/-- The node of a class: a class of one character is that character. -/
def classNode (negated : Bool) (items : List ClassItem) : PatternNode :=
  match distinctItems items with
  | [.single member] => if negated then .notLiteral member else .literal member
  | distinct => .oneOf negated distinct

/-- Reads a class after its opening bracket. -/
def readClass : Reading PatternNode := do
  let negated ← accept '^'
  let items ← classItems ((← rest).length + 1) []
  pure (classNode negated items)

/-! ### Repetitions -/

/-- Repetition counts stay below this bound, which also stands for no bound. -/
def countBound : Nat := 4294967295

/-- Reads the counts of a repetition in braces after the opening brace. Gives nothing, and takes
nothing, if the text is no such counts. -/
def braces : Reading (Option (Nat × Option Nat)) := do
  let start ← rest
  let low ← takeUpTo start.length Char.isDigit
  let comma ← accept ','
  let high ← if comma then takeUpTo start.length Char.isDigit else pure low
  if ← accept '}' then do
    let min := numeral 10 low
    let max := if high.isEmpty then none else some (numeral 10 high)
    if countBound ≤ min ∨ countBound ≤ max.getD 0 then throw .overflow
    else if max.any (· < min) then malformed
    else pure (some (min, max))
  else do
    setRest start
    pure none

/-- Reads how a repetition chooses its copies. -/
def readGreed : Reading Greed := do
  if ← accept '?' then pure .lazy
  else if ← accept '+' then pure .possessive
  else pure .greedy

/-! ### Sequences -/

/-- A part of a sequence: a node, or the content of a group without a number. -/
inductive Piece where
  | single (node : PatternNode)
  | plain (body : List PatternNode)

/-- The nodes of a piece. -/
def Piece.nodes : Piece → List PatternNode
  | .single node => [node]
  | .plain body => body

/-- The nodes of pieces that were collected last first. -/
def nodesOf (pieces : List Piece) : List PatternNode := pieces.reverse.flatMap Piece.nodes

/-- Repeats the last piece, which must be there and be neither an anchor nor a repetition. -/
def repeatLast (min : Nat) (max : Option Nat) (pieces : List Piece) : Reading (List Piece) := do
  match pieces with
  | [] => malformed
  | last :: earlier =>
    let repeatable := match last with
      | .single node => !node.isAnchor && !node.isRepetition
      | .plain _ => true
    if repeatable then do
      let greed ← readGreed
      pure (.single (.repetition greed min max last.nodes) :: earlier)
    else malformed

/-- The first nodes of all sequences, if they are there and are equal leaves. -/
def commonFirst? (sequences : List (List PatternNode)) : Option PatternNode :=
  match sequences with
  | (first :: _) :: others =>
    if others.all fun sequence => sequence.head?.any (first.sameLeaf ·) then some first else none
  | _ => none

/-- Moves what all sequences start with to the front; `fuel` bounds its length. -/
def factor : Nat → List (List PatternNode) → List PatternNode × List (List PatternNode)
  | 0, sequences => ([], sequences)
  | fuel + 1, sequences =>
    match commonFirst? sequences with
    | some first =>
      let (front, rest) := factor fuel (sequences.map List.tail)
      (first :: front, rest)
    | none => ([], sequences)

/-- The class items of a sequence that is one character or one class. -/
def classItemsOf? : List PatternNode → Option (List ClassItem)
  | [.literal member] => some [.single member]
  | [.oneOf false items] => some items
  | _ => none

/-- The nodes of alternatives. -/
def joinAlternatives (sequences : List (List PatternNode)) : List PatternNode :=
  match sequences with
  | [single] => single
  | _ =>
    let (front, rest) := factor ((sequences.map List.length).foldr (· + ·) 1) sequences
    match rest.mapM classItemsOf? with
    | some items => front ++ [.oneOf false (distinctItems items.flatten)]
    | none => front ++ [.branch rest]

/-- Takes a closing parenthesis, which must be there. -/
def closing : Reading Unit := do
  if ← accept ')' then pure () else malformed

/-- Passes over a comment up to its closing parenthesis. -/
def comment : Reading Unit := do
  match (← rest).dropWhile (· != ')') with
  | _ :: tail => setRest tail
  | [] => malformed

mutual

/-- Reads alternatives up to a closing parenthesis or the end; `fuel` bounds the reading. -/
def alternatives : Nat → Reading (List PatternNode)
  | 0 => malformed
  | fuel + 1 => do
    let first ← sequence fuel []
    let others ← moreAlternatives fuel
    pure (joinAlternatives (first :: others))

/-- Reads the alternatives after the first one. -/
def moreAlternatives : Nat → Reading (List (List PatternNode))
  | 0 => malformed
  | fuel + 1 => do
    if ← accept '|' then do
      let first ← sequence fuel []
      let others ← moreAlternatives fuel
      pure (first :: others)
    else pure []

/-- Reads a sequence after the pieces found already, the last one first. -/
def sequence : Nat → List Piece → Reading (List PatternNode)
  | 0, _ => malformed
  | fuel + 1, pieces => do
    let text ← rest
    match text with
    | [] => pure (nodesOf pieces)
    | '|' :: _ => pure (nodesOf pieces)
    | ')' :: _ => pure (nodesOf pieces)
    | '\\' :: [] => malformed
    | '\\' :: mark :: tail =>
      setRest tail
      let node ← escape mark
      sequence fuel (.single node :: pieces)
    | '[' :: tail =>
      setRest tail
      let node ← readClass
      sequence fuel (.single node :: pieces)
    | '?' :: tail =>
      setRest tail
      sequence fuel (← repeatLast 0 (some 1) pieces)
    | '*' :: tail =>
      setRest tail
      sequence fuel (← repeatLast 0 none pieces)
    | '+' :: tail =>
      setRest tail
      sequence fuel (← repeatLast 1 none pieces)
    | '\x7b' :: tail =>
      setRest tail
      if tail.head? == some '\x7d' then sequence fuel (.single (.literal '\x7b') :: pieces)
      else
        match ← braces with
        | some (min, max) => sequence fuel (← repeatLast min max pieces)
        | none => sequence fuel (.single (.literal '\x7b') :: pieces)
    | '.' :: tail =>
      setRest tail
      sequence fuel (.single .any :: pieces)
    | '^' :: tail =>
      setRest tail
      sequence fuel (.single (.anchor .start) :: pieces)
    | '$' :: tail =>
      setRest tail
      sequence fuel (.single (.anchor .stop) :: pieces)
    | '(' :: tail =>
      setRest tail
      match ← group fuel with
      | some piece => sequence fuel (piece :: pieces)
      | none => sequence fuel pieces
    | member :: tail =>
      setRest tail
      sequence fuel (.single (.literal member) :: pieces)

/-- Reads a group after its opening parenthesis; a comment gives nothing. -/
def group : Nat → Reading (Option Piece)
  | 0 => malformed
  | fuel + 1 => do
    match ← rest with
    | '?' :: ':' :: tail =>
      setRest tail
      let body ← alternatives fuel
      closing
      pure (some (.plain body))
    | '?' :: '#' :: tail =>
      setRest tail
      comment
      pure none
    | '?' :: '=' :: tail =>
      setRest tail
      let body ← alternatives fuel
      closing
      pure (some (.single (.look false body)))
    | '?' :: '!' :: tail =>
      setRest tail
      let body ← alternatives fuel
      closing
      pure (some (.single (if body.isEmpty then .never else .look true body)))
    | '?' :: _ => malformed
    | _ =>
      let number := (← get).nextGroup
      modify fun state => { state with nextGroup := number + 1 }
      let body ← alternatives fuel
      closing
      modify fun state => { state with closed := number :: state.closed }
      pure (some (.single (.group number body)))

end

end PatternReader

/-- Reads a pattern. -/
def readPattern (source : String) : Except Fault (List PatternNode) := do
  let chars := source.toList
  let (nodes, state) ← (PatternReader.alternatives (4 * chars.length + 8)).run ⟨chars, 1, []⟩
  if state.rest.isEmpty then pure nodes else throw .malformedPattern

end Specimen
