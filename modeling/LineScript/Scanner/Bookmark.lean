import LineScript.Scanner
import LineScript.Text.Position

/-!
A bookmark is a place in a source, kept as the number of bytes before it. It moves by the lengths of
what it passes, and the source is cut wherever a text is asked for. A move that would cut inside a
character, or beyond the end, comes to nothing at all.
-/

namespace LineScript

structure Bookmark where
  source : Text
  position : Nat
  deriving DecidableEq, Repr

namespace Bookmark

def start (source : Text) : Bookmark := ⟨source, 0⟩

def consumed? (mark : Bookmark) : Option Text :=
  (Text.cutAt? mark.position mark.source).map Prod.fst

def rest? (mark : Bookmark) : Option Text :=
  (Text.cutAt? mark.position mark.source).map Prod.snd

/-- The column of the next character, counted from one. -/
def column? (mark : Bookmark) : Option Nat := mark.consumed?.map fun consumed => consumed.length + 1

def advance (mark : Bookmark) (size : Nat) : Bookmark :=
  { mark with position := mark.position + size }

end Bookmark

abbrev Move (α : Type) := ExceptT Fault (StateT Bookmark Option) α

namespace Move

def ask (question : Bookmark → Option α) : Move α := do question (← get)

def rest : Move Text := ask Bookmark.rest?

def column : Move Nat := ask Bookmark.column?

def advance (size : Nat) : Move Unit := modify (·.advance size)

/-- The text before a position in another. -/
def upTo (position : Nat) (text : Text) : Move Text :=
  ((Text.cutAt? position text).map Prod.fst : Option Text)

def fail (cause : Fault.Cause) : Move α := do
  throw ⟨cause, ← column⟩

def blanks : Move Unit := do
  let rest ← rest
  advance (Text.utf8Length rest - Text.utf8Length (Text.trimStart rest))

def marker (marker : Char) : Move Bool := do
  blanks
  if (← rest).head? = some marker then
    advance marker.utf8Size
    return true
  else
    return false

def label : Move (Option Text) := do
  match ← rest with
  | '#' :: after =>
      let size := Text.positionOrEnd Text.isBlank after
      if size = 0 then
        fail .missingLabel
      else
        let label ← upTo size after
        if isLabel label then
          advance ('#'.utf8Size + size)
          return some label
        else
          fail (.invalidLabel label)
  | _ => return none

def arrow : Text := ['-', '>']

def arrowHere : Move (Option Text) := do
  let rest ← rest
  if arrow.isPrefixOf rest then
    advance (Text.utf8Length arrow)
    return some (← upTo (Text.utf8Length arrow) rest)
  else
    return none

def wordHere : Move (Option Text) := do
  let rest ← rest
  let size := Text.positionOrEnd (fun character => Text.isBlank character || character == '"') rest
  if size = 0 then
    return none
  else
    advance size
    return some (← upTo size rest)

def literalHere : Move (Option Text) := do
  match ← rest with
  | '"' :: body =>
      match Text.positionOf? (· == '"') body with
      | some size =>
          advance (2 * '"'.utf8Size + size)
          return some (← upTo size body)
      | none => fail .unterminatedLiteral
  | _ => return none

def token (sort : Scan.Token) (required : Bool) : Move (Option Text) := do
  blanks
  let found ← match sort with
    | .arrow => arrowHere
    | .word => wordHere
    | .literal => literalHere
  if required && found.isNone then
    fail sort.missing
  else
    return found

def operand (field : Text) : Move Text := do
  -- The fault of a literal that is not there is renamed and keeps its column.
  let found ← (token .literal true).adapt fun fault =>
    if fault.cause = .missingLiteral then { fault with cause := .missingOperand field } else fault
  match found with
  | some text => return text
  | none => fail (.missingOperand field)

end Move

end LineScript
