import LineScript.Word

namespace LineScript

inductive Value where
  | text (content : Text)
  | list (items : List Text)
  deriving DecidableEq, Repr

namespace Value

def text? : Value → Option Text
  | text content => some content
  | list _ => none

def list? : Value → Option (List Text)
  | text _ => none
  | list items => some items

def display : Value → Text
  | text content => content
  | list items => "[".toList ++ Text.join ", ".toList items ++ "]".toList

/-- The element at an index; a negative index counts from the end. -/
def element? (value : Value) (index : Int) : Option Text :=
  match value with
  | text _ => none
  | list items =>
      let place := if index < 0 then items.length + index else index
      if place < 0 then none else items[place.toNat]?

end Value

end LineScript
