import LineScript.Word

/-!
What stands between the brackets of a reference: a name, or a name with the index of a list element
in square brackets. The closing square bracket must be the last character of the body, blanks
included; blanks around the name and around the index do not matter.
-/

namespace LineScript

inductive Reference where
  | whole (name : Text)
  | element (name : Text) (index : Int)
  deriving DecidableEq, Repr

namespace Reference

def read? (body : Text) : Option Reference :=
  if body.getLast? = some ']' then
    (Text.cut '[' body.dropLast).bind fun (name, index) =>
      (Word.read? (Text.trim index)).map fun word => .element (Text.trim name) word.toInt
  else some (.whole (Text.trim body))

end Reference

end LineScript
