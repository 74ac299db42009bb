import LineScript.Word

namespace LineScript

inductive Slot where
  | first
  | second
  deriving DecidableEq, Repr

namespace Slot

def all : List Slot := [first, second]

def name : Slot → Text
  | first => "First".toList
  | second => "Second".toList

end Slot

inductive Operation where
  | sum
  | subtract
  | multiply
  deriving DecidableEq, Repr

namespace Operation

def all : List Operation := [sum, subtract, multiply]

def arity : Nat := Slot.all.length

def name : Operation → Text
  | sum => "SUM".toList
  | subtract => "SUBTRACT".toList
  | multiply => "MULTIPLY".toList

/-- The label of a statement that is written without one. -/
def defaultLabel : Operation → Text
  | sum => "Sum".toList
  | subtract => "Subtract".toList
  | multiply => "Multiply".toList

def symbol : Operation → Text
  | sum => "+".toList
  | subtract => "-".toList
  | multiply => "*".toList

def ofName? (name : Text) : Option Operation :=
  all.find? fun operation => Text.sameLetters operation.name name

def compute : Operation → Int → Int → Int
  | sum, left, right => left + right
  | subtract, left, right => left - right
  | multiply, left, right => left * right

/-- The exact result, where it is a word. -/
def result? (operation : Operation) (left right : Word) : Option Word :=
  Word.ofInt? (operation.compute left.toInt right.toInt)

@[simp] theorem ofName?_name (operation : Operation) : ofName? operation.name = some operation := by
  cases operation <;> decide

end Operation

end LineScript
