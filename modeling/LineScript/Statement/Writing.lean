import LineScript.Statement.Basic

namespace LineScript.Statement

def writeLiteral (text : Text) : Text := '"' :: text ++ ['"']

def writeLabel (statement : Statement) : Text :=
  if !statement.hasDefaultLabel && isLabel statement.label then
    '#' :: statement.label ++ [' ']
  else []

def writeDestination : Option Destination → Text
  | none => []
  | some ⟨partition, name⟩ =>
      " -> ".toList ++ partition.token ++ ' ' :: writeLiteral name

/-- The text after a margin of spaces; the marker for disabled statements stands as asked. -/
def writeAs (margin : Nat) (disabled : Bool) (statement : Statement) : Text :=
  List.replicate margin ' ' ++ (if disabled then ['!'] else []) ++ writeLabel statement ++
    statement.operation.name ++
    (statement.operands.flatMap fun operand => ' ' :: writeLiteral operand) ++
    writeDestination statement.destination

def write (statement : Statement) : Text := statement.writeAs 0 statement.disabled

end LineScript.Statement
