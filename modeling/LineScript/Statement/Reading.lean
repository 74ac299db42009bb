import LineScript.Scanner

/-!
Reading a statement line: an optional `!`, an optional `#label`, the name of an operation, its two
quoted operands, and an optional `-> VAR "name"` or `-> CAP "name"`. The first thing that is wrong
is the fault.
-/

namespace LineScript.Statement

/-- How a line is read: whether text after the statement is a fault, and the operation the caller
asks for, if any. -/
structure Reading where
  strict : Bool := false
  expected : Option Operation := none

namespace Reading

def operation (reading : Reading) (name : Text) : Except Fault.Cause Operation :=
  match reading.expected, Operation.ofName? name with
  | none, some found => .ok found
  | none, none => .error (.unknownOperation name)
  | some expected, found =>
      if found = some expected then .ok expected else .error (.otherOperation expected name)

def destinationName (partition : Partition) : Scan (Option Destination) := do
  match ← Scan.token .literal with
  | some (character :: name) => return some ⟨partition, character :: name⟩
  | _ => Scan.fail .missingName

def destination : Scan (Option Destination) := do
  match ← Scan.token .arrow with
  | none => return none
  | some _ =>
      Scan.blanks
      let column ← Scan.column
      match ← Scan.token .word with
      | none => Scan.fail (.invalidPartition none)
      | some token =>
          match Partition.ofToken? token with
          | none => Scan.failAt column (.invalidPartition (some token))
          | some partition => destinationName partition

def name (reading : Reading) : Scan Operation := do
  Scan.blanks
  let column ← Scan.column
  let name ← Scan.required .word
  match reading.operation name with
  | .ok operation => return operation
  | .error cause => Scan.failAt column cause

def ending (reading : Reading) : Scan Unit := do
  if reading.strict then
    unless ← Scan.atEnd do
      Scan.blanks
      Scan.fail (.trailingText (← Scan.rest))

def statement (reading : Reading) : Scan Statement := do
  if ← Scan.atEnd then Scan.fail .emptyLine
  let disabled ← Scan.marker '!'
  Scan.blanks
  let label ← Scan.label
  let operation ← reading.name
  let first ← Scan.operand Slot.first.name
  let second ← Scan.operand Slot.second.name
  let destination ← destination
  reading.ending
  return {
    operation
    label := label.getD operation.defaultLabel
    operands := [first, second]
    destination
    disabled }

end Reading

/-- The statement on a line, blanks around it aside; columns count from its first character. -/
def read (reading : Reading) (line : Text) : Except Fault Statement :=
  (reading.statement.run (Scanner.start (Text.trim line))).1

end LineScript.Statement
