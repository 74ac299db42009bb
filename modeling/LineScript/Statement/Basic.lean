import LineScript.Operation

namespace LineScript

/-- The two kinds of binding a store keeps apart. -/
inductive Partition where
  | ordinary
  | capture
  deriving DecidableEq, Repr

namespace Partition

def token : Partition → Text
  | ordinary => "VAR".toList
  | capture => "CAP".toList

def all : List Partition := [ordinary, capture]

def ofToken? (token : Text) : Option Partition :=
  all.find? fun partition => Text.sameLetters partition.token token

@[simp] theorem ofToken?_token (partition : Partition) :
    ofToken? partition.token = some partition := by
  cases partition <;> decide

end Partition

structure Destination where
  partition : Partition
  name : Text
  deriving DecidableEq, Repr

structure Statement where
  operation : Operation
  label : Text
  operands : List Text
  destination : Option Destination
  disabled : Bool
  deriving DecidableEq, Repr

/-- A label that is found again when it is written after its marker. -/
def isLabel (text : Text) : Bool :=
  !text.isEmpty && text.head? != some '#' && !text.any Text.isBlank

theorem isLabel_iff {text : Text} :
    isLabel text = true ↔
      text ≠ [] ∧ text.head? ≠ some '#' ∧ ∀ character ∈ text, Text.isBlank character = false := by
  simp [isLabel, and_assoc]

namespace Statement

/-- An enabled statement under the default label that binds nothing. -/
def plain (operation : Operation) (first second : Text) : Statement where
  operation
  label := operation.defaultLabel
  operands := [first, second]
  destination := none
  disabled := false

def hasDefaultLabel (statement : Statement) : Bool :=
  statement.label == statement.operation.defaultLabel

/-- The statement under another label, unless the label would be lost in writing. -/
def relabel? (statement : Statement) (label : Text) : Option Statement :=
  if isLabel label then some { statement with label } else none

def operand? (statement : Statement) (field : Text) : Option Text :=
  (Slot.all.zip statement.operands).findSome? fun (slot, operand) =>
    if slot.name = field then some operand else none

end Statement

end LineScript
