import LineScript.Statement.Basic
import LineScript.Text.Quoted

namespace LineScript

inductive Fault.Cause where
  | emptyLine
  | missingLabel
  | invalidLabel (label : Text)
  | missingOperand (field : Text)
  | unterminatedLiteral
  | missingArrow
  | missingWord
  | missingLiteral
  | invalidPartition (token : Option Text)
  | missingName
  | unknownOperation (name : Text)
  | otherOperation (expected : Operation) (found : Text)
  | trailingText (rest : Text)
  deriving DecidableEq, Repr

/-- Columns count characters, from one. -/
structure Fault where
  cause : Fault.Cause
  column : Nat
  deriving DecidableEq, Repr

namespace Fault

def Cause.message : Cause → Text
  | emptyLine => "empty statement line".toList
  | missingLabel => "label marker is not followed by a name".toList
  | invalidLabel label => "invalid label: ".toList ++ Text.quoted label
  | missingOperand field => "missing ".toList ++ field ++ " operand".toList
  | unterminatedLiteral => "unterminated literal".toList
  | missingArrow => "expected `->`".toList
  | missingWord => "expected a parameter".toList
  | missingLiteral => "expected a quoted literal".toList
  | invalidPartition none => "invalid output kind".toList
  | invalidPartition (some token) => "invalid output kind: ".toList ++ token
  | missingName => "missing output variable name".toList
  | unknownOperation name => "unknown statement: ".toList ++ name
  | otherOperation expected found =>
      "expected ".toList ++ expected.name ++ " statement, found ".toList ++ found
  | trailingText rest => "unexpected trailing content: ".toList ++ rest

def message (fault : Fault) : Text :=
  fault.cause.message ++ " (column ".toList ++ Numeral.ofNat fault.column ++ ")".toList

end Fault

end LineScript
