import LineScript.Failure
import LineScript.Statement.Reading
import LineScript.Text.Lines

namespace LineScript

structure Settings where
  strict : Bool := false
  indentWidth : Nat := 2
  skipDisabled : Bool := true
  haltOnFailure : Bool := true
  deriving DecidableEq, Repr

namespace Script

def isBlankLine (line : Text) : Bool := (Text.trim line).isEmpty

def isComment (line : Text) : Bool := "##".toList.isPrefixOf (Text.trim line)

def isPassive (line : Text) : Bool := isBlankLine line || isComment line

def readStatement (settings : Settings) (line : Text) : Except Failure Statement :=
  (Statement.read { strict := settings.strict } line).mapError .reading

end Script

end LineScript
