import LineScript.Evaluation

namespace LineScript

inductive FileFault where
  | missing
  | directory
  | notDirectory
  | notText
  | other (reason : Text)
  deriving DecidableEq, Repr

def FileFault.message : FileFault → Text
  | missing => "No such file or directory (os error 2)".toList
  | directory => "Is a directory (os error 21)".toList
  | notDirectory => "Not a directory (os error 20)".toList
  | notText => "stream did not contain valid UTF-8".toList
  | other reason => reason

inductive Failure where
  | reading (fault : Fault)
  | evaluation (fault : EvaluationFault)
  | atLine (line : Nat) (failure : Failure)
  | file (fault : FileFault)
  | snapshot (reason : Text)
  | editor (reason : Text)
  /-- A backspace would cut a character of the line. -/
  | brokenLine
  deriving DecidableEq

namespace Failure

def message : Failure → Text
  | reading fault => "parse error: ".toList ++ fault.message
  | evaluation fault => "execution error: ".toList ++ fault.message
  | atLine line failure => "line ".toList ++ Numeral.ofNat line ++ ": ".toList ++ failure.message
  | file fault => "I/O error: ".toList ++ fault.message
  | snapshot reason => "snapshot error: ".toList ++ reason
  | editor reason => "editor error: ".toList ++ reason
  | brokenLine => "a backspace would cut a character".toList

/-- The failure itself, without the lines it is attributed to. -/
def root : Failure → Failure
  | atLine _ failure => failure.root
  | failure => failure

end Failure

end LineScript
