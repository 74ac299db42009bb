import LineScript.Script.Basic
import LineScript.Statement.Writing

namespace LineScript.Script

def isIndented (line : Text) : Bool := (line.head?.map Text.isBlank).getD false

def formatLine (settings : Settings) (line : Text) : Except Failure Text :=
  (readStatement settings line).map fun statement =>
    statement.writeAs (if isIndented line then settings.indentWidth else 0) statement.disabled

/-- The lines laid out, of which the first has the given number. -/
def formatFrom (settings : Settings) (number : Nat) : List Text → Except Failure (List Text)
  | [] => .ok []
  | line :: later =>
      if isPassive line then
        (formatFrom settings (number + 1) later).map (Text.trimEnd line :: ·)
      else
        match formatLine settings line with
        | .error failure => .error (.atLine number failure)
        | .ok text => (formatFrom settings (number + 1) later).map (text :: ·)

/-- The script laid out; it ends with a line feed exactly if the source does. -/
def format (settings : Settings) (source : Text) : Except Failure Text :=
  (formatFrom settings 1 (Text.lines source)).map fun lines =>
    Text.join ['\n'] lines ++ (if source.getLast? = some '\n' then ['\n'] else [])

end LineScript.Script
