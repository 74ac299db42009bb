import LineScript.Script.Basic

namespace LineScript.Script

/-- The statements of the lines, of which the first has the given number. -/
def checkFrom (settings : Settings) (number : Nat) : List Text → Except Failure (List Statement)
  | [] => .ok []
  | line :: later =>
      if isPassive line then checkFrom settings (number + 1) later
      else
        match readStatement settings line with
        | .error failure => .error (.atLine number failure)
        | .ok statement => (checkFrom settings (number + 1) later).map (statement :: ·)

def check (settings : Settings) (source : Text) : Except Failure (List Statement) :=
  checkFrom settings 1 (Text.lines source)

end LineScript.Script
