import LineScript.Statement.Fault

/-!
Notices: what the program records about its own work beside its output. Each has a level and an
origin, and is written as one line when its level is shown.
-/

namespace LineScript

inductive Notice.Level where
  | error
  | warning
  | information
  | detail
  deriving DecidableEq, Repr

/-- The least urgent level that is shown; `none` shows nothing. -/
abbrev Notice.Threshold := Option Notice.Level

inductive Notice where
  | operandRead (slot : Slot) (raw substituted : Text)
  | computed (line : Text)
  | statementSkipped (label : Text)
  | lineFailed (number : Nat) (reason : Text)
  | fileStarted (name : Text)
  | fileFinished (name : Text) (executed skipped : Nat)
  | lineFromPipe
  deriving DecidableEq, Repr

namespace Notice

def Level.rank : Level → Nat
  | error => 1
  | warning => 2
  | information => 3
  | detail => 4

/-- Five characters wide. -/
def Level.tag : Level → Text
  | error => "ERROR".toList
  | warning => "WARN ".toList
  | information => "INFO ".toList
  | detail => "DEBUG".toList

def Threshold.shows (threshold : Threshold) (level : Level) : Bool :=
  match threshold with
  | none => false
  | some least => level.rank ≤ least.rank

/-- The threshold of that name, whatever the case of its letters. -/
def Threshold.ofName? (name : Text) : Option Threshold :=
  if Text.sameLetters name "off".toList then some none
  else if Text.sameLetters name "error".toList then some (some .error)
  else if Text.sameLetters name "warn".toList then some (some .warning)
  else if Text.sameLetters name "info".toList then some (some .information)
  else if Text.sameLetters name "debug".toList then some (some .detail)
  else if Text.sameLetters name "trace".toList then some (some .detail)
  else none

def level : Notice → Level
  | operandRead .. => .detail
  | computed _ => .information
  | statementSkipped _ => .detail
  | lineFailed .. => .warning
  | fileStarted _ => .information
  | fileFinished .. => .information
  | lineFromPipe => .detail

def origin : Notice → Text
  | operandRead .. => "blockscript_runtime::executor".toList
  | computed _ => "blockscript_runtime::executor".toList
  | statementSkipped _ => "blockscript_runtime::session".toList
  | lineFailed .. => "blockscript_runtime::session".toList
  | fileStarted _ => "blockscript_runtime::session".toList
  | fileFinished .. => "blockscript".toList
  | lineFromPipe => "rustyline".toList

def message : Notice → Text
  | operandRead slot raw substituted =>
      slot.name ++ " operand ".toList ++ Text.quoted raw ++ " -> ".toList ++
        Text.quoted substituted
  | computed line => line
  | statementSkipped label => "skipping disabled statement ".toList ++ label
  | lineFailed number reason => "line ".toList ++ Numeral.ofNat number ++ ": ".toList ++ reason
  | fileStarted name => "running ".toList ++ name
  | fileFinished name executed skipped =>
      name ++ ": ".toList ++ Numeral.ofNat executed ++ " executed, ".toList ++
        Numeral.ofNat skipped ++ " skipped".toList
  | lineFromPipe => "stdin is not a tty".toList

/-- The notice as a line, its origin filled up to `width` characters. -/
def write (width : Nat) (notice : Notice) : Text :=
  ' ' :: notice.level.tag ++ ' ' :: notice.origin ++
    List.replicate (width - notice.origin.length) ' ' ++ " > ".toList ++ notice.message ++ ['\n']

end Notice

/-- Something the program lets be seen: a piece of its output, of its complaints, or a notice. -/
inductive Emission where
  | output (text : Text)
  | complaint (text : Text)
  | notice (notice : Notice)
  deriving DecidableEq, Repr

abbrev Transcript := List Emission

namespace Transcript

def output (transcript : Transcript) : Text :=
  transcript.flatMap fun
    | .output text => text
    | .complaint _ => []
    | .notice _ => []

/-- Complaints and shown notices in the order in which they arose. The origins of notices are
aligned to the longest one so far. -/
def complaints (threshold : Notice.Threshold) (width : Nat) : Transcript → Text
  | [] => []
  | .output _ :: later => complaints threshold width later
  | .complaint text :: later => text ++ complaints threshold width later
  | .notice notice :: later =>
      if threshold.shows notice.level then
        let width := max width notice.origin.length
        notice.write width ++ complaints threshold width later
      else complaints threshold width later

end Transcript

end LineScript
