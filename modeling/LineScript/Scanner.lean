import LineScript.Statement.Fault
import LineScript.Text.Utf8

/-!
Scanning one line from left to right. A scanner stands between the text it has consumed and the
rest; each step yields something or a fault, and leaves the scanner where a later step goes on. A
step that finds nothing moves over blanks at most.
-/

namespace LineScript

structure Scanner where
  consumed : Text
  rest : Text
  deriving DecidableEq, Repr

namespace Scanner

def start (source : Text) : Scanner := ⟨[], source⟩

def source (scanner : Scanner) : Text := scanner.consumed ++ scanner.rest

/-- The column of the next character, counted from one. -/
def column (scanner : Scanner) : Nat := scanner.consumed.length + 1

def position (scanner : Scanner) : Nat := Text.utf8Length scanner.consumed

def atEnd (scanner : Scanner) : Bool := scanner.rest.all Text.isBlank

/-- The scanner after `token`, which stood before `rest`. -/
def past (scanner : Scanner) (token rest : Text) : Scanner := ⟨scanner.consumed ++ token, rest⟩

def skipBlanks (scanner : Scanner) : Scanner :=
  scanner.past (scanner.rest.takeWhile Text.isBlank) (scanner.rest.dropWhile Text.isBlank)

end Scanner

structure Scan (α : Type) where
  run : Scanner → Except Fault α × Scanner

namespace Scan

instance : Monad Scan where
  pure value := ⟨fun scanner => (.ok value, scanner)⟩
  bind step next := ⟨fun scanner =>
    match step.run scanner with
    | (.ok value, reached) => (next value).run reached
    | (.error fault, reached) => (.error fault, reached)⟩

@[simp] theorem run_pure (value : α) (scanner : Scanner) :
    (pure value : Scan α).run scanner = (.ok value, scanner) := rfl

theorem run_bind (step : Scan α) (next : α → Scan β) (scanner : Scanner) :
    (step >>= next).run scanner =
      match step.run scanner with
      | (.ok value, reached) => (next value).run reached
      | (.error fault, reached) => (.error fault, reached) := rfl

theorem run_bind_of_ok {step : Scan α} {next : α → Scan β} {scanner reached : Scanner} {value : α}
    (ran : step.run scanner = (.ok value, reached)) :
    (step >>= next).run scanner = (next value).run reached := by
  rw [run_bind, ran]

theorem run_bind_of_error {step : Scan α} {next : α → Scan β} {scanner reached : Scanner}
    {fault : Fault} (ran : step.run scanner = (.error fault, reached)) :
    (step >>= next).run scanner = (.error fault, reached) := by
  rw [run_bind, ran]

def failAt (column : Nat) (cause : Fault.Cause) : Scan α :=
  ⟨fun scanner => (.error ⟨cause, column⟩, scanner)⟩

def column : Scan Nat := ⟨fun scanner => (.ok scanner.column, scanner)⟩

def rest : Scan Text := ⟨fun scanner => (.ok scanner.rest, scanner)⟩

def atEnd : Scan Bool := ⟨fun scanner => (.ok scanner.atEnd, scanner)⟩

def blanks : Scan Unit := ⟨fun scanner => (.ok (), scanner.skipBlanks)⟩

def fail (cause : Fault.Cause) : Scan α := do
  failAt (← column) cause

/-- Whether the next character that is no blank is `marker`, which is then consumed. -/
def marker (marker : Char) : Scan Bool := ⟨fun scanner =>
  let here := scanner.skipBlanks
  match here.rest with
  | [] => (.ok false, here)
  | character :: rest =>
      if character = marker then (.ok true, here.past [marker] rest) else (.ok false, here)⟩

/-- A label right here, after its marker; blanks are not skipped. -/
def label : Scan (Option Text) := ⟨fun scanner =>
  match scanner.rest with
  | '#' :: rest =>
      let label := rest.takeWhile Text.isSolid
      if label.isEmpty then (.error ⟨.missingLabel, scanner.column⟩, scanner)
      else if isLabel label then
        (.ok (some label), scanner.past ('#' :: label) (rest.dropWhile Text.isSolid))
      else (.error ⟨.invalidLabel label, scanner.column⟩, scanner)
  | _ => (.ok none, scanner)⟩

inductive Token where
  | arrow
  | word
  | literal
  deriving DecidableEq, Repr

def Token.missing : Token → Fault.Cause
  | arrow => .missingArrow
  | word => .missingWord
  | literal => .missingLiteral

def arrowHere : Scan (Option Text) := ⟨fun scanner =>
  match scanner.rest with
  | '-' :: '>' :: rest => (.ok (some ['-', '>']), scanner.past ['-', '>'] rest)
  | _ => (.ok none, scanner)⟩

def wordHere : Scan (Option Text) := ⟨fun scanner =>
  match scanner.rest.takeWhile Text.isWordCharacter with
  | [] => (.ok none, scanner)
  | word => (.ok (some word), scanner.past word (scanner.rest.dropWhile Text.isWordCharacter))⟩

/-- A literal right here, from its opening quote to the next quote. -/
def literalHere : Scan (Option Text) := ⟨fun scanner =>
  match scanner.rest with
  | '"' :: body =>
      match Text.cut '"' body with
      | some (content, rest) =>
          (.ok (some content), scanner.past ('"' :: content ++ ['"']) rest)
      | none => (.error ⟨.unterminatedLiteral, scanner.column⟩, scanner)
  | _ => (.ok none, scanner)⟩

/-- The next token, if it is of this sort; of a literal, the text between its quotes. -/
def token (token : Token) : Scan (Option Text) := do
  blanks
  match token with
  | .arrow => arrowHere
  | .word => wordHere
  | .literal => literalHere

def required (sort : Token) : Scan Text := do
  match ← token sort with
  | some text => return text
  | none => fail sort.missing

def operand (field : Text) : Scan Text := do
  match ← token .literal with
  | some text => return text
  | none => fail (.missingOperand field)

end Scan

end LineScript
