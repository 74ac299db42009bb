import LineScript.Script.Basic
import LineScript.Store.Basic

namespace LineScript

inductive LineOutcome where
  | blank
  | comment
  | skipped (statement : Statement)
  | executed (statement : Statement) (outcome : Outcome)
  deriving DecidableEq

/-- What the lines of a script came to, by line number, and the failures recorded on the way. -/
structure Report where
  lines : List (Nat × LineOutcome)
  failures : List Failure
  deriving DecidableEq

namespace Report

def empty : Report := ⟨[], []⟩

def addLine (report : Report) (number : Nat) (outcome : LineOutcome) : Report :=
  { report with lines := (number, outcome) :: report.lines }

def addFailure (report : Report) (failure : Failure) : Report :=
  { report with failures := failure :: report.failures }

def executedCount (report : Report) : Nat :=
  report.lines.countP fun
    | (_, .executed ..) => true
    | _ => false

def skippedCount (report : Report) : Nat :=
  report.lines.countP fun
    | (_, .skipped _) => true
    | _ => false

end Report

/-- What running something against a store comes to, with the notices in the order they arose. -/
structure Run (α : Type) where
  result : Except Failure α
  store : Store
  notices : List Notice

namespace Script

def storeContext : Context Store where
  substitute := Store.substitute
  set := fun store name content partition => store.set name (.text content) partition
  appendLog := Store.appendLog

def runStatement (settings : Settings) (statement : Statement) (store : Store) : Run LineOutcome :=
  if statement.disabled && settings.skipDisabled then
    ⟨.ok (.skipped statement), store, [.statementSkipped statement.label]⟩
  else
    let notices := statement.notices store.substitute
    match statement.execute storeContext store with
    | (.ok outcome, after) => ⟨.ok (.executed statement outcome), after, notices⟩
    | (.error fault, after) => ⟨.error (.evaluation fault), after, notices⟩

def runLine (settings : Settings) (line : Text) (store : Store) : Run LineOutcome :=
  if isBlankLine line then ⟨.ok .blank, store, []⟩
  else if isComment line then ⟨.ok .comment, store, []⟩
  else
    match readStatement settings (Text.trim line) with
    | .ok statement => runStatement settings statement store
    | .error failure => ⟨.error failure, store, []⟩

/-- Runs the lines, of which the first has the given number. -/
def runFrom (settings : Settings) (number : Nat) : List Text → Store → Run Report
  | [], store => ⟨.ok .empty, store, []⟩
  | line :: later, store =>
      let step := runLine settings line store
      match step.result with
      | .ok outcome =>
          let others := runFrom settings (number + 1) later step.store
          ⟨others.result.map (·.addLine number outcome), others.store,
            step.notices ++ others.notices⟩
      | .error failure =>
          if settings.haltOnFailure then
            ⟨.error (.atLine number failure), step.store, step.notices⟩
          else
            let others := runFrom settings (number + 1) later step.store
            ⟨others.result.map (·.addFailure (.atLine number failure)), others.store,
              step.notices ++ .lineFailed number failure.message :: others.notices⟩

def run (settings : Settings) (source : Text) (store : Store) : Run Report :=
  runFrom settings 1 (Text.lines source) store

def runFile (settings : Settings) (name : Text) (content : Except FileFault (List UInt8))
    (store : Store) : Run Report :=
  match content with
  | .error fault => ⟨.error (.file fault), store, []⟩
  | .ok bytes =>
      match Text.ofUtf8? bytes with
      | none => ⟨.error (.file .notText), store, []⟩
      | some source =>
          let outcome := run settings source store
          { outcome with notices := .fileStarted name :: outcome.notices }

end Script

end LineScript
