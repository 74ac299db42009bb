import LineScript.Proofs.Evaluation.Effects
import LineScript.Proofs.Script.Lines

namespace LineScript

def LineOutcome.logLines : LineOutcome → List Text
  | .executed statement outcome => [statement.logLine outcome]
  | .blank | .comment | .skipped _ => []

namespace Run

/-- What the run logs: nothing if it fails. -/
def logLines (run : Run LineOutcome) : List Text :=
  match run.result with
  | .ok outcome => outcome.logLines
  | .error _ => []

/-- The run as it goes where so much was logged before. -/
def afterLog (log : List Text) (run : Run LineOutcome) : Run LineOutcome :=
  { run with store := run.store.withLog (log ++ run.logLines) }

end Run

namespace Script

theorem runStatement_withLog (settings : Settings) (statement : Statement) (store : Store)
    (log : List Text) :
    runStatement settings statement (store.withLog log) =
      (runStatement settings statement store).afterLog log := by
  unfold runStatement
  split
  · unfold Run.afterLog Run.logLines LineOutcome.logLines
    rw [List.append_nil]
  · rw [Statement.execute_eq, Statement.execute_eq, Store.substitute_withLog,
      Statement.settle_withLog]
    cases statement.evaluate store.substitute with
    | ok outcome => rfl
    | error fault => rfl

theorem runLine_withLog (settings : Settings) (line : Text) (store : Store) (log : List Text) :
    runLine settings line (store.withLog log) = (runLine settings line store).afterLog log := by
  have silent (result : Except Failure LineOutcome) (quiet : Run.logLines ⟨result, store, []⟩ = []) :
      (⟨result, store.withLog log, []⟩ : Run LineOutcome) = Run.afterLog log ⟨result, store, []⟩ := by
    unfold Run.afterLog
    rw [quiet, List.append_nil]
  rw [runLine_eq, runLine_eq]
  cases readLine settings line with
  | error failure => exact silent _ rfl
  | ok found =>
      cases found with
      | none =>
          apply silent
          unfold passiveOutcome
          split <;> rfl
      | some statement => exact runStatement_withLog settings statement store log

end Script

end LineScript
