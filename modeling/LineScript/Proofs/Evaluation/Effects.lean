import LineScript.Proofs.Store.Partitions
import LineScript.Script.Run

namespace LineScript

namespace Store

def withLog (store : Store) (log : List Text) : Store := { store with log }

@[simp] theorem withLog_withLog (store : Store) (log other : List Text) :
    (store.withLog log).withLog other = store.withLog other := rfl

theorem withoutLog_of_drained {store : Store} (drained : store.log = []) :
    store.withoutLog = store := by
  unfold withoutLog
  rw [← drained]

@[simp] theorem substitute_withLog (store : Store) (log : List Text) :
    (store.withLog log).substitute = store.substitute := rfl

theorem set_withLog (store : Store) (log : List Text) (name : Text) (value : Value)
    (partition : Partition) :
    (store.withLog log).set name value partition = (store.set name value partition).withLog log := by
  cases partition <;> rfl

/-- Binds a name if there is one to bind. -/
def assign (store : Store) : Option (Destination × Value) → Store
  | none => store
  | some (⟨partition, name⟩, value) => store.set name value partition

theorem assign_withLog (store : Store) (log : List Text)
    (assignment : Option (Destination × Value)) :
    (store.withLog log).assign assignment = (store.assign assignment).withLog log := by
  cases assignment with
  | none => rfl
  | some bound => exact set_withLog store log bound.1.name bound.2 bound.1.partition

end Store

namespace Statement

/-- What the statement binds when it comes to the result. -/
def assignment? (statement : Statement) :
    Except EvaluationFault Outcome → Option (Destination × Value)
  | .ok outcome => statement.destination.map fun destination =>
      (destination, .text outcome.result.write)
  | .error _ => none

/-- What the statement logs when it comes to the result. -/
def logLines (statement : Statement) : Except EvaluationFault Outcome → List Text
  | .ok outcome => [statement.logLine outcome]
  | .error _ => []

/-- What the statement leaves when it comes to the result. -/
def settle (statement : Statement) (result : Except EvaluationFault Outcome) (store : Store) :
    Store :=
  (store.assign (statement.assignment? result)).withLog (store.log ++ statement.logLines result)

theorem commit_eq_settle (statement : Statement) (outcome : Outcome) (store : Store) :
    statement.commit Script.storeContext outcome store = statement.settle (.ok outcome) store := by
  unfold commit settle assignment? logLines
  cases statement.destination with
  | none => rfl
  | some destination =>
      have sameLog := store.log_set destination.name (.text outcome.result.write)
        destination.partition
      exact congrArg (fun log => Store.withLog _ (log ++ [statement.logLine outcome])) sameLog

theorem settle_error (statement : Statement) (fault : EvaluationFault) (store : Store) :
    statement.settle (.error fault) store = store := by
  unfold settle assignment? logLines
  rw [List.append_nil]
  rfl

theorem execute_eq (statement : Statement) (store : Store) :
    statement.execute Script.storeContext store =
      (statement.evaluate store.substitute,
        statement.settle (statement.evaluate store.substitute) store) := by
  have same : Script.storeContext.substitute store = store.substitute := rfl
  unfold execute
  rw [same]
  cases statement.evaluate store.substitute with
  | error fault => rw [settle_error]
  | ok outcome => rw [← commit_eq_settle]

theorem settle_withLog (statement : Statement) (result : Except EvaluationFault Outcome)
    (store : Store) (log : List Text) :
    statement.settle result (store.withLog log) =
      (statement.settle result store).withLog (log ++ statement.logLines result) := by
  unfold settle
  rw [Store.assign_withLog]
  rfl

end Statement

end LineScript
