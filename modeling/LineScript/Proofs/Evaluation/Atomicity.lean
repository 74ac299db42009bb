import LineScript.Proofs.Evaluation.Independence
import LineScript.Proofs.Evaluation.Rules

namespace LineScript

/-- A call that changes what a statement is executed against. -/
inductive Call where
  | set (name content : Text) (partition : Partition)
  | appendLog (line : Text)
  deriving DecidableEq

namespace Context

def perform (context : Context σ) (state : σ) : Call → σ
  | .set name content partition => context.set state name content partition
  | .appendLog line => context.appendLog state line

/-- The context that also keeps a record of the calls made of it, in their order. -/
def recorded (context : Context σ) : Context (σ × List Call) where
  substitute := fun (state, _) => context.substitute state
  set := fun (state, made) name content partition =>
    (context.set state name content partition, made ++ [.set name content partition])
  appendLog := fun (state, made) line => (context.appendLog state line, made ++ [.appendLog line])

theorem perform_recorded (context : Context σ) (state : σ) (made : List Call) (call : Call) :
    context.recorded.perform (state, made) call = (context.perform state call, made ++ [call]) := by
  cases call <;> rfl

theorem foldl_perform_recorded (context : Context σ) (state : σ) (made calls : List Call) :
    calls.foldl context.recorded.perform (state, made) =
      (calls.foldl context.perform state, made ++ calls) := by
  induction calls generalizing state made with
  | nil => rw [List.append_nil]; rfl
  | cons call later induction =>
      rw [List.foldl_cons, perform_recorded, induction, List.append_assoc]
      rfl

end Context

namespace Statement

/-- The line that is logged for a result, with both operands as they were read. -/
def resultLine (statement : Statement) (left right result : Word) : Text :=
  statement.label ++ ": ".toList ++ left.write ++ " ".toList ++ statement.operation.symbol ++
    " ".toList ++ right.write ++ " = ".toList ++ result.write

/-- The calls that go with what a statement comes to: none with a fault. -/
inductive Makes (statement : Statement) : Except EvaluationFault Outcome → List Call → Prop
  | nothing (fault : EvaluationFault) : Makes statement (.error fault) []
  | logging {left right result : Word} (unbound : statement.destination = none) :
      Makes statement (.ok ⟨[left, right], result, none⟩)
        [.appendLog (statement.resultLine left right result)]
  | binding {left right result : Word} {destination : Destination}
      (bound : statement.destination = some destination) :
      Makes statement (.ok ⟨[left, right], result, some destination⟩)
        [.set destination.name result.write destination.partition,
          .appendLog (statement.resultLine left right result)]

/-- What a statement makes of a store: nothing with a fault; otherwise its name is bound to the result
in its partition alone, every other name is bound as before, and one line is logged. -/
inductive Turns (statement : Statement) (store : Store) :
    Except EvaluationFault Outcome → Store → Prop
  | nothing (fault : EvaluationFault) : Turns statement store (.error fault) store
  | effect {left right result : Word} {written : Option Destination} {after : Store}
      (others : ∀ name ∉ statement.binds?, ∀ partition,
        (after.bound partition).get? name = (store.bound partition).get? name)
      (target : ∀ destination ∈ statement.destination, ∀ partition,
        (after.bound partition).get? destination.name =
          if partition = destination.partition then some (.text result.write) else none)
      (log : after.log = store.log ++ [statement.resultLine left right result]) :
      Turns statement store (.ok ⟨[left, right], result, written⟩) after

variable {statement : Statement} {result : Except EvaluationFault Outcome} {calls : List Call}

theorem logLine_eq_resultLine (statement : Statement) (left right result : Word)
    (written : Option Destination) :
    statement.logLine ⟨[left, right], result, written⟩ = statement.resultLine left right result := by
  simp [logLine, resultLine, Text.join]

theorem exists_makes (substitute : Text → Text) (statement : Statement) :
    ∃ calls, statement.Makes (statement.evaluate substitute) calls := by
  obtain ⟨result, comes⟩ := exists_comesTo substitute statement
  rw [comes.evaluate_eq]
  cases comes with
  | wrongArity => exact ⟨_, .nothing _⟩
  | firstNotInteger => exact ⟨_, .nothing _⟩
  | secondNotInteger => exact ⟨_, .nothing _⟩
  | overflow => exact ⟨_, .nothing _⟩
  | outcome =>
      cases located : statement.destination with
      | none => exact ⟨_, .logging located⟩
      | some destination => exact ⟨_, .binding located⟩

theorem Makes.execute_eq (made : statement.Makes result calls) (context : Context σ) (state : σ)
    (came : statement.evaluate (context.substitute state) = result) :
    statement.execute context state = (result, calls.foldl context.perform state) := by
  unfold execute
  rw [came]
  cases made with
  | nothing fault => rfl
  | logging unbound =>
      dsimp only
      rw [commit, unbound, logLine_eq_resultLine]
      rfl
  | binding bound =>
      dsimp only
      rw [commit, bound, logLine_eq_resultLine]
      rfl

theorem Makes.turns (made : statement.Makes result calls) (store : Store) :
    statement.Turns store result (calls.foldl Script.storeContext.perform store) := by
  cases made with
  | nothing fault => exact .nothing fault
  | logging unbound =>
      refine .effect (fun _ _ _ => rfl) ?_ rfl
      rw [unbound]
      nofun
  | @binding left right result destination bound =>
      have lookups := store.get?_bound_set destination.name (.text result.write) destination.partition
      refine .effect ?_ ?_ ?_
      · intro name other partition
        have different : name ≠ destination.name := by
          intro same
          apply other
          rw [binds?, bound, same]
          rfl
        exact (lookups partition name).trans (if_neg different)
      · intro held member partition
        obtain rfl := Option.some.inj (bound.symm.trans member)
        exact (lookups partition _).trans (if_pos rfl)
      · exact congrArg (· ++ _) (store.log_set ..)

/-- Whatever a statement is executed against, the calls recorded of it are all that changes its state,
and they are those that go with its result; so a store is changed by a success alone, and then only in
the name that is bound and by the line that is logged. -/
theorem execution_is_atomic (context : Context σ) (statement : Statement) (state : σ)
    (store : Store) :
    (∃ result calls, statement.Makes result calls ∧
      statement.execute context state = (result, calls.foldl context.perform state) ∧
      statement.execute context.recorded (state, []) =
        (result, calls.foldl context.perform state, calls)) ∧
    statement.Turns store (statement.execute Script.storeContext store).1
      (statement.execute Script.storeContext store).2 := by
  constructor
  · obtain ⟨calls, made⟩ := exists_makes (context.substitute state) statement
    refine ⟨_, calls, made, made.execute_eq context state rfl, ?_⟩
    rw [made.execute_eq context.recorded (state, []) rfl, Context.foldl_perform_recorded]
    rfl
  · obtain ⟨calls, made⟩ := exists_makes store.substitute statement
    rw [made.execute_eq Script.storeContext store rfl]
    exact made.turns store

end Statement

end LineScript
