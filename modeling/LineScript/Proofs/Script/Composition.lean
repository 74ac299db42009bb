import LineScript.Proofs.Script.Running

namespace LineScript

open Text

def Failure.shifted (count : Nat) : Failure → Failure
  | .atLine number failure => .atLine (count + number) failure
  | failure => failure

def Notice.shifted (count : Nat) : Notice → Notice
  | .lineFailed number reason => .lineFailed (count + number) reason
  | notice => notice

namespace Report

/-- The report as one of lines that follow so many others. -/
def shifted (count : Nat) (report : Report) : Report where
  lines := report.lines.map fun (number, outcome) => (count + number, outcome)
  failures := report.failures.map (Failure.shifted count)

theorem shifted_append (count : Nat) (report other : Report) :
    (report ++ other).shifted count = report.shifted count ++ other.shifted count := by
  unfold shifted
  rw [lines_append, failures_append, List.map_append, List.map_append]
  rfl

end Report

namespace Run

def shifted (count : Nat) (run : Run Report) : Run Report where
  result :=
    match run.result with
    | .ok report => .ok (report.shifted count)
    | .error failure => .error (failure.shifted count)
  store := run.store
  notices := run.notices.map (Notice.shifted count)

theorem result_shifted_of_ok {run : Run Report} {report : Report} (ran : run.result = .ok report)
    (count : Nat) : (run.shifted count).result = .ok (report.shifted count) := by
  unfold shifted
  rw [ran]

theorem result_shifted_of_error {run : Run Report} {failure : Failure}
    (failed : run.result = .error failure) (count : Nat) :
    (run.shifted count).result = .error (failure.shifted count) := by
  unfold shifted
  rw [failed]

theorem shifted_andThen (count : Nat) (run : Run Report) (next : Store → Run Report) :
    (run.andThen next).shifted count =
      (run.shifted count).andThen fun store => (next store).shifted count := by
  cases ran : run.result with
  | error failure =>
      rw [andThen_of_error ran, andThen_of_error (result_shifted_of_error ran count)]
  | ok report =>
      rw [andThen_of_ok ran, andThen_of_ok (result_shifted_of_ok ran count)]
      unfold shifted
      cases (next run.store).result with
      | error failure => simp only [Except.map, List.map_append]
      | ok others => simp only [Except.map, List.map_append, Report.shifted_append]

end Run

namespace Script

variable {settings : Settings} {front : Text}

theorem shifted_notices (count : Nat) (statement : Statement) (substitute : Text → Text) :
    (statement.notices substitute).map (Notice.shifted count) = statement.notices substitute := by
  unfold Statement.notices
  cases statement.evaluate substitute with
  | error fault => simp [Function.comp_def, Notice.shifted]
  | ok outcome => simp [Function.comp_def, Notice.shifted]

theorem shifted_notices_runStatement (count : Nat) (settings : Settings) (statement : Statement)
    (store : Store) :
    (runStatement settings statement store).notices.map (Notice.shifted count) =
      (runStatement settings statement store).notices := by
  unfold runStatement Statement.execute
  split
  · rfl
  · have unnumbered := shifted_notices count statement store.substitute
    cases statement.evaluate (storeContext.substitute store) with
    | error fault => exact unnumbered
    | ok outcome => exact unnumbered

/-- What a line has to say of itself names no line. -/
theorem shifted_notices_runLine (count : Nat) (settings : Settings) (line : Text) (store : Store) :
    (runLine settings line store).notices.map (Notice.shifted count) =
      (runLine settings line store).notices := by
  rw [runLine_eq]
  cases readLine settings line with
  | error failure => rfl
  | ok found =>
      cases found with
      | none => rfl
      | some statement => exact shifted_notices_runStatement count settings statement store

theorem shifted_reportLine {run : Run LineOutcome} {count : Nat} (number : Nat)
    (unnumbered : run.notices.map (Notice.shifted count) = run.notices) :
    (reportLine settings number run).shifted count = reportLine settings (count + number) run := by
  cases ran : run.result with
  | ok outcome =>
      rw [reportLine_of_ok ran, reportLine_of_ok ran, Run.shifted, unnumbered]
      rfl
  | error failure =>
      unfold reportLine
      rw [ran]
      dsimp only
      split
      · rw [Run.shifted, unnumbered]
        rfl
      · rw [Run.shifted, List.map_append, unnumbered]
        rfl

theorem shifted_runFrom (count number : Nat) (settings : Settings) (texts : List Text)
    (store : Store) :
    (runFrom settings number texts store).shifted count =
      runFrom settings (count + number) texts store := by
  induction texts generalizing number store with
  | nil => rfl
  | cons line later induction =>
      rw [runFrom_cons, runFrom_cons, Run.shifted_andThen,
        shifted_reportLine number (shifted_notices_runLine count settings line store)]
      congr 1
      funext after
      exact induction (number + 1) after

theorem lines_append_of_ended (ended : front = [] ∨ front.getLast? = some '\n') (back : Text) :
    lines (front ++ back) = lines front ++ lines back := by
  rcases ended with rfl | fed
  · rfl
  · obtain ⟨start, rfl⟩ := List.getLast?_eq_some_iff.mp fed
    rw [List.append_assoc]
    exact lines_append_feed start back

theorem run_append (ended : front = [] ∨ front.getLast? = some '\n') (settings : Settings)
    (back : Text) (store : Store) :
    run settings (front ++ back) store =
      (run settings front store).andThen fun after =>
        (run settings back after).shifted (lines front).length := by
  unfold run
  rw [lines_append_of_ended ended, runFrom_append]
  congr 1
  funext after
  rw [shifted_runFrom, Nat.add_comm]

theorem exists_line_of_error {number : Nat} {texts : List Text} {store : Store} {failure : Failure}
    (failed : (runFrom settings number texts store).result = .error failure) :
    ∃ place cause, failure = .atLine place cause := by
  induction texts generalizing number store with
  | nil => cases failed
  | cons line later induction =>
      rw [runFrom_cons] at failed
      cases ran : (reportLine settings number (runLine settings line store)).result with
      | ok report =>
          rw [Run.andThen_of_ok ran] at failed
          exact induction (map_eq_error_iff.mp failed)
      | error cause =>
          rw [Run.andThen_of_error ran, ran] at failed
          obtain rfl := Except.error.inj failed
          unfold reportLine at ran
          split at ran
          · cases ran
          · split at ran
            · exact ⟨_, _, (Except.error.inj ran).symm⟩
            · cases ran

/-- A script after one whose lines are all ended is not run at all if that one fails. Otherwise it runs
by itself against the store that the other leaves, and its lines count on. -/
theorem running_composes (ended : front = [] ∨ front.getLast? = some '\n') (settings : Settings)
    (back : Text) (store : Store) :
    (∀ failure, (run settings front store).result = .error failure →
      run settings (front ++ back) store = run settings front store) ∧
    ∀ report after, (run settings front store).result = .ok report →
      (run settings front store).store = after →
        (run settings (front ++ back) store).store = (run settings back after).store ∧
        (run settings (front ++ back) store).notices = (run settings front store).notices ++
          (run settings back after).notices.map (Notice.shifted (lines front).length) ∧
        (∀ other, (run settings back after).result = .ok other →
          (run settings (front ++ back) store).result =
            .ok (report ++ other.shifted (lines front).length)) ∧
        ∀ failure, (run settings back after).result = .error failure →
          ∃ number cause, failure = .atLine number cause ∧
            (run settings (front ++ back) store).result =
              .error (.atLine ((lines front).length + number) cause) := by
  have whole := run_append ended settings back store
  constructor
  · intro failure failed
    rw [whole, Run.andThen_of_error failed]
  · rintro report after ran rfl
    rw [Run.andThen_of_ok ran] at whole
    rw [whole]
    refine ⟨rfl, rfl, ?_, ?_⟩
    · intro other went
      dsimp only
      rw [Run.result_shifted_of_ok went]
      rfl
    · intro failure failed
      obtain ⟨number, cause, rfl⟩ := exists_line_of_error failed
      refine ⟨number, cause, rfl, ?_⟩
      dsimp only
      rw [Run.result_shifted_of_error failed]
      rfl

/-- A binding and a blank line, each with another line ending. -/
def opening : Text := "SUM \"1\" \"2\" -> VAR \"A\"\n\r\n".toList

def openingReport : Report where
  lines :=
    [(1, .executed ⟨.sum, "Sum".toList, [['1'], ['2']], some ⟨.ordinary, ['A']⟩, false⟩
        ⟨[⟨1, by decide⟩, ⟨2, by decide⟩], ⟨3, by decide⟩, some ⟨.ordinary, ['A']⟩⟩),
      (2, .blank)]
  failures := []

/-- A line that needs the binding, and one that fails. -/
def closing : Text := "SUM \"<A>\" \"4\"\nSUM \"<B>\" \"1\"\n".toList

def closingFault : Failure := .evaluation (.notInteger .first "<B>".toList)

def closingReport : Report where
  lines :=
    [(1, .executed ⟨.sum, "Sum".toList, ["<A>".toList, ['4']], none, false⟩
      ⟨[⟨3, by decide⟩, ⟨4, by decide⟩], ⟨7, by decide⟩, none⟩)]
  failures := [.atLine 2 closingFault]

theorem running_composes_opening_closing :
    opening.getLast? = some '\n' ∧
      (run (Settings.goingOn {}) (opening ++ closing) .empty).result =
        .ok (openingReport ++ closingReport.shifted 2) ∧
      (run {} (opening ++ closing) .empty).result = .error (.atLine 4 closingFault) ∧
      run {} (closing ++ opening) .empty = run {} closing .empty := by
  have ended : opening.getLast? = some '\n' := by decide
  have goesOn : (run (Settings.goingOn {}) opening .empty).result = .ok openingReport := by
    decide +kernel
  have others : (run (Settings.goingOn {}) closing
      (run (Settings.goingOn {}) opening .empty).store).result = .ok closingReport := by
    decide +kernel
  have passed : (run {} opening .empty).result = .ok openingReport := by decide +kernel
  have failed : (run {} closing (run {} opening .empty).store).result =
      .error (.atLine 2 closingFault) := by
    decide +kernel
  have stopped : (run {} closing .empty).result =
      .error (.atLine 1 (.evaluation (.notInteger .first "<A>".toList))) := by
    decide +kernel
  obtain ⟨_, _, both, _⟩ := (running_composes (.inr ended) _ closing .empty).2 _ _ goesOn rfl
  obtain ⟨_, _, _, halts⟩ := (running_composes (.inr ended) {} closing .empty).2 _ _ passed rfl
  obtain ⟨number, cause, same, halted⟩ := halts _ failed
  obtain ⟨rfl, rfl⟩ := Failure.atLine.inj same
  exact ⟨ended, both _ others, halted,
    (running_composes (.inr (by decide)) {} opening .empty).1 _ stopped⟩

end Script

end LineScript
