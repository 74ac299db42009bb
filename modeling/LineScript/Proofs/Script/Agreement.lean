import LineScript.Proofs.Script.Halting
import LineScript.Script.Layout

namespace LineScript

open Text

/-- The statements that came to an outcome, with the numbers of their lines. -/
def Report.statements (report : Report) : List (Nat × Statement) :=
  report.lines.filterMap fun (number, outcome) => outcome.statement?.map (number, ·)

theorem Report.failedLines_outcome_append (entry : Nat × LineOutcome) (report : Report) :
    (⟨[entry], []⟩ ++ report : Report).failedLines = report.failedLines := rfl

theorem Report.statements_append (report other : Report) :
    (report ++ other).statements = report.statements ++ other.statements :=
  List.filterMap_append

/-- The failures a run ends with or has recorded. -/
def Run.failures (run : Run Report) : List Failure :=
  match run.result with
  | .ok report => report.failures
  | .error failure => [failure]

theorem Run.failures_of_ok {run : Run Report} {report : Report} (ran : run.result = .ok report) :
    run.failures = report.failures := by
  rw [Run.failures, ran]

theorem Run.failures_of_error {run : Run Report} {failure : Failure}
    (failed : run.result = .error failure) : run.failures = [failure] := by
  rw [Run.failures, failed]

namespace Script

/-- The numbers of the lines that are not passive. -/
def statementNumbers (number : Nat) (texts : List Text) : List Nat :=
  ((texts.zipIdx number).filter fun (line, _) => !isPassive line).map Prod.snd

variable {settings : Settings} {number : Nat} {line : Text} {texts later : List Text} {store : Store}
  {failure : Failure} {statements : List Statement}

theorem statementNumbers_cons_of_passive (passive : isPassive line = true) :
    statementNumbers number (line :: later) = statementNumbers (number + 1) later := by
  simp [statementNumbers, passive]

theorem statementNumbers_cons_of_active (active : isPassive line = false) :
    statementNumbers number (line :: later) = number :: statementNumbers (number + 1) later := by
  simp [statementNumbers, active]

theorem le_of_mem_statementNumbers {place : Nat} (member : place ∈ statementNumbers number texts) :
    number ≤ place := by
  obtain ⟨⟨line, found⟩, listed, rfl⟩ := List.mem_map.mp member
  exact (List.mem_zipIdx (List.mem_filter.mp listed).1).1

theorem checkFrom_eq_error_iff :
    checkFrom settings number texts = .error failure ↔
      formatFrom settings number texts = .error failure := by
  induction texts generalizing number with
  | nil => simp [checkFrom, formatFrom]
  | cons line later induction =>
      rw [checkFrom_cons, formatFrom_cons]
      cases readLine settings line with
      | error fault => simp
      | ok found => rw [map_eq_error_iff, map_eq_error_iff, induction]

/-- A failure of reading that ends a run is the first there is. -/
theorem checkFrom_of_runFrom_reading {place : Nat} {fault : Fault}
    (failed : (runFrom settings.halting number texts store).result =
      .error (.atLine place (.reading fault))) :
    checkFrom settings number texts = .error (.atLine place (.reading fault)) := by
  induction texts generalizing number store with
  | nil => cases failed
  | cons line later induction =>
      rw [checkFrom_cons]
      rcases runLine_cases settings line store with
        ⟨found, unread, ran, _⟩ | ⟨outcome, reads, ran⟩ | ⟨statement, _, _, ran, _⟩
      · rw [runFrom_halting_cons_of_error ran] at failed
        cases failed
        rw [unread]
      · rw [runFrom_halting_cons_of_ok ran, Run.andThen_of_ok rfl] at failed
        rw [reads]
        exact map_eq_error_iff.mpr (induction (map_eq_error_iff.mp failed))
      · rw [runFrom_halting_cons_of_error ran] at failed
        cases failed

theorem exists_halt_of_checkFrom_error (unread : checkFrom settings number texts = .error failure)
    (store : Store) :
    ∃ place fault, failure = .atLine place (.reading fault) ∧ number ≤ place ∧
      ∃ earlier cause, earlier ≤ place ∧
        (runFrom settings.halting number texts store).result = .error (.atLine earlier cause) := by
  induction texts generalizing number store with
  | nil => cases unread
  | cons line later induction =>
      rw [checkFrom_cons] at unread
      rcases runLine_cases settings line store with
        ⟨found, failed, ran, _⟩ | ⟨outcome, reads, ran⟩ | ⟨statement, found, reads, ran, _⟩
      · rw [failed] at unread
        cases unread
        exact ⟨number, found, rfl, Nat.le_refl _, number, .reading found, Nat.le_refl _,
          by rw [runFrom_halting_cons_of_error ran]⟩
      · rw [reads] at unread
        obtain ⟨place, fault, same, after, earlier, cause, before, halted⟩ :=
          induction (map_eq_error_iff.mp unread) (runLine settings line store).store
        refine ⟨place, fault, same, Nat.le_of_succ_le after, earlier, cause, before, ?_⟩
        rw [runFrom_halting_cons_of_ok ran, Run.andThen_of_ok rfl]
        exact map_eq_error_iff.mpr halted
      · -- The run ends here, on a line that the check passes.
        rw [reads] at unread
        obtain ⟨place, fault, same, after, _⟩ := induction (map_eq_error_iff.mp unread) store
        have before : number ≤ place := Nat.le_of_succ_le after
        exact ⟨place, fault, same, before, number, .evaluation found, before,
          by rw [runFrom_halting_cons_of_error ran]⟩

/-- All that a check finds was run, but for the statements that failed in their evaluation. -/
structure Accounts (report : Report) (numbers : List Nat) (statements : List Statement) : Prop where
  evaluations : ∀ failure ∈ report.failures, ∃ number fault,
    failure = .atLine number (.evaluation fault)
  sameLength : numbers.length = statements.length
  failed : ∀ number ∈ report.failedLines, number ∈ numbers
  outcomes : report.statements =
    (numbers.zip statements).filter fun (number, _) => number ∉ report.failedLines

namespace Accounts

variable {report : Report} {numbers : List Nat}

theorem empty : Accounts .empty [] [] where
  evaluations := by simp [Report.empty]
  sameLength := rfl
  failed := by simp [Report.empty, Report.failedLines]
  outcomes := rfl

theorem ofPassive {outcome : LineOutcome} (accounts : Accounts report numbers statements)
    (none : outcome.statement? = none) :
    Accounts (⟨[(number, outcome)], []⟩ ++ report) numbers statements where
  evaluations := accounts.evaluations
  sameLength := accounts.sameLength
  failed := accounts.failed
  outcomes := by
    rw [Report.failedLines_outcome_append, ← accounts.outcomes]
    simp [Report.statements, none]

theorem ofOutcome {outcome : LineOutcome} {statement : Statement}
    (accounts : Accounts report numbers statements) (above : ∀ place ∈ numbers, number < place)
    (found : outcome.statement? = some statement) :
    Accounts (⟨[(number, outcome)], []⟩ ++ report) (number :: numbers)
      (statement :: statements) where
  evaluations := accounts.evaluations
  sameLength := congrArg (· + 1) accounts.sameLength
  failed := fun place member => List.mem_cons_of_mem _ (accounts.failed place member)
  outcomes := by
    have kept : number ∉ report.failedLines :=
      fun member => Nat.lt_irrefl _ (above number (accounts.failed number member))
    rw [List.zip_cons_cons, Report.failedLines_outcome_append,
      List.filter_cons_of_pos (by simpa using kept), ← accounts.outcomes]
    simp [Report.statements, found]

theorem ofFailure {statement : Statement} (accounts : Accounts report numbers statements)
    (above : ∀ place ∈ numbers, number < place) (fault : EvaluationFault) :
    Accounts (⟨[], [.atLine number (.evaluation fault)]⟩ ++ report) (number :: numbers)
      (statement :: statements) where
  evaluations := List.forall_mem_cons.mpr ⟨⟨number, fault, rfl⟩, accounts.evaluations⟩
  sameLength := congrArg (· + 1) accounts.sameLength
  failed := by
    intro place member
    rcases List.mem_cons.mp member with rfl | later
    · exact List.mem_cons_self
    · exact List.mem_cons_of_mem _ (accounts.failed place later)
  outcomes := by
    have same : (⟨[], [.atLine number (.evaluation fault)]⟩ ++ report : Report).failedLines =
        number :: report.failedLines := rfl
    rw [List.zip_cons_cons, same, List.filter_cons_of_neg (by simp), Report.statements_append,
      accounts.outcomes]
    -- The failure of this line leaves out no statement of a later one.
    refine List.filter_congr ?_
    rintro ⟨place, _⟩ member
    have apart : place ≠ number := Nat.ne_of_gt (above place (List.of_mem_zip member).1)
    simp [apart]

end Accounts

theorem exists_accounts (checked : checkFrom settings number texts = .ok statements)
    (store : Store) :
    ∃ report, (runFrom settings.goingOn number texts store).result = .ok report ∧
      Accounts report (statementNumbers number texts) statements := by
  induction texts generalizing number store statements with
  | nil =>
      cases checked
      exact ⟨.empty, rfl, .empty⟩
  | cons line later induction =>
      have above (place : Nat) (member : place ∈ statementNumbers (number + 1) later) :
          number < place := le_of_mem_statementNumbers member
      rw [checkFrom_cons] at checked
      rcases runLine_cases settings line store with
        ⟨found, unread, _⟩ | ⟨outcome, reads, ran⟩ | ⟨statement, fault, reads, ran, _⟩
      · rw [unread] at checked
        cases checked
      · rw [reads] at checked
        obtain ⟨others, went, rfl⟩ := map_eq_ok_iff.mp checked
        obtain ⟨report, ended, accounts⟩ := induction went (runLine settings line store).store
        refine ⟨⟨[(number, outcome)], []⟩ ++ report, ?_, ?_⟩
        · rw [runFrom_goingOn_cons_of_ok ran, Run.andThen_of_ok rfl]
          exact map_eq_ok_iff.mpr ⟨report, ended, rfl⟩
        · cases found : outcome.statement? with
          | none =>
              rw [found] at reads
              rw [statementNumbers_cons_of_passive (readLine_eq_none_iff.mp reads)]
              exact accounts.ofPassive found
          | some statement =>
              rw [found] at reads
              have active := Statement.isPassive_eq_false_of_read (readLine_eq_some_iff.mp reads)
              rw [statementNumbers_cons_of_active active]
              exact accounts.ofOutcome above found
      · rw [reads] at checked
        obtain ⟨others, went, rfl⟩ := map_eq_ok_iff.mp checked
        obtain ⟨report, ended, accounts⟩ := induction went store
        refine ⟨⟨[], [.atLine number (.evaluation fault)]⟩ ++ report, ?_, ?_⟩
        · rw [runFrom_goingOn_cons_of_error ran, Run.andThen_of_ok rfl]
          exact map_eq_ok_iff.mpr ⟨report, ended, rfl⟩
        · have active := Statement.isPassive_eq_false_of_read (readLine_eq_some_iff.mp reads)
          rw [statementNumbers_cons_of_active active]
          exact accounts.ofFailure above fault

theorem exists_evaluation_of_halt (checked : checkFrom settings number texts = .ok statements)
    (failed : (runFrom settings.halting number texts store).result = .error failure) :
    ∃ place fault, failure = .atLine place (.evaluation fault) := by
  obtain ⟨before, line, later, report, cause, split, rfl, _, stopped, _⟩ :=
    exists_failing_line failed
  rcases runLine_cases settings line (runFrom settings.halting number before store).store with
    ⟨fault, _, ran, _⟩ | ⟨outcome, _, ran⟩ | ⟨statement, fault, _, ran, _⟩
  · have same : cause = .reading fault := Except.error.inj (stopped.symm.trans ran)
    rw [same] at failed
    rw [checkFrom_of_runFrom_reading failed] at checked
    cases checked
  · cases stopped.symm.trans ran
  · have same : cause = .evaluation fault := Except.error.inj (stopped.symm.trans ran)
    exact ⟨_, fault, by rw [same]⟩

theorem exists_evaluation_of_mem_failures {source : Text}
    (checked : check settings source = .ok statements)
    (member : failure ∈ (run settings source store).failures) :
    ∃ place fault, failure = .atLine place (.evaluation fault) := by
  cases halts : settings.haltOnFailure with
  | true =>
      have same : settings.halting = settings := by rw [Settings.halting, ← halts]
      rw [← same] at member
      cases ran : (run settings.halting source store).result with
      | ok report =>
          rw [Run.failures_of_ok ran, (runFrom_goingOn_of_halting_ok ran).2] at member
          cases member
      | error cause =>
          rw [Run.failures_of_error ran] at member
          obtain rfl := List.mem_singleton.mp member
          exact exists_evaluation_of_halt checked ran
  | false =>
      have same : settings.goingOn = settings := by rw [Settings.goingOn, ← halts]
      obtain ⟨report, ran, accounts⟩ := exists_accounts checked store
      rw [same] at ran
      have ended : (run settings source store).result = .ok report := ran
      rw [Run.failures_of_ok ended] at member
      exact accounts.evaluations failure member

/-- Checking fails exactly as the layout does. A halting run that fails in its reading fails as the
check does, and one of a script that fails the check fails, no later. What passes the check never fails
in its reading, and going on, it reports all its statements but those that failed. -/
theorem check_agrees_with_format_and_run (settings : Settings) (source : Text) (store : Store) :
    (∀ failure, check settings source = .error failure ↔ format settings source = .error failure) ∧
      (∀ place fault,
        (run settings.halting source store).result = .error (.atLine place (.reading fault)) →
          check settings source = .error (.atLine place (.reading fault))) ∧
      (∀ failure, check settings source = .error failure →
        ∃ place fault, failure = .atLine place (.reading fault) ∧
          ∃ earlier cause, earlier ≤ place ∧
            (run settings.halting source store).result = .error (.atLine earlier cause)) ∧
      ∀ statements, check settings source = .ok statements →
        (∀ failure ∈ (run settings source store).failures,
          ∃ place fault, failure = .atLine place (.evaluation fault)) ∧
        ∃ report, (run settings.goingOn source store).result = .ok report ∧
          Accounts report (statementNumbers 1 (lines source)) statements := by
  refine ⟨?_, ?_, ?_, ?_⟩
  · intro failure
    exact checkFrom_eq_error_iff.trans map_eq_error_iff.symm
  · intro place fault failed
    exact checkFrom_of_runFrom_reading failed
  · intro failure unread
    obtain ⟨place, fault, same, _, halts⟩ := exists_halt_of_checkFrom_error unread store
    exact ⟨place, fault, same, halts⟩
  · intro statements checked
    exact ⟨fun _ member => exists_evaluation_of_mem_failures checked member,
      exists_accounts checked store⟩

/-- A line that can be read but not evaluated, a comment, and a sum. -/
def summing : Text := "SUM \"x\" \"2\"\n## then\nSUM \"1\" \"2\"".toList

/-- A line that cannot be read. -/
def breakingOff : Text := "SUM \"1\"".toList

def breakingOffFault : Fault := ⟨.missingOperand "Second".toList, 8⟩

def plainSum (first second : Text) : Statement :=
  ⟨.sum, Operation.sum.defaultLabel, [first, second], none, false⟩

theorem check_agrees_with_format_and_run_summing :
    check {} summing = .ok [plainSum ['x'] ['2'], plainSum ['1'] ['2']] ∧
      (∃ report, (run (Settings.goingOn {}) summing .empty).result = .ok report ∧
        Accounts report [1, 3] [plainSum ['x'] ['2'], plainSum ['1'] ['2']]) ∧
      (run (Settings.halting {}) breakingOff .empty).result =
        .error (.atLine 1 (.reading breakingOffFault)) ∧
      check {} breakingOff = .error (.atLine 1 (.reading breakingOffFault)) ∧
      check {} (summing ++ '\n' :: breakingOff) = .error (.atLine 4 (.reading breakingOffFault)) ∧
      ∃ earlier cause, earlier ≤ 4 ∧
        (run (Settings.halting {}) (summing ++ '\n' :: breakingOff) .empty).result =
          .error (.atLine earlier cause) := by
  have checked : check {} summing = .ok [plainSum ['x'] ['2'], plainSum ['1'] ['2']] := rfl
  have halted : (run (Settings.halting {}) breakingOff .empty).result =
      .error (.atLine 1 (.reading breakingOffFault)) := rfl
  have unread : check {} (summing ++ '\n' :: breakingOff) =
      .error (.atLine 4 (.reading breakingOffFault)) := rfl
  obtain ⟨_, stops, _, _⟩ := check_agrees_with_format_and_run {} breakingOff .empty
  obtain ⟨_, _, halts, _⟩ :=
    check_agrees_with_format_and_run {} (summing ++ '\n' :: breakingOff) .empty
  obtain ⟨_, _, _, accounts⟩ := check_agrees_with_format_and_run {} summing .empty
  obtain ⟨place, fault, same, earlier, cause, before, ran⟩ := halts _ unread
  obtain rfl : 4 = place := (Failure.atLine.inj same).1
  exact ⟨checked, (accounts _ checked).2, halted, stops _ _ halted, unread, earlier, cause, before,
    ran⟩

end Script

end LineScript
