import LineScript.Proofs.Script.Running

namespace LineScript.Script

open Text

variable {settings : Settings} {number : Nat} {texts : List Text} {store : Store}

theorem exists_report_goingOn (settings : Settings) (number : Nat) (texts : List Text)
    (store : Store) :
    ∃ report, (runFrom settings.goingOn number texts store).result = .ok report ∧
      report.Numbered number texts.length := by
  induction texts generalizing number store with
  | nil => exact ⟨.empty, rfl, Report.numbered_empty number⟩
  | cons line later induction =>
      rw [List.length_cons, Nat.add_comm]
      cases ran : (runLine settings line store).result with
      | ok outcome =>
          obtain ⟨others, went, further⟩ := induction (number + 1) (runLine settings line store).store
          refine ⟨⟨[(number, outcome)], []⟩ ++ others, ?_, ?_⟩
          · rw [runFrom_goingOn_cons_of_ok ran, Run.andThen_of_ok rfl, went]
            rfl
          · exact (Report.numbered_outcome number outcome).append further
      | error failure =>
          obtain ⟨others, went, further⟩ := induction (number + 1) store
          refine ⟨⟨[], [.atLine number failure]⟩ ++ others, ?_, ?_⟩
          · rw [runFrom_goingOn_cons_of_error ran, Run.andThen_of_ok rfl, went]
            rfl
          · exact (Report.numbered_failure number failure).append further

/-- A run that need not halt is also the run that would have gone on. -/
theorem runFrom_goingOn_of_halting_ok {report : Report}
    (ran : (runFrom settings.halting number texts store).result = .ok report) :
    runFrom settings.goingOn number texts store = runFrom settings.halting number texts store ∧
      report.failures = [] := by
  induction texts generalizing number store report with
  | nil =>
      cases ran
      exact ⟨rfl, rfl⟩
  | cons line later induction =>
      cases step : (runLine settings line store).result with
      | error failure =>
          rw [runFrom_halting_cons_of_error step] at ran
          cases ran
      | ok outcome =>
          rw [runFrom_halting_cons_of_ok step, Run.andThen_of_ok rfl] at ran
          obtain ⟨others, went, rfl⟩ := map_eq_ok_iff.mp ran
          obtain ⟨same, clean⟩ := induction went
          refine ⟨?_, clean⟩
          rw [runFrom_halting_cons_of_ok step, runFrom_goingOn_cons_of_ok step]
          exact Run.andThen_congr same

/-- A run that halts has run the lines before the failing one, and stops with what they left. -/
theorem exists_failing_line {failure : Failure}
    (failed : (runFrom settings.halting number texts store).result = .error failure) :
    ∃ before line later report cause, texts = before ++ line :: later ∧
      failure = .atLine (number + before.length) cause ∧
      (runFrom settings.halting number before store).result = .ok report ∧
      (runLine settings line (runFrom settings.halting number before store).store).result =
        .error cause ∧
      (runFrom settings.halting number texts store).store =
        (runFrom settings.halting number before store).store := by
  induction texts generalizing number store with
  | nil => cases failed
  | cons line later induction =>
      cases step : (runLine settings line store).result with
      | error cause =>
          rw [runFrom_halting_cons_of_error step] at failed
          cases failed
          refine ⟨[], line, later, .empty, cause, rfl, rfl, rfl, step, ?_⟩
          rw [runFrom_halting_cons_of_error step]
          rfl
      | ok outcome =>
          rw [runFrom_halting_cons_of_ok step, Run.andThen_of_ok rfl] at failed
          obtain ⟨before, failing, after, report, cause, rfl, place, ran, stopped, kept⟩ :=
            induction (map_eq_error_iff.mp failed)
          refine ⟨line :: before, failing, after, ⟨[(number, outcome)], []⟩ ++ report, cause, rfl,
            ?_, ?_⟩
          · rw [place, List.length_cons, Nat.add_right_comm, Nat.add_assoc]
          · rw [runFrom_halting_cons_of_ok step, runFrom_halting_cons_of_ok step,
              Run.andThen_of_ok rfl, Run.andThen_of_ok rfl]
            exact ⟨by rw [ran]; rfl, stopped, kept⟩

/-- Going on, a line that fails after lines that do not is the first failure reported. -/
theorem exists_first_failure {before later : List Text} {line : Text} {report : Report}
    {cause : Failure} (ran : (runFrom settings.halting number before store).result = .ok report)
    (stopped : (runLine settings line (runFrom settings.halting number before store).store).result =
      .error cause) :
    ∃ whole others,
      (runFrom settings.goingOn number (before ++ line :: later) store).result = .ok whole ∧
        whole.failures = .atLine (number + before.length) cause :: others := by
  obtain ⟨same, clean⟩ := runFrom_goingOn_of_halting_ok ran
  obtain ⟨others, went, _⟩ := exists_report_goingOn settings (number + before.length + 1) later
    (runFrom settings.halting number before store).store
  have first : (runFrom settings.goingOn number before store).result = .ok report := by
    rw [same, ran]
  refine ⟨report ++ (⟨[], [.atLine (number + before.length) cause]⟩ ++ others), others.failures,
    ?_, ?_⟩
  · rw [runFrom_append, Run.andThen_of_ok first, same, runFrom_goingOn_cons_of_error stopped,
      Run.andThen_of_ok rfl, went]
    rfl
  · rw [Report.failures_append, Report.failures_append, clean]
    rfl

/-- A halting run stops after so many lines: it leaves what those lines by themselves leave, whether
or not they are run to halt, and the next line, which fails there, leaves the same. -/
structure StopsAfter (settings : Settings) (source : Text) (store : Store) (count : Nat)
    (cause : Failure) : Prop where
  result : (run settings.halting source store).result = .error (.atLine (count + 1) cause)
  linesBefore : ∃ front, front <+: source ∧ lines front = (lines source).take count ∧
    (run settings.halting front store).store = (run settings.halting source store).store ∧
    (run settings.goingOn front store).store = (run settings.halting source store).store
  failingLine : ∃ line, (lines source)[count]? = some line ∧
    (runLine settings line (run settings.halting source store).store).result = .error cause ∧
    (runLine settings line (run settings.halting source store).store).store =
      (run settings.halting source store).store

theorem stopsAfter_of_failing_line {source line : Text} {before later : List Text}
    {report : Report} {cause : Failure} (split : lines source = before ++ line :: later)
    (failed : (run settings.halting source store).result =
      .error (.atLine (1 + before.length) cause))
    (ran : (runFrom settings.halting 1 before store).result = .ok report)
    (stopped : (runLine settings line (runFrom settings.halting 1 before store).store).result =
      .error cause)
    (kept : (run settings.halting source store).store =
      (runFrom settings.halting 1 before store).store) :
    StopsAfter settings source store before.length cause := by
  obtain ⟨front, isFront, taken⟩ := exists_prefix_lines source before.length
  have linesBefore : lines front = before := by
    rw [taken, split, List.take_left]
  have frontRun (chosen : Settings) : run chosen front store = runFrom chosen 1 before store := by
    rw [run, linesBefore]
  constructor
  case result => rw [failed, Nat.add_comm]
  case linesBefore =>
    refine ⟨front, isFront, taken, ?_, ?_⟩
    · rw [frontRun, kept]
    · rw [frontRun, kept, (runFrom_goingOn_of_halting_ok ran).1]
  case failingLine =>
    rw [kept]
    refine ⟨line, ?_, stopped, store_runLine_of_error stopped⟩
    rw [split, List.getElem?_append_right (Nat.le_refl _), Nat.sub_self]
    rfl

/-- Going on, a script reports every line once and fails only in its report. Halting, it succeeds
exactly if that report is free of failures, and then it is the same run; otherwise it stops at the
first of them. -/
theorem halting_agrees_with_going_on (settings : Settings) (source : Text) (store : Store) :
    ∃ report, (run settings.goingOn source store).result = .ok report ∧
      report.Numbered 1 (lines source).length ∧
      ((∃ other, (run settings.halting source store).result = .ok other) ↔ report.failures = []) ∧
      (report.failures = [] ∧
          run settings.halting source store = run settings.goingOn source store ∨
        ∃ count cause later, report.failures = .atLine (count + 1) cause :: later ∧
          StopsAfter settings source store count cause) := by
  obtain ⟨report, ran, numbered⟩ := exists_report_goingOn settings 1 (lines source) store
  refine ⟨report, ran, numbered, ?_⟩
  cases halted : (run settings.halting source store).result with
  | ok other =>
      obtain ⟨same, clean⟩ := runFrom_goingOn_of_halting_ok halted
      have equal : report = other := by
        rw [same] at ran
        exact Except.ok.inj (ran.symm.trans halted)
      subst equal
      exact ⟨⟨fun _ => clean, fun _ => ⟨report, rfl⟩⟩, .inl ⟨clean, same.symm⟩⟩
  | error failure =>
      obtain ⟨before, line, later, first, cause, split, rfl, passed, stopped, kept⟩ :=
        exists_failing_line halted
      obtain ⟨whole, others, went, failures⟩ := exists_first_failure passed stopped
      have equal : whole = report := by
        rw [← split] at went
        exact Except.ok.inj (went.symm.trans ran)
      subst equal
      have stops := stopsAfter_of_failing_line split halted passed stopped kept
      rw [Nat.add_comm] at failures
      refine ⟨⟨?_, ?_⟩, .inr ⟨before.length, cause, others, failures, stops⟩⟩
      · rintro ⟨_, impossible⟩
        cases impossible
      · intro clean
        rw [clean] at failures
        cases failures

end LineScript.Script
